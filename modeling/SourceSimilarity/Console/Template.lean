import SourceSimilarity.Console.Conversion

/-!
Message templates. A place in a template is a percent sign, a key in parentheses, flags, a width, a
precision behind a point, a letter for the size of numbers, which changes nothing, and the letter of
a conversion; all but the first and the last may be missing. A star stands for a width or a
precision that is supplied like a value. Keys ask for the fields of an object, which is then all that
is supplied. A doubled percent sign stands for one.
-/

namespace SourceSimilarity

open Json (Value)

/-- A width or a precision: written in the template, or supplied like a value. -/
inductive Amount where
  | written (n : Nat)
  | supplied
deriving DecidableEq, Repr

structure Place where
  key : Option String := none
  setting : Setting := {}
  width : Amount := .written 0
  precision : Option Amount := none
  conversion : Conversion := .display
deriving DecidableEq, Repr

inductive Piece where
  | point (p : Text.Point)
  | place (place : Place)
deriving DecidableEq, Repr

def greatestWidth : Nat := 9223372036854775807

def greatestPrecision : Nat := 2147483647

inductive Stage where
  | text
  | begun
  | key (depth : Nat) (read : List Text.Point)
  | flags (place : Place)
  | width (place : Place) (n : Nat)
  | point (place : Place)
  | behindPoint (place : Place)
  | precision (place : Place) (n : Nat)
  | size (place : Place)
  | letter (place : Place)

namespace Stage

/-- The stage behind a character and the pieces that it completes. -/
abbrev Step := Option (Stage × List Piece)

def goOn (stage : Stage) : Step := some (stage, [])

def readLetter (place : Place) (c : Char) : Step :=
  (Conversion.ofLetter? c).map fun conversion => (.text, [.place { place with conversion }])

def readSize (place : Place) (c : Char) : Step :=
  if c = 'h' ∨ c = 'l' ∨ c = 'L' then goOn (.letter place) else readLetter place c

def readPrecision (place : Place) (n : Nat) (c : Char) : Step :=
  if c.isDigit then
    let next := n * 10 + (c.toNat - 48)
    if next ≤ greatestPrecision then goOn (.precision place next) else none
  else readSize { place with precision := some (.written n) } c

def readBehindPoint (place : Place) (c : Char) : Step :=
  if c = '*' then goOn (.size { place with precision := some .supplied })
  else readPrecision place 0 c

def readPoint (place : Place) (c : Char) : Step :=
  if c = '.' then goOn (.behindPoint place) else readSize place c

def readWidth (place : Place) (n : Nat) (c : Char) : Step :=
  if c.isDigit then
    let next := n * 10 + (c.toNat - 48)
    if next ≤ greatestWidth then goOn (.width place next) else none
  else readPoint { place with width := .written n } c

def readFlag (place : Place) (c : Char) : Step :=
  match place.setting.flagged? c with
  | some setting => goOn (.flags { place with setting })
  | none =>
    if c = '*' then goOn (.point { place with width := .supplied }) else readWidth place 0 c

def readKey (depth : Nat) (read : List Text.Point) (p : Text.Point) : Step :=
  if p = .char '(' then goOn (.key (depth + 1) (p :: read))
  else if p ≠ .char ')' then goOn (.key depth (p :: read))
  else if depth = 0 then goOn (.flags { key := some (Text.ofPoints read.reverse) })
  else goOn (.key (depth - 1) (p :: read))

def readBegun (c : Char) : Step :=
  if c = '%' then some (.text, [.point '%'])
  else if c = '(' then goOn (.key 0 [])
  else readFlag {} c

def read : Stage → Text.Point → Step
  | .text, p => if p = .char '%' then goOn .begun else some (.text, [.point p])
  | .key depth read, p => readKey depth read p
  | _, .half _ => none
  | .begun, .char c => readBegun c
  | .flags place, .char c => readFlag place c
  | .width place n, .char c => readWidth place n c
  | .point place, .char c => readPoint place c
  | .behindPoint place, .char c => readBehindPoint place c
  | .precision place n, .char c => readPrecision place n c
  | .size place, .char c => readSize place c
  | .letter place, .char c => readLetter place c

end Stage

/-- The pieces of a template from a stage on; none if a place is malformed or not complete. -/
def Piece.ofText? : Stage → List Text.Point → Option (List Piece)
  | .text, [] => some []
  | _, [] => none
  | stage, p :: rest => do
    let (next, pieces) ← stage.read p
    pure (pieces ++ (← ofText? next rest))

structure Supply where
  values : List Value
  fields? : Option (List (String × Value)) := none

namespace Supply

/-- The supply of some values. An object that stands alone and is not empty can be asked by key. -/
def ofValues (values : List Value) : Supply :=
  match values with
  | [.object (field :: fields)] => { values, fields? := some (field :: fields) }
  | _ => { values }

def take? (supply : Supply) : Option (Value × Supply) :=
  match supply.values with
  | [] => none
  | value :: values => some (value, { supply with values })

def for? (supply : Supply) : Option String → Option Supply
  | none => some supply
  | some key => do
    let value ← (← supply.fields?).lookup key
    pure { supply with values := [value] }

def amount? (supply : Supply) : Amount → Option (Int × Supply)
  | .written n => some (n, supply)
  | .supplied => do
    let (value, supply) ← supply.take?
    pure (← wholeNumber? value, supply)

/-- Takes a precision. A negative one stands for zero. -/
def precision? (supply : Supply) : Option Amount → Option (Option Nat × Supply)
  | none => some (none, supply)
  | some amount => do
    let (n, supply) ← supply.amount? amount
    if n.natAbs ≤ greatestPrecision then some (some n.toNat, supply) else none

def isUsedUp (supply : Supply) : Bool := supply.fields?.isSome || supply.values.isEmpty

end Supply

def Place.fill? (place : Place) (supply : Supply) : Option (List Text.Point × Supply) := do
  let supply ← supply.for? place.key
  let (width, supply) ← supply.amount? place.width
  if greatestWidth < width.natAbs then none
  let setting := { place.setting with isLeft := place.setting.isLeft || width < 0 }
  let (precision, supply) ← supply.precision? place.precision
  let (value, supply) ← supply.take?
  let converted ← place.conversion.convert? setting precision value
  pure (converted.set setting width.natAbs, supply)

def Piece.fill? : List Piece → Supply → Option (List Text.Point)
  | [], supply => if supply.isUsedUp then some [] else none
  | .point p :: pieces, supply => (fill? pieces supply).map (p :: ·)
  | .place spot :: pieces, supply => do
    let (text, supply) ← spot.fill? supply
    pure (text ++ (← fill? pieces supply))

/-- A template filled with values. Without values it stands for itself. -/
def fillTemplate? (template : String) (values : List Value) : Option String :=
  if values.isEmpty then some template
  else do
    let pieces ← Piece.ofText? .text (Text.points template.toList)
    (Piece.fill? pieces (.ofValues values)).map Text.ofPoints

end SourceSimilarity
