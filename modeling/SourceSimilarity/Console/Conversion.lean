import SourceSimilarity.Decimal.Scientific
import SourceSimilarity.Json.Shown

namespace SourceSimilarity

open Json (Value)

inductive Conversion where
  | display
  | inspect
  | ascii
  | whole
  | octal
  | hexadecimal (isCapital : Bool)
  | decimal (form : Decimal.Form) (isCapital : Bool)
  | character
deriving DecidableEq, Repr

def Conversion.ofLetter? : Char → Option Conversion
  | 's' => some .display
  | 'r' => some .inspect
  | 'a' => some .ascii
  | 'd' | 'i' | 'u' => some .whole
  | 'o' => some .octal
  | 'x' => some (.hexadecimal false)
  | 'X' => some (.hexadecimal true)
  | 'e' => some (.decimal .scientific false)
  | 'E' => some (.decimal .scientific true)
  | 'f' => some (.decimal .fixed false)
  | 'F' => some (.decimal .fixed true)
  | 'g' => some (.decimal .general false)
  | 'G' => some (.decimal .general true)
  | 'c' => some .character
  | _ => none

structure Setting where
  isLeft : Bool := false
  hasPlus : Bool := false
  hasBlank : Bool := false
  isMarked : Bool := false
  hasZeros : Bool := false
deriving DecidableEq, Repr

def Setting.flagged? (setting : Setting) : Char → Option Setting
  | '-' => some { setting with isLeft := true }
  | '+' => some { setting with hasPlus := true }
  | ' ' => some { setting with hasBlank := true }
  | '#' => some { setting with isMarked := true }
  | '0' => some { setting with hasZeros := true }
  | _ => none

def Setting.sign (setting : Setting) (isNegative : Bool) : List Char :=
  if isNegative then ['-']
  else if setting.hasPlus then ['+']
  else if setting.hasBlank then [' ']
  else []

/-- A converted value: its sign and mark, the text itself, and whether it is a number. -/
structure Converted where
  lead : List Char := []
  body : List Text.Point
  isNumber : Bool := false

def Converted.set (setting : Setting) (width : Nat) (converted : Converted) : List Text.Point :=
  let { lead, body, isNumber } := converted
  let room (filler : Char) : List Text.Point :=
    List.replicate (width - (lead.length + body.length)) (.char filler)
  if setting.isLeft then lead.map .char ++ body ++ room ' '
  else if isNumber && setting.hasZeros then lead.map .char ++ room '0' ++ body
  else room ' ' ++ lead.map .char ++ body

theorem Converted.length_set (setting : Setting) (width : Nat) (converted : Converted) :
    (converted.set setting width).length =
      max width (converted.lead.length + converted.body.length) := by
  simp only [Converted.set]
  split
  · simp only [List.length_append, List.length_map, List.length_replicate]
    omega
  · split
    · simp only [List.length_append, List.length_map, List.length_replicate]
      omega
    · simp only [List.length_append, List.length_map, List.length_replicate]
      omega

/-- A value that is a whole number. The truth values count as one and zero. -/
def wholeNumber? : Value → Option Int
  | .number (.whole n) => some n
  | .bool b => some (if b then 1 else 0)
  | _ => none

def cutNumber? : Value → Option Int
  | .number (.float x) => Decimal.truncate? x
  | value => wholeNumber? value

/-- A value as a floating-point number. A whole number may be too large for that. -/
def floatNumber? : Value → Option Float
  | .number (.float x) => some x
  | value => do
    let x := Decimal.floatOfInt (← wholeNumber? value)
    if x.isInf then none else some x

def character? : Value → Option Text.Point
  | .string s =>
    match Text.points s.toList with
    | [p] => some p
    | _ => none
  | value => do
    let n ← wholeNumber? value
    if 0 ≤ n ∧ n ≤ 0x10ffff then some (Text.pointOf n.toNat) else none

def asciiText (p : Text.Point) : List Text.Point :=
  if p.code < 0x80 then [p] else (Text.numberEscape p.code).map .char

namespace Conversion

def textOf (precision : Option Nat) (text : List Text.Point) : Converted where
  body := (precision.map text.take).getD text

def digitsOf (setting : Setting) (precision : Option Nat) (base : Nat) (mark : List Char)
    (n : Int) : Converted :=
  let digits := Nat.toDigits base n.natAbs
  { lead := setting.sign (n < 0) ++ if setting.isMarked then mark else []
    body := (List.replicate (precision.getD 0 - digits.length) '0' ++ digits).map .char
    isNumber := true }

def decimalOf (setting : Setting) (precision : Option Nat) (form : Decimal.Form) (x : Float) :
    Converted :=
  match Decimal.Binary.ofFloat? x with
  | none => {
      lead := setting.sign (x < 0)
      body := if x.isNaN then ['n', 'a', 'n'] else ['i', 'n', 'f']
      isNumber := true }
  | some b => {
      lead := setting.sign b.negative
      body := (form.text (precision.getD 6) setting.isMarked b.ratio.1 b.ratio.2).map .char
      isNumber := true }

def capitalized (isCapital : Bool) (converted : Converted) : Converted :=
  if isCapital then
    { converted with
      lead := converted.lead.map Char.toUpper
      body := converted.body.map (·.map Char.toUpper) }
  else converted

def convert? (setting : Setting) (precision : Option Nat) (conversion : Conversion) (value : Value) :
    Option Converted :=
  match conversion with
  | .display => some (textOf precision (Text.points value.display.toList))
  | .inspect => some (textOf precision (Text.points value.inspect.toList))
  | .ascii => some (textOf precision ((Text.points value.inspect.toList).flatMap asciiText))
  | .whole => (cutNumber? value).map (digitsOf setting precision 10 [])
  | .octal => (wholeNumber? value).map (digitsOf setting precision 8 ['0', 'o'])
  | .hexadecimal isCapital =>
    (wholeNumber? value).map fun n =>
      capitalized isCapital (digitsOf setting precision 16 ['0', 'x'] n)
  | .decimal form isCapital =>
    (floatNumber? value).map fun x =>
      capitalized isCapital (decimalOf setting precision form x)
  | .character => (character? value).map fun p => { body := [p] }

end Conversion

end SourceSimilarity
