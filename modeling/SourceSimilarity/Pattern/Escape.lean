import SourceSimilarity.Pattern.Mark
import SourceSimilarity.Pattern.CharSet
import SourceSimilarity.Text.CharName
import SourceSimilarity.Text.Hex

namespace SourceSimilarity.Pattern

inductive EscapeCode where
  | point (n : Nat)
  | members (class_ : CharClass) (complement : Bool)

def EscapeCode.item : EscapeCode → SetItem
  | .point n => .point n
  | .members class_ complement => .members class_ complement

/-- The class of a letter behind a backslash. A capital stands for the complement. -/
def classOf? : Char → Option EscapeCode
  | 'd' => some (.members .digit false)
  | 'D' => some (.members .digit true)
  | 's' => some (.members .blank false)
  | 'S' => some (.members .blank true)
  | 'w' => some (.members .word false)
  | 'W' => some (.members .word true)
  | _ => none

def controlOf? : Char → Option Nat
  | 'a' => some 7
  | 'b' => some 8
  | 'f' => some 12
  | 'n' => some 10
  | 'r' => some 13
  | 't' => some 9
  | 'v' => some 11
  | _ => none

def isOctal (c : Char) : Bool := '0' ≤ c && c ≤ '7'

def valueOf (base : Nat) (digits : List Char) : Nat :=
  digits.foldl (fun value c => value * base + (Text.hexValue? c).getD 0) 0

def hexEscape (letter : Char) (count : Nat) (cursor : Cursor) :
    Except RegexError (Nat × Cursor) := do
  let (digits, cursor) ← cursor.takeWhile (fun c => (Text.hexValue? c).isSome) count
  let escape : List Text.Point := ('\\' :: letter :: digits).map .char
  if digits.length ≠ count then throw (cursor.fault (.incompleteEscape escape) escape.length)
  let value := valueOf 16 digits
  if value > 0x7fffffff then throw .numberTooLarge
  if value > 0x10ffff then throw (cursor.fault (.badEscape escape) escape.length)
  pure (value, cursor)

def namedEscape (cursor : Cursor) : Except RegexError (Nat × Cursor) := do
  let (opened, cursor) ← cursor.accept (Char.ofNat 0x7b)
  if !opened then throw (cursor.fault .missingBrace 0)
  let (name, cursor) ← cursor.takeName .character (Char.ofNat 0x7d)
  match Text.namedPoint? (Text.ofPoints name) with
  | some point => pure (point, cursor)
  | none => throw (cursor.fault (.unknownCharacter (Text.ofPoints name)) (name.length + 4))

def numberEscape? (letter : Char) (cursor : Cursor) : Option (Except RegexError (Nat × Cursor)) :=
  match letter with
  | 'x' => some (hexEscape 'x' 2 cursor)
  | 'u' => some (hexEscape 'u' 4 cursor)
  | 'U' => some (hexEscape 'U' 8 cursor)
  | 'N' => some (namedEscape cursor)
  | _ => none

/-- An escape that stands for itself: any character but an ASCII letter. -/
def plainEscape (p : Text.Point) (cursor : Cursor) : Except RegexError (Nat × Cursor) :=
  if p.char?.any Char.isAlpha then .error (cursor.fault (.badEscape ['\\', p]) 2)
  else .ok (p.code, cursor)

/-- The number of an octal escape, which has to be that of one byte. -/
def octalEscape (digits : List Char) (cursor : Cursor) : Except RegexError (Nat × Cursor) :=
  let value := valueOf 8 digits
  let escape : List Text.Point := ('\\' :: digits).map .char
  if value > 0o377 then .error (cursor.fault (.octalRange escape) escape.length)
  else .ok (value, cursor)

def setEscape (c : Char) (cursor : Cursor) : Except RegexError (EscapeCode × Cursor) := do
  match classOf? c, controlOf? c, numberEscape? c cursor with
  | some code, _, _ => pure (code, cursor)
  | none, some point, _ => pure (.point point, cursor)
  | none, none, some number =>
    let (point, cursor) ← number
    pure (.point point, cursor)
  | none, none, none =>
    if isOctal c then
      let (digits, cursor) ← cursor.takeWhile isOctal 2
      let (point, cursor) ← octalEscape (c :: digits) cursor
      pure (.point point, cursor)
    else if c.isDigit then throw (cursor.fault (.badEscape ['\\', c]) 2)
    else
      let (point, cursor) ← plainEscape c cursor
      pure (.point point, cursor)

def setMember (mark : Mark) (cursor : Cursor) : Except RegexError (EscapeCode × Cursor) :=
  match mark with
  | ['\\', .char c] => setEscape c cursor
  | ['\\', .half h] => .ok (.point h.unit, cursor)
  | p :: _ => .ok (.point p.code, cursor)
  | [] => .error .tooDeep

def rangeItem (first last : EscapeCode) : Option SetItem :=
  match first, last with
  | .point first, .point last => if first ≤ last then some (.range first last) else none
  | _, _ => none

/-- Reads the members of a set up to its closing bracket. `opening` is the position of its opening
one. A closing bracket in front of all members is one itself. -/
def readSet (opening : Nat) (items : List SetItem) (cursor : Cursor) :
    Nat → Except RegexError (List SetItem × Cursor)
  | 0 => .error .tooDeep
  | fuel + 1 => do
    let (mark, cursor) ← cursor.take
    let some mark := mark | throw (.malformed .unterminatedSet opening)
    if mark = [.char ']'] ∧ items ≠ [] then pure (items, cursor)
    else
      let (first, cursor) ← setMember mark cursor
      let (hyphen, cursor) ← cursor.accept '-'
      if !hyphen then readSet opening (items ++ [first.item]) cursor fuel
      else
        let (second, cursor) ← cursor.take
        let some second := second | throw (.malformed .unterminatedSet opening)
        if second = [.char ']'] then pure (items ++ [first.item, .point '-'.toNat], cursor)
        else
          let (last, cursor) ← setMember second cursor
          match rangeItem first last with
          | some item => readSet opening (items ++ [item]) cursor fuel
          | none =>
            throw (cursor.fault (.badRange mark second) (mark.length + 1 + second.length))

end SourceSimilarity.Pattern
