import SourceSimilarity.Text.Blank
import SourceSimilarity.Text.Digit

namespace SourceSimilarity.Text

/-- White space in the sense of Unicode, without the information separators. -/
def isMargin (c : Char) : Bool := isBlank c && !(0x1c ≤ c.toNat && c.toNat ≤ 0x1f)

def withoutMargins (text : List Char) : List Char :=
  ((text.dropWhile isMargin).reverse.dropWhile isMargin).reverse

def valueOfDigits (digits : List Nat) : Nat :=
  digits.foldl (fun value digit => 10 * value + digit) 0

def groupDigits? (group : List Char) : Option (List Nat) :=
  if group.isEmpty then none else group.mapM digitValue?

def natural? (text : List Char) : Option Nat := do
  let digits := (← (text.splitOn '_').mapM groupDigits?).flatten
  if digits.length ≤ digitLimit then some (valueOfDigits digits) else none

def wholeNumber? (text : List Char) : Option Int :=
  match withoutMargins text with
  | '-' :: unsigned => (natural? unsigned).map fun n => -(n : Int)
  | '+' :: unsigned => (natural? unsigned).map Int.ofNat
  | unsigned => (natural? unsigned).map Int.ofNat

end SourceSimilarity.Text
