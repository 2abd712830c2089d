import SourceSimilarity.Decimal.Places
import SourceSimilarity.Decimal.Shortest

namespace SourceSimilarity.Decimal

/-- A fraction rounded to so many digits: the digits, and the exponent of the first of them. Digits
that are rounded up to one more move the exponent. -/
def significant (count numerator denominator : Nat) : Nat × Int :=
  if numerator = 0 then (0, 0)
  else
    let leading := decimalExponent numerator denominator
    let shift := (count : Int) - 1 - leading
    let digits :=
      roundHalfEven (numerator * powerUp 10 shift) (denominator * powerDown 10 shift)
    if digits < powerUp 10 count then (digits, leading) else (digits / 10, leading + 1)

def exponentText (exponent : Int) : List Char :=
  let digits := Nat.toDigits 10 exponent.natAbs
  'e' :: (if exponent < 0 then '-' else '+') :: List.replicate (2 - digits.length) '0' ++ digits

def pointText (keepsPoint : Bool) (places units : Nat) : List Char :=
  (placesText places units).toList ++ if keepsPoint && places == 0 then ['.'] else []

def dropPlaces (text : List Char) : List Char :=
  if text.contains '.' then
    match text.reverse.dropWhile (· == '0') with
    | '.' :: whole => whole.reverse
    | rest => rest.reverse
  else text

inductive Form where
  | fixed
  | scientific
  | general
deriving DecidableEq, Repr

def Form.text (form : Form) (precision : Nat) (keepsPoint : Bool) (numerator denominator : Nat) :
    List Char :=
  match form with
  | .fixed =>
    pointText keepsPoint precision
      (roundHalfEven (numerator * powerUp 10 precision) denominator)
  | .scientific =>
    let (digits, exponent) := significant (precision + 1) numerator denominator
    pointText keepsPoint precision digits ++ exponentText exponent
  | .general =>
    let count := max 1 precision
    let (digits, exponent) := significant count numerator denominator
    let shown (places : Nat) : List Char :=
      let text := pointText keepsPoint places digits
      if keepsPoint then text else dropPlaces text
    if -4 ≤ exponent && exponent < count then shown ((count : Int) - 1 - exponent).toNat
    else shown (count - 1) ++ exponentText exponent

end SourceSimilarity.Decimal
