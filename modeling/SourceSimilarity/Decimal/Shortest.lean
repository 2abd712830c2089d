import SourceSimilarity.Decimal.Binary

/-!
Shortest decimal text. A floating-point number is the nearest one to every fraction in an interval
around it, whose ends belong to it when its significand is even. It is written with the fewest
digits of a decimal in that interval, and of those decimals the nearest.
-/

namespace SourceSimilarity.Decimal

/-- A positive decimal: `digits · 10 ^ exponent`. -/
structure Digits where
  digits : Nat
  exponent : Int
deriving DecidableEq, Repr

/-- The interval of a positive number, in quarters of the unit of its last place: its lower end, the
number, its upper end. Below a power of two the numbers lie twice as close. -/
def quarters (b : Binary) : Nat × Nat × Nat :=
  let centre := 4 * b.significand
  let below := if b.significand == leadingBit && b.exponent > -1074 then 1 else 2
  (centre - below, centre, centre + 2)

/-- The largest exponent `e` with `10 ^ e ≤ numerator / denominator`. -/
def decimalExponent (numerator denominator : Nat) : Int :=
  let guess : Int := ((Nat.toDigits 10 numerator).length : Int) -
    ((Nat.toDigits 10 denominator).length : Int)
  if numerator * powerDown 10 guess < denominator * powerUp 10 guess then guess - 1 else guess

/-- The decimal of the grid of multiples of `10 ^ grid` that lies in the interval of `b` and is
nearest to it, if there is one. Of a grid only the two neighbours of the number have to be tried:
when any point of the grid lies in the interval, one of them does. -/
def onGrid? (b : Binary) (grid : Int) : Option Digits :=
  let (low, centre, high) := quarters b
  let left := powerDown 2 (b.exponent - 2) * powerUp 10 grid
  let right := powerUp 2 (b.exponent - 2) * powerDown 10 grid
  let closed := b.significand % 2 == 0
  let inside (d : Nat) : Bool :=
    (low * right < d * left || (closed && low * right == d * left)) &&
      (d * left < high * right || (closed && d * left == high * right))
  let lower := centre * right / left
  let upper := lower + 1
  let downward := centre * right - lower * left
  let upward := upper * left - centre * right
  match inside lower, inside upper with
  | true, true =>
    if downward < upward || (downward == upward && lower % 2 == 0) then some ⟨lower, grid⟩
    else some ⟨upper, grid⟩
  | true, false => some ⟨lower, grid⟩
  | false, true => some ⟨upper, grid⟩
  | false, false => none

def Digits.normalize (d : Digits) : Digits :=
  if h : d.digits ≠ 0 ∧ d.digits % 10 = 0 then
    normalize ⟨d.digits / 10, d.exponent + 1⟩
  else d
termination_by d.digits
decreasing_by exact Nat.div_lt_self (Nat.pos_of_ne_zero h.1) (by decide)

/-- The shortest decimal that reads back as the positive number `b`. Seventeen digits always do. -/
def shortest (b : Binary) : Digits :=
  let leading := decimalExponent b.ratio.1 b.ratio.2
  match (List.range 17).findSome? fun (count : Nat) => onGrid? b (leading - (count : Int)) with
  | some d => d.normalize
  | none => ⟨b.ratio.1 / b.ratio.2, 0⟩

/-- How a decimal is laid out: for which places of the decimal point it is written out, and how many
digits an exponent has at least. The point stands after the first digit at place one. -/
structure Layout where
  leastPlace : Int
  greatestPlace : Int
  exponentDigits : Nat

def Layout.plain : Layout := ⟨-3, 16, 2⟩

def Layout.write (layout : Layout) (d : Digits) : String :=
  let digits := Nat.toDigits 10 d.digits
  let place := (digits.length : Int) + d.exponent
  if layout.leastPlace ≤ place && place ≤ layout.greatestPlace then
    if place ≤ 0 then
      String.ofList ("0.".toList ++ List.replicate (-place).toNat '0' ++ digits)
    else
      let whole := digits.take place.toNat ++ List.replicate (place.toNat - digits.length) '0'
      let fraction := digits.drop place.toNat
      String.ofList (whole ++ '.' :: (if fraction.isEmpty then ['0'] else fraction))
  else
    let shown := place - 1
    let magnitude := Nat.toDigits 10 shown.natAbs
    let mantissa := match digits with
      | first :: second :: rest => first :: '.' :: second :: rest
      | digits => digits
    String.ofList (mantissa ++ 'e' :: (if shown < 0 then '-' else '+') ::
      List.replicate (layout.exponentDigits - magnitude.length) '0' ++ magnitude)

structure Spelling where
  notANumber : String
  infinity : String

def floatText (spelling : Spelling) (x : Float) : String :=
  match Binary.ofFloat? x with
  | none =>
    if x.isNaN then spelling.notANumber
    else if x < 0 then "-" ++ spelling.infinity else spelling.infinity
  | some b =>
    let magnitude := if b.significand = 0 then "0.0" else Layout.plain.write (shortest b)
    if b.negative then "-" ++ magnitude else magnitude

end SourceSimilarity.Decimal
