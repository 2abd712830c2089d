import SourceSimilarity.Decimal.Rounding

namespace SourceSimilarity.Decimal

/-- A finite floating-point number. Zero has a sign as well. -/
structure Binary where
  negative : Bool
  significand : Nat
  exponent : Int
deriving DecidableEq, Repr

def leadingBit : Nat := 4503599627370496

def topField : Nat := 2047

def Binary.ofFloat? (x : Float) : Option Binary :=
  let bits := x.toBits.toNat
  let negative := bits / leadingBit / (topField + 1) == 1
  let field : Nat := bits / leadingBit % (topField + 1)
  let fraction : Nat := bits % leadingBit
  if field = topField then none
  else if field = 0 then some ⟨negative, fraction, -1074⟩
  else some ⟨negative, leadingBit + fraction, (field : Int) - 1075⟩

def Binary.ratio (b : Binary) : Nat × Nat :=
  (b.significand * powerUp 2 b.exponent, powerDown 2 b.exponent)

/-- The bit pattern of the floating-point number nearest to a fraction. Where the quotient lies in
`[2 ^ e, 2 ^ (e + 1))` the numbers are `2 ^ (e - 52)` apart, and never closer than `2 ^ -1074`; a
significand that rounds up to the next power of two carries into the exponent by itself. -/
def nearestBits (numerator denominator : Nat) : Nat :=
  if numerator = 0 then 0
  else
    let guess : Int := (numerator.log2 : Int) - denominator.log2
    let e := if numerator * powerDown 2 guess < denominator * powerUp 2 guess then guess - 1
      else guess
    let unit := max (e - 52) (-1074)
    let significand := roundHalfEven (numerator * powerDown 2 unit) (denominator * powerUp 2 unit)
    min ((unit + 1074).toNat * leadingBit + significand) (topField * leadingBit)

/-- The floating-point number nearest to a fraction, infinity where that lies beyond the largest. -/
def nearestFloat (numerator denominator : Nat) : Float :=
  Float.ofBits (UInt64.ofNat (nearestBits numerator denominator))

/-- The floating-point number nearest to `± significand · 10 ^ exponent`. Far outside the range of
the format the answer is known before the power is taken. -/
def floatOfDecimal (negative : Bool) (significand : Nat) (exponent : Int) : Float :=
  let size := ((Nat.toDigits 10 significand).length : Int) + exponent
  let magnitude :=
    if significand = 0 || size < -400 then 0.0
    else if size > 400 then nearestFloat (powerUp 10 400) 1
    else nearestFloat (significand * powerUp 10 exponent) (powerDown 10 exponent)
  if negative then -magnitude else magnitude

def floatOfInt (n : Int) : Float :=
  let magnitude := nearestFloat n.natAbs 1
  if n < 0 then -magnitude else magnitude

def truncate? (x : Float) : Option Int :=
  (Binary.ofFloat? x).map fun b =>
    let magnitude := b.ratio.1 / b.ratio.2
    if b.negative then -(magnitude : Int) else magnitude

end SourceSimilarity.Decimal
