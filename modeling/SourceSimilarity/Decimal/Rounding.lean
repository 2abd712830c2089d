namespace SourceSimilarity.Decimal

/-- The whole number nearest to `numerator / denominator`, the even one of two that are equally
near. -/
def roundHalfEven (numerator denominator : Nat) : Nat :=
  let quotient := numerator / denominator
  let twice := 2 * (numerator % denominator)
  if twice < denominator || (twice == denominator && quotient % 2 == 0) then quotient
  else quotient + 1

/-- The power `base ^ exponent` for an exponent that is not negative, else one. -/
def powerUp (base : Nat) (exponent : Int) : Nat := base.pow exponent.toNat

/-- The power `base ^ (-exponent)` for an exponent that is not positive, else one. -/
def powerDown (base : Nat) (exponent : Int) : Nat := base.pow (-exponent).toNat

end SourceSimilarity.Decimal
