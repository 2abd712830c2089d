import SourceSimilarity.Decimal.Binary

namespace SourceSimilarity.Decimal

def placesText (places units : Nat) : String :=
  let digits := Nat.toDigits 10 units
  let padded := List.replicate (places + 1 - digits.length) '0' ++ digits
  if places = 0 then String.ofList padded
  else
    let split := padded.length - places
    String.ofList (padded.take split ++ '.' :: padded.drop split)

def fixedPlaces (places : Nat) (x : Float) : String :=
  match Binary.ofFloat? x with
  | none => if x.isNaN then "nan" else if x < 0 then "-inf" else "inf"
  | some b =>
    let units := roundHalfEven (b.ratio.1 * powerUp 10 places) b.ratio.2
    let magnitude := placesText places units
    if b.negative then "-" ++ magnitude else magnitude

/-- A share as a whole number of percent, rounded after it is multiplied by one hundred. -/
def percentText (share : Float) : String := fixedPlaces 0 (share * 100) ++ "%"

end SourceSimilarity.Decimal
