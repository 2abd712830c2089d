import SourceSimilarity.Fingerprint.Hash
import SourceSimilarity.Fingerprint.Winnowing
import SourceSimilarity.Text.Utf16

namespace SourceSimilarity.Fingerprint

def unitsOf (text : List Text.Point) : List Int := (Text.units16 text).map Int.ofNat

def hashText (text : List Text.Point) : Int := hashUnits (unitsOf text)

def ofText (k w : Nat) (text : List Text.Point) : List Int :=
  let units := unitsOf text
  if units.length ≤ k then [hashUnits units]
  else (winnow w (gramHashes k units)).mergeSort (fun a b => decide (a ≤ b))

end SourceSimilarity.Fingerprint
