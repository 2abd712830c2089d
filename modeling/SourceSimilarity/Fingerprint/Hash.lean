/-!
Hashes of unit sequences. A sequence is read as the digits of a number to base 31, reduced to 32
bits and taken as a signed number. The hashes of all windows of one length are computed by rolling:
the unit that leaves is taken off, the unit that enters is put on.
-/

namespace SourceSimilarity.Fingerprint

def base : Int := 31

def modulus : Int := 4294967296

def signed (residue : Int) : Int := if residue < 2147483648 then residue else residue - modulus

def extend (residue unit : Int) : Int := (residue * base + unit) % modulus

def residueOf (units : List Int) : Int := units.foldl extend 0

def hashUnits (units : List Int) : Int := signed (residueOf units)

/-- The hashes after the first one, as a window slides over a sequence: `leaving` are the units
from the window's left end on, `entering` those from behind its right end on, and `top` is the
weight of the window's first unit. -/
def roll (top residue : Int) (leaving entering : List Int) : List Int :=
  match leaving, entering with
  | out :: leaving, unit :: entering =>
    let next := extend (residue - out * top) unit
    signed next :: roll top next leaving entering
  | _, _ => []

/-- The hashes of all windows of `k` units, from left to right. -/
def gramHashes (k : Nat) (units : List Int) : List Int :=
  if units.length < k then []
  else
    let first := residueOf (units.take k)
    signed first :: roll (base.pow (k - 1) % modulus) first units (units.drop k)

end SourceSimilarity.Fingerprint
