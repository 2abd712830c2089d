import SourceSimilarity.Decimal.Shortest
import SourceSimilarity.Decimal.Places

namespace SourceSimilarity.Decimal

inductive Number where
  | whole (n : Int)
  | float (x : Float)
deriving BEq, Repr, Inhabited

def Number.toFloat : Number → Float
  | .whole n => floatOfInt n
  | .float x => x

def Number.text (spelling : Spelling) : Number → String
  | .whole n => toString n
  | .float x => floatText spelling x

def messageSpelling : Spelling := ⟨"nan", "inf"⟩

end SourceSimilarity.Decimal
