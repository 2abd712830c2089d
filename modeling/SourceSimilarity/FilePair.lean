import SourceSimilarity.Text.Point

namespace SourceSimilarity

structure FilePair where
  first : String
  second : String
  ordered : Text.Before first second
deriving DecidableEq

structure SameFile where
  path : String
deriving DecidableEq, Repr

def SameFile.message (e : SameFile) : String := s!"A file cannot be paired with itself: {e.path}"

namespace FilePair

def of (a b : String) : Except SameFile FilePair :=
  if forward : Text.Before a b then .ok ⟨a, b, forward⟩
  else if backward : Text.Before b a then .ok ⟨b, a, backward⟩
  else .error ⟨a⟩

def text (pair : FilePair) : String := "\x7b" ++ pair.first ++ ", " ++ pair.second ++ "\x7d"

def notAfter (a b : FilePair) : Bool :=
  if Text.Before a.first b.first then true
  else if Text.Before b.first a.first then false
  else !decide (Text.Before b.second a.second)

end FilePair

end SourceSimilarity
