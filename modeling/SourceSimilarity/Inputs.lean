import SourceSimilarity.FilePair
import SourceSimilarity.Position

namespace SourceSimilarity

structure Inputs where
  files : List String
  pairs : List (Int × Int)
deriving DecidableEq, Repr

inductive PairError where
  | noPair
  | sameFile (e : SameFile)
deriving DecidableEq, Repr

def dropRepeats {α : Type} [DecidableEq α] : List α → List α
  | a :: b :: rest => if a = b then dropRepeats (b :: rest) else a :: dropRepeats (b :: rest)
  | short => short

def ascending (texts : List String) : List String := dropRepeats (Text.sorted texts)

namespace Inputs

/-- Pairs in the order of their files, each once. -/
def arranged (pairs : List FilePair) : List FilePair :=
  dropRepeats (pairs.mergeSort FilePair.notAfter)

def ofPairs (pairs : List FilePair) : Inputs :=
  let ordered := arranged pairs
  let files := ascending (ordered.map (·.first) ++ ordered.map (·.second))
  { files
    pairs := ordered.map fun pair =>
      ((files.idxOf pair.first : Int), (files.idxOf pair.second : Int)) }

def fileCount (inputs : Inputs) : Nat := inputs.files.length

def pairCount (inputs : Inputs) : Nat := inputs.pairs.length

/-- The number of a file, the last one where a path is listed more than once. -/
def indexOf? (inputs : Inputs) (path : String) : Option Nat :=
  (inputs.files.reverse.idxOf? path).map fun fromEnd => inputs.files.length - 1 - fromEnd

/-- The paths of a pair. Its number and those of its files count from either end. -/
def paths? (inputs : Inputs) (index : Int) : Option (String × String) := do
  let (a, b) ← itemAt? inputs.pairs index
  let first ← itemAt? inputs.files a
  let second ← itemAt? inputs.files b
  pure (first, second)

def filePair (inputs : Inputs) (index : Int) : Except PairError FilePair :=
  match inputs.paths? index with
  | none => .error .noPair
  | some (a, b) => (FilePair.of a b).mapError .sameFile

end Inputs

end SourceSimilarity
