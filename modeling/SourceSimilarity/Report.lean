import SourceSimilarity.Inputs
import SourceSimilarity.Score.Ranking
import SourceSimilarity.Json.Writer

namespace SourceSimilarity

structure RankedPair where
  rank : Nat
  pair : Int
  first : String
  second : String
  scores : List (Comparator × Score)
deriving DecidableEq

namespace Report

inductive Error where
  | noPair (index : Int)
deriving DecidableEq, Repr

def upTo {α : Type} (stop : Option Int) (items : List α) : List α :=
  match stop with
  | none => items
  | some stop => items.take (if stop < 0 then items.length + stop else stop).toNat

variable {pairs : Nat}

def record (inputs : Inputs) (table : ScoreTable pairs) (rank : Nat) (pair : Int) :
    Except Error RankedPair := do
  let some (first, second) := inputs.paths? pair | throw (.noPair pair)
  let scores ← table.comparators.mapM fun comparator =>
    match table.score comparator pair with
    | .ok score => Except.ok (comparator, score)
    | .error _ => Except.error (Error.noPair pair)
  pure { rank, pair, first, second, scores }

def records (inputs : Inputs) (table : ScoreTable pairs) (ranking : List Int)
    (limit : Option Int) : Except Error (List RankedPair) :=
  ((upTo limit ranking).zipIdx 1).mapM fun (pair, rank) => record inputs table rank pair

def blockOf (entry : RankedPair) : String :=
  s!"Pair {entry.rank}:\n  {entry.first}\n  {entry.second}\n" ++
    String.join (entry.scores.map fun (comparator, score) =>
      s!"  {comparator.title}: {Score.text score}\n") ++ "\n"

def asText (inputs : Inputs) (table : ScoreTable pairs) (ranking : List Int)
    (limit : Option Int) : Except Error String := do
  let entries ← records inputs table ranking limit
  pure (String.join (entries.map blockOf))

def scoreJson (score : Score) : Json.Value :=
  if score = Score.infinite then .null else .whole score.toInt

def recordJson (entry : RankedPair) : Json.Value := .object [
  ("rank", .whole entry.rank),
  ("pair", .whole entry.pair),
  ("first", .string entry.first),
  ("second", .string entry.second),
  ("scores", .object (entry.scores.map fun (comparator, score) =>
    (comparator.name, scoreJson score)))]

def asJson (inputs : Inputs) (table : ScoreTable pairs) (ranking : List Int)
    (limit : Option Int) : Except Error String := do
  let entries ← records inputs table ranking limit
  let document : Json.Value := .object [
    ("comparators", .array (table.comparators.map fun comparator => .string comparator.name)),
    ("file_count", .whole inputs.fileCount),
    ("pair_count", .whole inputs.pairCount),
    ("pairs", .array (entries.map recordJson))]
  pure (String.ofList (document.writeLines 0 ++ ['\n']))

end Report

end SourceSimilarity
