import SourceSimilarity.Score.Table

namespace SourceSimilarity

inductive RankingError where
  | noScores (comparator : Comparator)
deriving DecidableEq, Repr

def RankingError.message : RankingError → String
  | .noScores comparator => s!"No {comparator.title} scores to rank by"

namespace ScoreTable

variable {pairs : Nat}

/-- Whether a pair does not come after another by these scores, of which the first that differ
decide, and by its number if all are equal. -/
def notAfter (a b : Fin pairs) : List (Vector Score pairs) → Bool
  | [] => a.val ≤ b.val
  | scores :: others =>
    if scores[a].toInt < scores[b].toInt then true
    else if scores[b].toInt < scores[a].toInt then false
    else notAfter a b others

def rankingKeys (table : ScoreTable pairs) (comparator : Comparator) : List (Vector Score pairs) :=
  (comparator :: table.comparators.filter (· ≠ comparator)).filterMap table.get?

def ranked (keys : List (Vector Score pairs)) : List (Fin pairs) :=
  (List.finRange pairs).mergeSort fun a b => notAfter a b keys

/-- The ranking of the pairs by a comparator, or by the first that has scores. A table without any
scores ranks no pairs. -/
def ranking (table : ScoreTable pairs) (comparator : Option Comparator) :
    Except RankingError (List (Fin pairs)) :=
  match table.comparators with
  | [] => .ok []
  | first :: _ =>
    let comparator := comparator.getD first
    if table.contains comparator then .ok (ranked (table.rankingKeys comparator))
    else .error (.noScores comparator)

end ScoreTable

end SourceSimilarity
