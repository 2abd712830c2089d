import Mathlib.Algebra.Order.Ring.Int
import Mathlib.Data.List.Lex
import SourceSimilarity.Proofs.Inputs
import SourceSimilarity.Score.Ranking

namespace SourceSimilarity.ScoreTable

variable {pairs : Nat} {table : ScoreTable pairs} {comparator : Comparator}

def keyIn (vectors : List (Vector Score pairs)) (pair : Fin pairs) : List Int :=
  vectors.map (fun scores => (scores.get pair).toInt) ++ [(pair.val : Int)]

theorem notAfter_nil (a b : Fin pairs) : notAfter a b [] = decide (a.val ≤ b.val) := rfl

theorem notAfter_cons (a b : Fin pairs) (scores : Vector Score pairs)
    (others : List (Vector Score pairs)) : notAfter a b (scores :: others) =
      if (scores.get a).toInt < (scores.get b).toInt then true
      else if (scores.get b).toInt < (scores.get a).toInt then false
      else notAfter a b others := rfl

theorem notAfter_iff (a b : Fin pairs) (vectors : List (Vector Score pairs)) :
    notAfter a b vectors = true ↔ ¬keyIn vectors b < keyIn vectors a := by
  induction vectors with
  | nil => simp [notAfter_nil, keyIn, List.cons_lt_cons_iff]
  | cons scores others ih =>
      have decided : keyIn (scores :: others) b < keyIn (scores :: others) a ↔
          (scores.get b).toInt < (scores.get a).toInt ∨
            (scores.get b).toInt = (scores.get a).toInt ∧ keyIn others b < keyIn others a :=
        List.cons_lt_cons_iff
      rw [decided, notAfter_cons]
      split
      · rename_i before
        exact iff_of_true rfl (by omega)
      · split
        · rename_i _ behind
          exact iff_of_false Bool.false_ne_true (not_not_intro (.inl behind))
        · rename_i notBefore notBehind
          have same : (scores.get b).toInt = (scores.get a).toInt := by omega
          rw [ih]
          exact not_congr ⟨fun behind => .inr ⟨same, behind⟩, fun order =>
            (order.resolve_left notBehind).2⟩

theorem keyIn_injective (vectors : List (Vector Score pairs)) : (keyIn vectors).Injective := by
  intro a b same
  have last := congrArg List.getLast? same
  simp only [keyIn, List.getLast?_append, List.getLast?_singleton, Option.some_or,
    Option.some.injEq, Int.natCast_inj] at last
  exact Fin.ext last

theorem pairwise_ranked (vectors : List (Vector Score pairs)) :
    (ranked vectors).Pairwise fun a b => keyIn vectors a < keyIn vectors b :=
  pairwise_key_lt _ (keyIn_injective vectors)
    ((List.mergeSort_perm _ _).nodup_iff.mpr (List.nodup_finRange pairs))
    (pairwise_mergeSort _ (fun a b => notAfter_iff a b vectors) _)

/-- The comparators that decide about a ranking, one after the other. -/
def deciding (comparator : Comparator) : List Comparator :=
  comparator :: Comparator.inOrder.filter (· ≠ comparator)

def rankKey (table : ScoreTable pairs) (comparator : Comparator) (pair : Fin pairs) : List Int :=
  (deciding comparator).filterMap (fun other =>
    (table.get? other).map fun scores => (scores.get pair).toInt) ++ [(pair.val : Int)]

theorem filterMap_get?_filter_contains (table : ScoreTable pairs) (members : List Comparator) :
    (members.filter table.contains).filterMap table.get? = members.filterMap table.get? := by
  rw [List.filterMap_filter]
  refine List.filterMap_congr fun other _ => ?_
  cases scores : table.get? other with
  | none => simp [contains, scores]
  | some scores => simp [contains, scores]

theorem rankingKeys_eq (table : ScoreTable pairs) (comparator : Comparator) :
    table.rankingKeys comparator = (deciding comparator).filterMap table.get? := by
  rw [rankingKeys, comparators, List.filter_comm, deciding, List.filterMap_cons,
    List.filterMap_cons, filterMap_get?_filter_contains]

theorem keyIn_rankingKeys (table : ScoreTable pairs) (comparator : Comparator) :
    keyIn (table.rankingKeys comparator) = table.rankKey comparator := by
  funext pair
  rw [keyIn, rankingKeys_eq, List.map_filterMap, rankKey]

structure Ranks (table : ScoreTable pairs) (comparator : Comparator) (order : List (Fin pairs)) :
    Prop where
  permutes : order.Perm (List.finRange pairs)
  sorted : order.Pairwise fun a b => table.rankKey comparator a < table.rankKey comparator b

theorem ranks_ranked (table : ScoreTable pairs) (comparator : Comparator) :
    table.Ranks comparator (ranked (table.rankingKeys comparator)) where
  permutes := List.mergeSort_perm _ _
  sorted := keyIn_rankingKeys table comparator ▸ pairwise_ranked _

theorem Ranks.unique {order other : List (Fin pairs)} (ranks : table.Ranks comparator order)
    (otherRanks : table.Ranks comparator other) : other = order :=
  List.Perm.eq_of_pairwise (fun _ _ _ _ before behind => absurd behind before.asymm)
    otherRanks.sorted ranks.sorted (otherRanks.permutes.trans ranks.permutes.symm)

theorem score_eq_ok_iff {pair : Fin pairs} {score : Score} :
    table.score comparator (pair.val : Int) = .ok score ↔
      ∃ scores, table.get? comparator = some scores ∧ scores.get pair = score := by
  rw [ScoreTable.score, vector]
  cases table.get? comparator with
  | none => simp [bind, Except.bind]
  | some scores =>
      simp only [bind, Except.bind, position?_ofNat, pure, Except.pure, Except.ok.injEq,
        Option.some.injEq, exists_eq_left']
      rfl

def IsIncomparable (table : ScoreTable pairs) (comparator : Comparator) (pair : Fin pairs) : Prop :=
  table.score comparator (pair.val : Int) = .ok .infinite

theorem toInt_le_infinite (score : Score) : score.toInt ≤ Score.infinite.toInt := by
  have below := score.toInt_lt
  have top : Score.infinite.toInt = 2147483647 := by decide
  omega

theorem Ranks.incomparable_last {order : List (Fin pairs)}
    (ranks : table.Ranks comparator order) : order.Pairwise fun a b =>
      table.IsIncomparable comparator a → table.IsIncomparable comparator b := by
  refine ranks.sorted.imp fun {a b} before incomparable => ?_
  obtain ⟨scores, here, infinite⟩ := score_eq_ok_iff.mp incomparable
  refine score_eq_ok_iff.mpr ⟨scores, here, ?_⟩
  have first : (scores.get a).toInt ≤ (scores.get b).toInt := by
    simp only [rankKey, deciding, List.filterMap_cons, here, Option.map_some, List.cons_append,
      List.cons_lt_cons_iff] at before
    rcases before with before | ⟨same, -⟩
    · exact before.le
    · exact same.le
  rw [infinite] at first
  exact Int32.toInt_inj.mp (le_antisymm (toInt_le_infinite _) first)

/-- The comparator that a ranking is by: the one that is asked for, or the first with scores. -/
def primary? (table : ScoreTable pairs) (asked : Option Comparator) : Option Comparator :=
  asked <|> Comparator.inOrder.find? table.contains

theorem ranking_eq {asked : Option Comparator} (primary : table.primary? asked = some comparator)
    (used : table.comparators ≠ []) :
    table.ranking asked =
      if table.contains comparator then .ok (ranked (table.rankingKeys comparator))
      else .error (.noScores comparator) := by
  have first : table.comparators.head? = Comparator.inOrder.find? table.contains :=
    List.head?_filter
  cases members : table.comparators with
  | nil => exact absurd members used
  | cons head others =>
      rw [members, List.head?_cons] at first
      rw [primary?, ← first] at primary
      have asks : asked.getD head = comparator := by
        cases asked with
        | none => exact Option.some.inj primary
        | some _ => exact Option.some.inj primary
      simp only [ranking, members, asks]

/-- By a comparator with scores, the pairs are ranked in the one order in which each comes before
the next by its scores and its number, with the pairs that could not be compared at the end. A table
with scores has no ranking by a comparator without. -/
theorem ranking_unique (table : ScoreTable pairs) {asked : Option Comparator}
    {comparator : Comparator} (primary : table.primary? asked = some comparator)
    (used : table.comparators ≠ []) :
    (table.contains comparator = true → ∃ order, table.ranking asked = .ok order ∧
      table.Ranks comparator order ∧ (∀ other, table.Ranks comparator other → other = order) ∧
      ∀ (i j : Nat) (hi : i < order.length) (hj : j < order.length),
        ¬table.IsIncomparable comparator order[i] → table.IsIncomparable comparator order[j] →
          i < j) ∧
    (table.contains comparator = false → table.ranking asked = .error (.noScores comparator)) := by
  rw [ranking_eq primary used]
  refine ⟨fun contained => ?_, fun missing => by simp [missing]⟩
  have ranks := table.ranks_ranked comparator
  refine ⟨_, if_pos contained, ranks, fun other => ranks.unique, fun i j hi hj compared not => ?_⟩
  rcases Nat.lt_trichotomy i j with before | rfl | behind
  · exact before
  · exact absurd not compared
  · exact absurd
      (List.pairwise_iff_getElem.mp ranks.incomparable_last j i hj hi behind not) compared

def tiedTokens : ScoreTable 3 where
  moss := some #v[2, 5, 4]
  tokenEdit := some #v[.infinite, 3, 3]

theorem ranking_unique_of_tiedTokens :
    tiedTokens.primary? (some .tokenEdit) = some .tokenEdit ∧
    tiedTokens.primary? (some .byteEdit) = some .byteEdit ∧ tiedTokens.comparators ≠ [] ∧
    tiedTokens.contains .tokenEdit = true ∧ tiedTokens.contains .byteEdit = false ∧
    (∃ order, tiedTokens.ranking (some .tokenEdit) = .ok order ∧
      tiedTokens.Ranks .tokenEdit order ∧
      (∀ other, tiedTokens.Ranks .tokenEdit other → other = order) ∧
      ∀ (i j : Nat) (hi : i < order.length) (hj : j < order.length),
        ¬tiedTokens.IsIncomparable .tokenEdit order[i] →
          tiedTokens.IsIncomparable .tokenEdit order[j] → i < j) ∧
    tiedTokens.ranking (some .byteEdit) = .error (.noScores .byteEdit) := by
  have used : tiedTokens.comparators ≠ [] := by decide
  exact ⟨rfl, rfl, used, rfl, rfl, (ranking_unique tiedTokens rfl used).1 rfl,
    (ranking_unique tiedTokens rfl used).2 rfl⟩

end SourceSimilarity.ScoreTable
