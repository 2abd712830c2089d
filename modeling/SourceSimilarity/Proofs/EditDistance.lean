import SourceSimilarity.EditDistance
import Mathlib.Order.Bounds.Basic
import Mathlib.Order.MinMax

namespace SourceSimilarity.EditDistance

variable {α : Type}

inductive Edits : List α → List α → Nat → Prop
  | done : Edits [] [] 0
  | keep {a b : List α} {n : Nat} (item : α) (edits : Edits a b n) :
      Edits (item :: a) (item :: b) n
  | substitute {a b : List α} {n : Nat} (item other : α) (edits : Edits a b n) :
      Edits (item :: a) (other :: b) (n + 1)
  | insert {a b : List α} {n : Nat} (other : α) (edits : Edits a b n) : Edits a (other :: b) (n + 1)
  | delete {a b : List α} {n : Nat} (item : α) (edits : Edits a b n) : Edits (item :: a) b (n + 1)

namespace Edits

variable {a b c d : List α} {n m : Nat}

theorem refl (a : List α) : Edits a a 0 := by
  induction a with
  | nil => exact done
  | cons item a ih => exact keep item ih

theorem symm (edits : Edits a b n) : Edits b a n := by
  induction edits with
  | done => exact done
  | keep item _ ih => exact keep item ih
  | substitute item other _ ih => exact substitute other item ih
  | insert other _ ih => exact delete other ih
  | delete item _ ih => exact insert item ih

theorem append (edits : Edits a b n) (later : Edits c d m) : Edits (a ++ c) (b ++ d) (n + m) := by
  induction edits with
  | done => simpa using later
  | keep item _ ih => exact keep item ih
  | substitute item other _ ih => exact Nat.add_right_comm .. ▸ substitute item other ih
  | insert other _ ih => exact Nat.add_right_comm .. ▸ insert other ih
  | delete item _ ih => exact Nat.add_right_comm .. ▸ delete item ih

theorem reverse (edits : Edits a b n) : Edits a.reverse b.reverse n := by
  induction edits with
  | done => exact done
  | keep item _ ih => simpa using ih.append (keep item done)
  | substitute item other _ ih => simpa using ih.append (substitute item other done)
  | insert other _ ih => simpa using ih.append (insert other done)
  | delete item _ ih => simpa using ih.append (delete item done)

theorem insertAll (b : List α) : Edits [] b b.length := by
  induction b with
  | nil => exact done
  | cons other b ih => exact insert other ih

theorem exists_le_max (a b : List α) : ∃ n, n ≤ max a.length b.length ∧ Edits a b n := by
  induction a generalizing b with
  | nil => exact ⟨b.length, le_max_right _ _, insertAll b⟩
  | cons item a ih =>
      cases b with
      | nil => exact ⟨(item :: a).length, le_max_left _ _, (insertAll (item :: a)).symm⟩
      | cons other b =>
          obtain ⟨n, bound, edits⟩ := ih b
          refine ⟨n + 1, ?_, substitute item other edits⟩
          rw [List.length_cons, List.length_cons]
          omega

end Edits

variable [DecidableEq α]

/-- The least number of edits by its recursion over the first items. -/
def leastCost : List α → List α → Nat
  | [], b => b.length
  | item :: a, [] => (item :: a).length
  | item :: a, other :: b =>
    min (min (leastCost a (other :: b) + 1) (leastCost (item :: a) b + 1))
      (leastCost a b + if item = other then 0 else 1)
termination_by a b => a.length + b.length

theorem edits_leastCost (a b : List α) : Edits a b (leastCost a b) := by
  fun_induction leastCost a b with
  | case1 b => exact .insertAll b
  | case2 item a => exact (Edits.insertAll (item :: a)).symm
  | case3 item a other b delete insert both =>
      rcases min_choice (min (leastCost a (other :: b) + 1) (leastCost (item :: a) b + 1))
        (leastCost a b + if item = other then 0 else 1) with one | one <;> rw [one]
      · rcases min_choice (leastCost a (other :: b) + 1) (leastCost (item :: a) b + 1)
          with one | one <;> rw [one]
        · exact .delete item delete
        · exact .insert other insert
      · split
        · rename_i same
          subst same
          exact .keep item both
        · exact .substitute item other both

theorem leastCost_nil_right (a : List α) : leastCost a [] = a.length := by
  cases a <;> simp [leastCost]

theorem leastCost_le {a b : List α} {n : Nat} (edits : Edits a b n) : leastCost a b ≤ n := by
  induction edits with
  | done => simp [leastCost]
  | keep item edits ih =>
      rw [leastCost, if_pos rfl]
      exact (min_le_right _ _).trans ih
  | substitute item other edits ih =>
      rw [leastCost]
      refine (min_le_right _ _).trans (Nat.add_le_add ih ?_)
      split <;> omega
  | @insert a b n other edits ih =>
      cases a with
      | nil =>
          simp only [leastCost, List.length_cons] at ih ⊢
          omega
      | cons item a =>
          rw [leastCost]
          exact (min_le_left _ _).trans ((min_le_right _ _).trans (Nat.add_le_add_right ih 1))
  | @delete a b n item edits ih =>
      cases b with
      | nil =>
          rw [leastCost_nil_right] at ih ⊢
          exact Nat.succ_le_succ ih
      | cons other b =>
          rw [leastCost]
          exact (min_le_left _ _).trans ((min_le_left _ _).trans (Nat.add_le_add_right ih 1))

/-- The row of a prefix of the first sequence: the least costs for the prefixes of the second that
reach from `done` on into `b`. Prefixes are held with their last item first. -/
def rowFrom (a done : List α) : List α → List Nat
  | [] => [leastCost a done]
  | other :: b => leastCost a done :: rowFrom a (other :: done) b

theorem rowFrom_eq_cons (a done b : List α) :
    rowFrom a done b = leastCost a done :: (rowFrom a done b).tail := by
  cases b <;> rfl

theorem advanceRow_rowFrom (item : α) (a done b : List α) :
    advanceRow item (leastCost a done) (leastCost (item :: a) done) b (rowFrom a done b).tail =
      (rowFrom (item :: a) done b).tail := by
  induction b generalizing done with
  | nil => rfl
  | cons other b ih =>
      rw [rowFrom, rowFrom, List.tail_cons, List.tail_cons, rowFrom_eq_cons a (other :: done) b,
        rowFrom_eq_cons (item :: a) (other :: done) b, advanceRow]
      have entry : min (min (leastCost a (other :: done) + 1) (leastCost (item :: a) done + 1))
          (leastCost a done + if item = other then 0 else 1) =
            leastCost (item :: a) (other :: done) := by
        rw [leastCost]
      simp only [entry, ih]

theorem nextRow_rowFrom (item : α) (a b : List α) :
    nextRow b (rowFrom a [] b) item = rowFrom (item :: a) [] b := by
  have first : leastCost a [] + 1 = leastCost (item :: a) [] := by
    rw [leastCost_nil_right, leastCost_nil_right, List.length_cons]
  rw [rowFrom_eq_cons a, nextRow, first, advanceRow_rowFrom, ← rowFrom_eq_cons]

theorem foldl_nextRow (a done b : List α) :
    a.foldl (nextRow b) (rowFrom done [] b) = rowFrom (a.reverse ++ done) [] b := by
  induction a generalizing done with
  | nil => rfl
  | cons item a ih =>
      rw [List.foldl_cons, nextRow_rowFrom, ih, List.reverse_cons, List.append_assoc]
      rfl

theorem rowFrom_nil_left (done b : List α) :
    rowFrom [] done b = List.range' done.length (b.length + 1) := by
  induction b generalizing done with
  | nil => simp [rowFrom, leastCost]
  | cons other b ih =>
      rw [rowFrom, ih, leastCost, List.length_cons, List.length_cons]
      rfl

theorem getLastD_rowFrom (a done b : List α) :
    (rowFrom a done b).getLastD 0 = leastCost a (b.reverse ++ done) := by
  induction b generalizing done with
  | nil => rfl
  | cons other b ih =>
      rw [rowFrom, rowFrom_eq_cons a (other :: done), List.getLastD_cons, List.getLastD_cons,
        List.reverse_cons, List.append_assoc, List.singleton_append, ← ih, ← List.getLastD_cons,
        ← rowFrom_eq_cons]

theorem distance_eq (a b : List α) : distance a b = leastCost a.reverse b.reverse := by
  have first : List.range (b.length + 1) = rowFrom [] [] b := by
    rw [rowFrom_nil_left, List.length_nil, List.range_eq_range']
  rw [distance, first, foldl_nextRow, List.append_nil, getLastD_rowFrom, List.append_nil]

/-- The distance of two sequences is the least number of edits that turn one into the other. -/
theorem distance_isLeast (a b : List α) : IsLeast {n | Edits a b n} (distance a b) := by
  rw [distance_eq]
  constructor
  · have edits := (edits_leastCost a.reverse b.reverse).reverse
    rwa [List.reverse_reverse, List.reverse_reverse] at edits
  · intro n edits
    exact leastCost_le edits.reverse

theorem distance_comm (a b : List α) : distance a b = distance b a :=
  le_antisymm ((distance_isLeast a b).2 (distance_isLeast b a).1.symm)
    ((distance_isLeast b a).2 (distance_isLeast a b).1.symm)

theorem distance_self (a : List α) : distance a a = 0 :=
  Nat.le_zero.mp ((distance_isLeast a a).2 (Edits.refl a))

theorem distance_le_max (a b : List α) : distance a b ≤ max a.length b.length := by
  obtain ⟨n, bound, edits⟩ := Edits.exists_le_max a b
  exact ((distance_isLeast a b).2 edits).trans bound

theorem distance_lt_saturated {a b : List α} (short : max a.length b.length < saturated) :
    distance a b < saturated :=
  (distance_le_max a b).trans_lt short

theorem limited_eq (a b : List α) :
    limited a b =
      if saturated ≤ max a.length b.length then
        (saturated, some (.input (max a.length b.length)))
      else (distance a b, none) := by
  rw [limited, limitedBy]
  split
  · rfl
  · rename_i short
    have below : ¬distance a b ≥ saturated :=
      (distance_lt_saturated (Nat.lt_of_not_ge short)).not_ge
    simp only [if_neg below]

theorem limited_of_long {a b : List α} (long : saturated ≤ max a.length b.length) :
    limited a b = (saturated, some (.input (max a.length b.length))) := by
  rw [limited_eq, if_pos long]

theorem limited_of_short {a b : List α} (short : max a.length b.length < saturated) :
    limited a b = (distance a b, none) := by
  rw [limited_eq, if_neg short.not_ge]

theorem limited_comm (a b : List α) : limited a b = limited b a := by
  rw [limited, limited, max_comm, distance_comm]

theorem limited_self {a : List α} (short : a.length < saturated) : limited a a = (0, none) := by
  rw [limited_of_short (by rwa [max_self]), distance_self]

theorem limited_lt_incomparable (a b : List α) : (limited a b).1 < incomparable := by
  have below : saturated < incomparable := by decide
  rw [limited_eq]
  split
  · exact below
  · rename_i short
    exact (distance_lt_saturated (Nat.lt_of_not_ge short)).trans below

end SourceSimilarity.EditDistance
