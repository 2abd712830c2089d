import SourceSimilarity.Proofs.EditDistance

namespace SourceSimilarity.EditDistance

variable {α : Type} {a b c : List α} {n m : Nat}

inductive Step : List α → List α → Prop
  | insert (front : List α) (item : α) (back : List α) :
      Step (front ++ back) (front ++ item :: back)
  | delete (front : List α) (item : α) (back : List α) :
      Step (front ++ item :: back) (front ++ back)
  | substitute (front : List α) (item other : α) (back : List α) :
      Step (front ++ item :: back) (front ++ other :: back)

/-- A sequence is turned into another by so many steps, one after the other. -/
inductive Script (a : List α) : List α → Nat → Prop
  | nil : Script a a 0
  | step {b c : List α} {n : Nat} (script : Script a b n) (last : Step b c) : Script a c (n + 1)

theorem Step.cons (item : α) (step : Step a b) : Step (item :: a) (item :: b) := by
  cases step with
  | insert front other back => exact insert (item :: front) other back
  | delete front other back => exact delete (item :: front) other back
  | substitute front old new back => exact substitute (item :: front) old new back

namespace Script

theorem trans (script : Script a b n) (later : Script b c m) : Script a c (n + m) := by
  induction later with
  | nil => exact script
  | step _ last ih => exact ih.step last

theorem cons (item : α) (script : Script a b n) : Script (item :: a) (item :: b) n := by
  induction script with
  | nil => exact nil
  | step _ last ih => exact ih.step (last.cons item)

theorem single (step : Step a b) : Script a b 1 := nil.step step

end Script

namespace Edits

theorem script (edits : Edits a b n) : Script a b n := by
  induction edits with
  | done => exact .nil
  | keep item _ ih => exact ih.cons item
  | @substitute a b n item other _ ih => exact (ih.cons item).step (.substitute [] item other b)
  | @insert a b n other _ ih => exact ih.step (.insert [] other b)
  | @delete a b n item _ ih =>
      rw [Nat.add_comm]
      exact (Script.single (.delete [] item a)).trans ih

theorem length_le (edits : Edits a b n) : a.length ≤ b.length + n := by
  induction edits <;> grind

theorem exists_cons {first : α} (edits : Edits a (first :: b) n) :
    ∃ start rest k l, a = start ++ rest ∧ n = k + l ∧ Edits start [first] k ∧ Edits rest b l := by
  generalize whole : first :: b = target at edits
  induction edits with
  | done => cases whole
  | @keep a _ n item edits =>
      obtain ⟨rfl, rfl⟩ := List.cons.inj whole
      exact ⟨[first], a, 0, n, rfl, (Nat.zero_add n).symm, keep first done, edits⟩
  | @substitute a _ n item other edits =>
      obtain ⟨rfl, rfl⟩ := List.cons.inj whole
      exact ⟨[item], a, 1, n, rfl, Nat.add_comm n 1, substitute item first done, edits⟩
  | @insert a _ n other edits =>
      obtain ⟨rfl, rfl⟩ := List.cons.inj whole
      exact ⟨[], a, 1, n, rfl, Nat.add_comm n 1, insert first done, edits⟩
  | delete item edits ih =>
      obtain ⟨start, rest, k, l, rfl, rfl, left, right⟩ := ih whole
      exact ⟨item :: start, rest, k + 1, l, rfl, Nat.add_right_comm .., delete item left, right⟩

theorem exists_split {front back : List α} (edits : Edits a (front ++ back) n) :
    ∃ start rest k l, a = start ++ rest ∧ n = k + l ∧ Edits start front k ∧ Edits rest back l := by
  induction front generalizing a n with
  | nil => exact ⟨[], a, 0, n, rfl, (Nat.zero_add n).symm, done, edits⟩
  | cons first front ih =>
      obtain ⟨one, others, i, j, rfl, rfl, head, tail⟩ := edits.exists_cons
      obtain ⟨start, rest, k, l, rfl, rfl, left, right⟩ := ih tail
      exact ⟨one ++ start, rest, i + k, l, by simp, (Nat.add_assoc ..).symm, head.append left,
        right⟩

theorem exists_replace {front back : List α} (old new : List α)
    (edits : Edits a (front ++ (old ++ back)) n) (oldShort : old.length ≤ 1)
    (newShort : new.length ≤ 1) : ∃ k, k ≤ n + 1 ∧ Edits a (front ++ (new ++ back)) k := by
  obtain ⟨start, rest, k, l, rfl, rfl, left, right⟩ := edits.exists_split
  obtain ⟨middle, rest, i, j, rfl, rfl, inner, right⟩ := right.exists_split
  -- the part that led to `old` is edited anew; its length bounds what this takes
  have middleShort : middle.length ≤ old.length + i := inner.length_le
  obtain ⟨i', bound, inner'⟩ := exists_le_max middle new
  exact ⟨k + (i' + j), by omega, left.append (inner'.append right)⟩

theorem exists_step (edits : Edits a b n) (step : Step b c) : ∃ k, k ≤ n + 1 ∧ Edits a c k := by
  cases step with
  | insert front item back =>
      exact exists_replace [] [item] edits (by simp) (by simp)
  | delete front item back =>
      exact exists_replace [item] [] edits (by simp) (by simp)
  | substitute front item other back =>
      exact exists_replace [item] [other] edits (by simp) (by simp)

end Edits

theorem Script.exists_edits (script : Script a b n) : ∃ k, k ≤ n ∧ Edits a b k := by
  induction script with
  | nil => exact ⟨0, Nat.le_refl 0, .refl a⟩
  | @step b c n _ last ih =>
      obtain ⟨k, bound, edits⟩ := ih
      obtain ⟨l, bound', edits'⟩ := edits.exists_step last
      exact ⟨l, by omega, edits'⟩

variable [DecidableEq α]

/-- The distance of two sequences is the length of a shortest script from one to the other. -/
theorem distance_isLeast_script (a b : List α) : IsLeast {n | Script a b n} (distance a b) := by
  obtain ⟨edits, least⟩ := distance_isLeast a b
  refine ⟨edits.script, fun n script => ?_⟩
  obtain ⟨k, bound, edits⟩ := Script.exists_edits script
  exact (least edits).trans bound

theorem distance_triangle (a b c : List α) : distance a c ≤ distance a b + distance b c :=
  (distance_isLeast_script a c).2
    ((distance_isLeast_script a b).1.trans (distance_isLeast_script b c).1)

theorem eq_of_distance_eq_zero (same : distance a b = 0) : a = b := by
  have script := (distance_isLeast_script a b).1
  rw [same] at script
  cases script
  rfl

theorem length_le_distance (a b : List α) : a.length ≤ b.length + distance a b :=
  (distance_isLeast a b).1.length_le

end SourceSimilarity.EditDistance
