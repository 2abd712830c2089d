import SourceSimilarity.Proofs.EditDistance.Script

namespace SourceSimilarity.EditDistance

variable {α : Type} [DecidableEq α]

theorem limited_le_saturated (a b : List α) : (limited a b).1 ≤ saturated :=
  Nat.le_of_lt_succ (limited_lt_incomparable a b)

/-- Where both sequences are shorter than the limit, the limited distance is the length of a
shortest script and nothing is reported; otherwise it is the limit, with one warning about the input.
The distance itself is never cut. -/
theorem limited_exact_or_saturated (a b : List α) :
    (a.length < saturated ∧ b.length < saturated →
      IsLeast {n | Script a b n} (limited a b).1 ∧ (limited a b).2 = none) ∧
    (saturated ≤ a.length ∨ saturated ≤ b.length →
      limited a b = (saturated, some (.input (max a.length b.length)))) ∧
    (max a.length b.length < saturated → distance a b < saturated) ∧
    ∀ result, (limited a b).2 ≠ some (.result result) := by
  refine ⟨?_, ?_, distance_lt_saturated, ?_⟩
  · intro short
    rw [limited_of_short (max_lt_iff.mpr short)]
    exact ⟨distance_isLeast_script a b, rfl⟩
  · intro long
    exact limited_of_long (le_max_iff.mpr long)
  · intro result
    rw [limited_eq]
    split <;> simp

example : limited "kitten".toList "sitting".toList = (3, none) := by decide

theorem limited_triangle (a b c : List α) :
    (limited a c).1 ≤ (limited a b).1 + (limited b c).1 := by
  by_cases left : saturated ≤ max a.length b.length
  · rw [limited_of_long left]
    exact (limited_le_saturated a c).trans (Nat.le_add_right _ _)
  by_cases right : saturated ≤ max b.length c.length
  · rw [limited_of_long right]
    exact (limited_le_saturated a c).trans (Nat.le_add_left _ _)
  -- with both distances exact, no sequence is long, and the third distance is exact as well
  have outer : max a.length c.length < saturated := by omega
  rw [limited_of_short outer, limited_of_short (Nat.lt_of_not_ge left),
    limited_of_short (Nat.lt_of_not_ge right)]
  exact distance_triangle a b c

theorem eq_of_limited_eq_zero {a b : List α} (zero : (limited a b).1 = 0) : a = b := by
  have positive : saturated ≠ 0 := by decide
  rw [limited_eq] at zero
  split at zero
  · exact absurd zero positive
  · exact eq_of_distance_eq_zero zero

theorem difference_le_limited (a b : List α) :
    min ((a.length : Int) - b.length).natAbs saturated ≤ (limited a b).1 := by
  have fromLeft := length_le_distance a b
  have fromRight := length_le_distance b a
  rw [distance_comm b a] at fromRight
  rw [limited_eq]
  split
  · exact min_le_right _ _
  · refine (min_le_left _ _).trans ?_
    dsimp only
    omega

theorem limited_le (a b : List α) :
    (limited a b).1 ≤ min (max a.length b.length) saturated := by
  refine le_min ?_ (limited_le_saturated a b)
  rw [limited_eq]
  split
  · assumption
  · exact distance_le_max a b

/-- The limited distances of any sequences keep the laws of a metric, as far as two equal sequences
are not too long to be looked at. Each lies between the difference of the lengths and the longer one,
both cut at the limit. -/
theorem limited_metric (a b c : List α) :
    (limited a b).1 = (limited b a).1 ∧
    (limited a c).1 ≤ (limited a b).1 + (limited b c).1 ∧
    ((limited a b).1 = 0 → a = b) ∧
    (a = b ∧ a.length < saturated → (limited a b).1 = 0) ∧
    min ((a.length : Int) - b.length).natAbs saturated ≤ (limited a b).1 ∧
    (limited a b).1 ≤ min (max a.length b.length) saturated := by
  refine ⟨congrArg Prod.fst (limited_comm a b), limited_triangle a b c, eq_of_limited_eq_zero, ?_,
    difference_le_limited a b, limited_le a b⟩
  rintro ⟨rfl, short⟩
  rw [limited_self short]

end SourceSimilarity.EditDistance
