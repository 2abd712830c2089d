import SourceSimilarity.Fingerprint.Text
import SourceSimilarity.Proofs.Fingerprint.Hash
import SourceSimilarity.Proofs.Fingerprint.Winnowing

namespace SourceSimilarity.Fingerprint

theorem ofText_of_le {k : Nat} (w : Nat) {text : List Text.Point} (short : (unitsOf text).length ≤ k) :
    ofText k w text = [hashUnits (unitsOf text)] :=
  if_pos short

theorem ofText_of_lt {k : Nat} (w : Nat) {text : List Text.Point} (long : k < (unitsOf text).length) :
    ofText k w text =
      (winnow w (gramHashes k (unitsOf text))).mergeSort (fun a b => decide (a ≤ b)) :=
  if_neg (Nat.not_le.mpr long)

theorem winnow_singleton {w : Nat} (wide : 1 ≤ w) (hash : Int) : winnow w [hash] = [hash] := by
  rw [winnow, selections, windows_eq wide (List.cons_ne_nil hash []), List.length_singleton,
    Nat.sub_eq_zero_of_le wide, List.range_one, List.map_singleton, List.drop_zero,
    List.take_of_length_le wide]
  rfl

theorem ofText_of_ge {k w : Nat} (positive : 1 ≤ k) (wide : 1 ≤ w) {text : List Text.Point}
    (long : k ≤ (unitsOf text).length) :
    ofText k w text =
      (winnow w (gramHashes k (unitsOf text))).mergeSort (fun a b => decide (a ≤ b)) := by
  rcases long.lt_or_eq with longer | equal
  · exact ofText_of_lt w longer
  · have single : grams k (unitsOf text) = [unitsOf text] := by
      cases units : unitsOf text with
      | nil =>
          rw [units, List.length_nil] at equal
          omega
      | cons unit rest =>
          rw [units, List.length_cons] at equal
          rw [grams_cons equal.le, List.take_of_length_le equal.ge, grams_of_lt (by omega)]
    rw [ofText_of_le w equal.ge, gramHashes_eq positive, single, List.map_singleton,
      winnow_singleton wide, List.mergeSort_singleton]

theorem mem_ofText {k w : Nat} (positive : 1 ≤ k) (wide : 1 ≤ w) {text : List Text.Point}
    (long : k ≤ (unitsOf text).length) {hash : Int} :
    hash ∈ ofText k w text ↔ hash ∈ winnow w (gramHashes k (unitsOf text)) := by
  rw [ofText_of_ge positive wide long, List.mem_mergeSort]

theorem gramHashes_ne_nil {k : Nat} (positive : 1 ≤ k) {units : List Int}
    (long : k ≤ units.length) : gramHashes k units ≠ [] := by
  apply List.ne_nil_of_length_pos
  rw [gramHashes_eq positive, List.length_map, length_grams positive]
  omega

theorem ofText_ne_nil (k : Nat) {w : Nat} (positive : 1 ≤ k) (wide : 1 ≤ w) (text : List Text.Point) :
    ofText k w text ≠ [] := by
  by_cases short : (unitsOf text).length ≤ k
  · rw [ofText_of_le w short]
    exact List.cons_ne_nil _ _
  · rw [Nat.not_le] at short
    rw [ofText_of_lt w short, ne_eq, ← List.length_eq_zero_iff, List.length_mergeSort,
      List.length_eq_zero_iff]
    exact winnow_ne_nil wide (gramHashes_ne_nil positive short.le)

theorem ofText_ascending (k w : Nat) (text : List Text.Point) : (ofText k w text).Pairwise (· ≤ ·) := by
  by_cases short : (unitsOf text).length ≤ k
  · rw [ofText_of_le w short]
    exact List.pairwise_singleton _ _
  · rw [ofText_of_lt w (Nat.not_le.mp short)]
    refine (List.pairwise_mergeSort ?_ ?_ _).imp of_decide_eq_true
    · intro a b c first second
      simp only [decide_eq_true_eq] at first second ⊢
      omega
    · intro a b
      simp only [Bool.or_eq_true, decide_eq_true_eq]
      omega

theorem length_ofText_le {k : Nat} (positive : 1 ≤ k) (w : Nat) (text : List Text.Point) :
    (ofText k w text).length ≤ max 1 (unitsOf text).length := by
  by_cases short : (unitsOf text).length ≤ k
  · rw [ofText_of_le w short]
    exact Nat.le_max_left _ _
  · rw [ofText_of_lt w (Nat.not_le.mp short), List.length_mergeSort]
    have few := length_winnow_le w (gramHashes k (unitsOf text))
    have hashes : (gramHashes k (unitsOf text)).length = (unitsOf text).length + 1 - k := by
      rw [gramHashes_eq positive, List.length_map, length_grams positive]
    omega

theorem exists_gram_of_mem_ofText {k w : Nat} (positive : 1 ≤ k) (wide : 1 ≤ w) {text : List Text.Point}
    (long : k < (unitsOf text).length) {hash : Int} (member : hash ∈ ofText k w text) :
    ∃ gram, gram <:+: unitsOf text ∧ gram.length = k ∧ hash = hashUnits gram := by
  rw [mem_ofText positive wide long.le] at member
  have taken : hash ∈ gramHashes k (unitsOf text) := winnow_subset wide _ member
  rw [gramHashes_eq positive, List.mem_map] at taken
  obtain ⟨gram, inside, rfl⟩ := taken
  exact ⟨gram, (mem_grams inside).1, (mem_grams inside).2, rfl⟩

theorem exists_shared_hash {k w : Nat} (positive : 1 ≤ k) (wide : 1 ≤ w) {s t : List Text.Point}
    {block : List Int} (insideFirst : block <:+: unitsOf s) (insideSecond : block <:+: unitsOf t)
    (long : w + k - 1 ≤ block.length) : ∃ hash, hash ∈ ofText k w s ∧ hash ∈ ofText k w t := by
  have enough : w ≤ (gramHashes k block).length := by
    rw [gramHashes_eq positive, List.length_map, length_grams positive]
    omega
  -- either text records the minimum of the first `w` hashes of the block, on its own way
  have recorded : ∀ {text : List Text.Point}, block <:+: unitsOf text →
      ∃ least ∈ ofText k w text, least ∈ (gramHashes k block).take w ∧
        ∀ hash ∈ (gramHashes k block).take w, least ≤ hash := by
    intro text inside
    have hashesInside : (gramHashes k block).take w <:+: gramHashes k (unitsOf text) := by
      refine (List.take_prefix w _).isInfix.trans ?_
      rw [gramHashes_eq positive, gramHashes_eq positive]
      exact (infix_grams inside).map hashUnits
    have lengthLe : k ≤ (unitsOf text).length := by
      have := inside.length_le
      omega
    obtain ⟨least, member, here, minimal⟩ :=
      exists_least_of_consecutive wide hashesInside (List.length_take_of_le enough)
    exact ⟨least, (mem_ofText positive wide lengthLe).mpr member, here, minimal⟩
  obtain ⟨least, inFirst, hereFirst, minimalFirst⟩ := recorded insideFirst
  obtain ⟨other, inSecond, hereSecond, minimalSecond⟩ := recorded insideSecond
  have equal : least = other :=
    Int.le_antisymm (minimalFirst other hereSecond) (minimalSecond least hereFirst)
  exact ⟨least, inFirst, equal ▸ inSecond⟩

/-- Texts with a long enough common block share a hash. Every fingerprint is non-empty and in
ascending order, and that of a text with more than `k` units has hashes of its windows only. -/
theorem winnowing_guarantee {k w : Nat} (positive : 1 ≤ k) (wide : 1 ≤ w) :
    (∀ (s t : List Text.Point) (block : List Int), block <:+: unitsOf s → block <:+: unitsOf t →
      w + k - 1 ≤ block.length → ∃ hash, hash ∈ ofText k w s ∧ hash ∈ ofText k w t) ∧
    ∀ text : List Text.Point, ofText k w text ≠ [] ∧ (ofText k w text).Pairwise (· ≤ ·) ∧
      (k < (unitsOf text).length → ∀ hash ∈ ofText k w text,
        ∃ gram, gram <:+: unitsOf text ∧ gram.length = k ∧ hash = hashUnits gram) := by
  constructor
  · intro s t block insideFirst insideSecond long
    exact exists_shared_hash positive wide insideFirst insideSecond long
  · intro text
    refine ⟨ofText_ne_nil k positive wide text, ofText_ascending k w text, ?_⟩
    intro long hash member
    exact exists_gram_of_mem_ofText positive wide long member

theorem winnowing_guarantee_of_moved_block :
    ∃ hash, hash ∈ ofText 2 2 ['x', 'a', 'b', 'c', 'd'] ∧ hash ∈ ofText 2 2 ['a', 'b', 'c', 'y'] :=
  (winnowing_guarantee (k := 2) (w := 2) (by decide) (by decide)).1 _ _ [97, 98, 99]
    ⟨[120], [100], by decide⟩ ⟨[], [121], by decide⟩ (by decide)

end SourceSimilarity.Fingerprint
