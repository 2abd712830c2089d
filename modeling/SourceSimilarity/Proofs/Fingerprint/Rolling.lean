import SourceSimilarity.Proofs.Fingerprint.Text
import Mathlib.Algebra.BigOperators.Intervals

namespace SourceSimilarity.Fingerprint

theorem value_eq_sum (units : List Int) :
    value units =
      ∑ j ∈ Finset.range units.length, units.getD j 0 * base ^ (units.length - 1 - j) := by
  induction units with
  | nil => rfl
  | cons unit rest ih =>
      rw [value_cons, ih, List.length_cons, Finset.sum_range_succ', add_comm]
      congr 1
      apply Finset.sum_congr rfl
      intro j _
      rw [List.getD_cons_succ, show rest.length + 1 - 1 - (j + 1) = rest.length - 1 - j by omega]

theorem signed_emod (number : Int) :
    signed (number % modulus) = (BitVec.ofInt 32 number).toInt := by
  rw [BitVec.toInt_ofInt, Int.bmod_def]
  rfl

theorem hashUnits_eq (units : List Int) :
    hashUnits units =
      (BitVec.ofInt 32
        (∑ j ∈ Finset.range units.length, units.getD j 0 * 31 ^ (units.length - 1 - j))).toInt := by
  rw [hashUnits, residueOf_eq, signed_emod, value_eq_sum, base]

theorem getElem?_grams {k : Nat} (positive : 1 ≤ k) {units : List Int} {place : Nat}
    (inside : place + k ≤ units.length) :
    (grams k units)[place]? = some ((units.drop place).take k) := by
  induction units generalizing place with
  | nil =>
      rw [List.length_nil] at inside
      omega
  | cons unit rest ih =>
      rw [List.length_cons] at inside
      rw [grams_cons (by omega)]
      cases place with
      | zero => rfl
      | succ place =>
          rw [List.getElem?_cons_succ, List.drop_succ_cons]
          exact ih (by omega)

theorem getD_window {k place j : Nat} (units : List Int) (inside : j < k) :
    ((units.drop place).take k).getD j 0 = units.getD (place + j) 0 := by
  rw [List.getD_eq_getElem?_getD, List.getElem?_take_of_lt inside, List.getElem?_drop,
    List.getD_eq_getElem?_getD]

theorem hashUnits_window {k place : Nat} {units : List Int} (inside : place + k ≤ units.length) :
    hashUnits ((units.drop place).take k) =
      (BitVec.ofInt 32
        (∑ j ∈ Finset.range k, units.getD (place + j) 0 * 31 ^ (k - 1 - j))).toInt := by
  have length : ((units.drop place).take k).length = k := by
    rw [List.length_take, List.length_drop]
    omega
  rw [hashUnits_eq, length]
  congr 2
  apply Finset.sum_congr rfl
  intro j member
  rw [getD_window units (Finset.mem_range.mp member)]

theorem winnow_of_one_window {k w : Nat} (positive : 1 ≤ k) (wide : 1 ≤ w) {units : List Int}
    (length : units.length = k) : winnow w (gramHashes k units) = [hashUnits units] := by
  have few : (grams k units).length = 1 := by
    rw [length_grams positive]
    omega
  obtain ⟨gram, single⟩ := List.length_eq_one_iff.mp few
  have first := getElem?_grams positive (show 0 + k ≤ units.length by omega)
  rw [single, List.drop_zero, List.take_of_length_le length.le] at first
  obtain rfl : gram = units := Option.some.inj first
  rw [gramHashes_eq positive, single, List.map_singleton, winnow_singleton wide]

/-- There is one rolled hash for each window, and it is the hash of the window: the sum of the
units, each with its weight, as a signed number of 32 bits. So the shortest text that has a window
has the same fingerprint by its windows as by its own hash. -/
theorem gramHashes_direct {k : Nat} (positive : 1 ≤ k) (units : List Int) :
    ((gramHashes k units).length : Int) = max 0 ((units.length : Int) - k + 1) ∧
      (∀ place, place + k ≤ units.length →
        (gramHashes k units)[place]? = some (hashUnits ((units.drop place).take k)) ∧
        hashUnits ((units.drop place).take k) =
          (BitVec.ofInt 32
            (∑ j ∈ Finset.range k, units.getD (place + j) 0 * 31 ^ (k - 1 - j))).toInt) ∧
      (units.length = k → ∀ w, 1 ≤ w → winnow w (gramHashes k units) = [hashUnits units]) ∧
      ∀ text w, unitsOf text = units → units.length = k → 1 ≤ w →
        ofText k w text = [hashUnits units] ∧ winnow w (gramHashes k units) = ofText k w text := by
  refine ⟨?_, ?_, fun length w wide => winnow_of_one_window positive wide length, ?_⟩
  · rw [gramHashes_eq positive, List.length_map, length_grams positive]
    omega
  · intro place inside
    refine ⟨?_, hashUnits_window inside⟩
    rw [gramHashes_eq positive, List.getElem?_map, getElem?_grams positive inside, Option.map_some]
  · rintro text w rfl length wide
    have single := ofText_of_le w length.le
    exact ⟨single, by rw [winnow_of_one_window positive wide length, single]⟩

theorem gramHashes_direct_of_wideUnits :
    let units : List Int := [4294967299, -7, 10]
    1 ≤ 2 ∧ (gramHashes 2 units).length = 2 ∧
      (gramHashes 2 units)[1]? = some (hashUnits [-7, 10]) ∧
      hashUnits [-7, 10] =
        (BitVec.ofInt 32 (∑ j ∈ Finset.range 2, units.getD (1 + j) 0 * 31 ^ (2 - 1 - j))).toInt ∧
      gramHashes 2 units = [86, -207] := by
  intro units
  obtain ⟨count, each, -⟩ := gramHashes_direct (k := 2) (by decide) units
  obtain ⟨hash, sum⟩ := each 1 (by decide)
  refine ⟨by decide, ?_, hash, sum, by decide⟩
  have two : max 0 ((units.length : Int) - (2 : Nat) + 1) = 2 := by decide
  omega

end SourceSimilarity.Fingerprint
