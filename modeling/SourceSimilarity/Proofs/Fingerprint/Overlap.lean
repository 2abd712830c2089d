import SourceSimilarity.Scan.Artefact
import SourceSimilarity.Proofs.EditDistance.Matching
import SourceSimilarity.Proofs.EditDistance.Saturation
import SourceSimilarity.Proofs.Fingerprint.Text
import Mathlib.Data.Multiset.Sort
import Mathlib.Data.Multiset.UnionInter

namespace SourceSimilarity

namespace EditDistance

variable {α : Type} [DecidableEq α]

theorem max_length_le_distance_add (a b : List α) :
    max a.length b.length ≤ distance a b + ((a : Multiset α) ∩ b).card := by
  obtain ⟨common, left, right, bound⟩ := (distance_isLeast a b).1.exists_common
  have inside : (common : Multiset α) ≤ (a : Multiset α) ∩ b :=
    Multiset.le_inter (Multiset.coe_le.mpr left.subperm) (Multiset.coe_le.mpr right.subperm)
  have count := Multiset.card_le_card inside
  rw [Multiset.coe_card] at count
  omega

variable {a b : List Int}

theorem distance_of_le (ascending : a.Pairwise (· ≤ ·)) (ascending' : b.Pairwise (· ≤ ·))
    (inside : (b : Multiset Int) ≤ a) : distance a b = a.length - b.length :=
  distance_of_sublist
    (List.sublist_of_subperm_of_pairwise (Multiset.coe_le.mp inside) ascending' ascending)

theorem distance_add_le (ascending : a.Pairwise (· ≤ ·)) (ascending' : b.Pairwise (· ≤ ·)) :
    distance a b + 2 * ((a : Multiset Int) ∩ b).card ≤ a.length + b.length := by
  let common := ((a : Multiset Int) ∩ b).sort
  have sorted : common.Pairwise (· ≤ ·) := Multiset.pairwise_sort _ _
  have members : (common : Multiset Int) = (a : Multiset Int) ∩ b := Multiset.sort_eq _ _
  have count : common.length = ((a : Multiset Int) ∩ b).card := by
    rw [← members, Multiset.coe_card]
  have inA : (common : Multiset Int) ≤ a := members ▸ Multiset.inter_le_left
  have inB : (common : Multiset Int) ≤ b := members ▸ Multiset.inter_le_right
  have lengthA : common.length ≤ a.length := (Multiset.coe_le.mp inA).length_le
  have lengthB : common.length ≤ b.length := (Multiset.coe_le.mp inB).length_le
  -- what is not common is left out of the one and put into the other
  have out := distance_of_le ascending sorted inA
  have into := distance_of_le ascending' sorted inB
  rw [distance_comm] at into
  have both := distance_triangle a common b
  omega

theorem eq_iff_of_ascending (ascending : a.Pairwise (· ≤ ·)) (ascending' : b.Pairwise (· ≤ ·)) :
    a = b ↔ (a : Multiset Int) = b := by
  rw [Multiset.coe_eq_coe]
  exact ⟨fun equal => equal ▸ List.Perm.refl a,
    fun perm => perm.eq_of_pairwise' ascending ascending'⟩

theorem limited_eq_zero_iff {a b : List α} (short : a.length < saturated) :
    (limited a b).1 = 0 ↔ a = b := by
  refine ⟨eq_of_limited_eq_zero, ?_⟩
  rintro rfl
  rw [limited_self short]

end EditDistance

namespace Fingerprint

theorem ofText_eq_of_perm {k w : Nat} (positive : 1 ≤ k) (wide : 1 ≤ w) {text : List Text.Point}
    (long : k ≤ (unitsOf text).length) {hashes : List Int} (ascending : hashes.Pairwise (· ≤ ·))
    (recorded : (winnow w (gramHashes k (unitsOf text))).Perm hashes) :
    ofText k w text = hashes := by
  have sorted := ofText_ascending k w text
  rw [ofText_of_ge positive wide long] at sorted ⊢
  exact ((List.mergeSort_perm _ _).trans recorded).eq_of_pairwise' sorted ascending

theorem compare_moss (a b : List Int) :
    Artefact.compare .moss a b = EditDistance.limited a b := rfl

/-- The score of two fingerprints lies between what the larger one has beyond their overlap and what
both have beyond it, and it is 0 just for equal multisets. -/
theorem compare_moss_bounded (k w k' w' : Nat) (s t : List Text.Point)
    (short : (ofText k w s).length < saturated) (short' : (ofText k' w' t).length < saturated) :
    let a := ofText k w s
    let b := ofText k' w' t
    let overlap := ((a : Multiset Int) ∩ b).card
    max a.length b.length - overlap ≤ (Artefact.compare .moss a b).1 ∧
      (Artefact.compare .moss a b).1 ≤ a.length + b.length - 2 * overlap ∧
      ((Artefact.compare .moss a b).1 = 0 ↔ (a : Multiset Int) = b) := by
  intro a b overlap
  have ascending := ofText_ascending k w s
  have ascending' := ofText_ascending k' w' t
  have lower : max a.length b.length ≤ EditDistance.distance a b + overlap :=
    EditDistance.max_length_le_distance_add a b
  have upper : EditDistance.distance a b + 2 * overlap ≤ a.length + b.length :=
    EditDistance.distance_add_le ascending ascending'
  have score : (Artefact.compare .moss a b).1 = EditDistance.distance a b := by
    rw [compare_moss, EditDistance.limited_of_short (max_lt short short')]
  have zero : (Artefact.compare .moss a b).1 = 0 ↔ a = b :=
    EditDistance.limited_eq_zero_iff short
  refine ⟨by omega, by omega, zero.trans ?_⟩
  exact EditDistance.eq_iff_of_ascending ascending ascending'

theorem compare_moss_bounded_of_shifted :
    let a := ofText 1 1 ['x', 'b', 'a']
    let b := ofText 1 1 ['y', 'c', 'b']
    a = [97, 98, 120] ∧ b = [98, 99, 121] ∧ a.length < saturated ∧ b.length < saturated ∧
      2 ≤ (Artefact.compare .moss a b).1 ∧ (Artefact.compare .moss a b).1 = 3 ∧
      (Artefact.compare .moss a b).1 ≤ 4 ∧ (a : Multiset Int) ≠ b := by
  intro a b
  have valueA : a = [97, 98, 120] :=
    ofText_eq_of_perm (by decide) (by decide) (by decide) (by decide) (by decide)
  have valueB : b = [98, 99, 121] :=
    ofText_eq_of_perm (by decide) (by decide) (by decide) (by decide) (by decide)
  have few : 3 < saturated := by decide +kernel
  have shortA : a.length < saturated := (congrArg List.length valueA).trans_lt few
  have shortB : b.length < saturated := (congrArg List.length valueB).trans_lt few
  have score : (Artefact.compare .moss a b).1 = 3 := by rw [valueA, valueB]; decide +kernel
  have overlap : ((a : Multiset Int) ∩ b).card = 1 := by rw [valueA, valueB]; decide
  obtain ⟨lower, upper, zero⟩ := compare_moss_bounded 1 1 1 1 _ _ shortA shortB
  change max a.length b.length - ((a : Multiset Int) ∩ b).card ≤ _ at lower
  change _ ≤ a.length + b.length - 2 * ((a : Multiset Int) ∩ b).card at upper
  rw [overlap, score, valueA, valueB] at lower upper
  rw [score] at zero
  rw [score]
  exact ⟨valueA, valueB, shortA, shortB, lower, rfl, upper, fun equal =>
    absurd (zero.mpr equal) (by decide)⟩

theorem windows_prefix_append {w : Nat} (wide : 1 ≤ w) {hashes : List Int}
    (enough : w ≤ hashes.length) (more : List Int) :
    windows w hashes <+: windows w (hashes ++ more) := by
  have nonempty : hashes ≠ [] := List.ne_nil_of_length_pos (by omega)
  have count : (hashes ++ more).length - w + 1 = (hashes.length - w + 1) + more.length := by
    rw [List.length_append]
    omega
  have early : windows w hashes =
      (List.range (hashes.length - w + 1)).map fun start =>
        ((hashes ++ more).drop start).take w := by
    rw [windows_eq wide nonempty]
    apply List.map_congr_left
    intro start inside
    have fits : start ≤ hashes.length - w := Nat.le_of_lt_succ (List.mem_range.mp inside)
    rw [List.drop_append_of_le_length (by omega), List.take_append_of_le_length]
    rw [List.length_drop]
    omega
  have first : List.range (hashes.length - w + 1) <+:
      List.range (hashes.length - w + 1 + more.length) := ⟨_, List.range_add.symm⟩
  rw [early, windows_eq wide (List.append_ne_nil_of_left_ne_nil nonempty more), count]
  exact first.map _

theorem recordFrom_prefix_append (start : Nat) (held : Option Selection)
    (early late : List (List Int)) :
    recordFrom start held early <+: recordFrom start held (early ++ late) := by
  fun_induction recordFrom start held early with
  | case1 start held => exact List.nil_prefix
  | case2 start held window early found ih =>
      rw [List.cons_append, recordFrom, found]
      exact ih
  | case3 start held window early lowest found served ih =>
      rw [List.cons_append, recordFrom_of_served found served]
      exact ih
  | case4 start held window early lowest found served ih =>
      rw [List.cons_append, recordFrom_of_not_served found served, List.prefix_cons_inj]
      exact ih

theorem winnow_prefix_append {w : Nat} (wide : 1 ≤ w) {hashes : List Int}
    (enough : w ≤ hashes.length) (more : List Int) :
    winnow w hashes <+: winnow w (hashes ++ more) := by
  obtain ⟨late, windows⟩ := windows_prefix_append wide enough more
  rw [winnow, winnow, selections, selections, ← windows]
  exact (recordFrom_prefix_append 0 none _ late).map _

theorem unitsOf_append (s t : List Text.Point) : unitsOf (s ++ t) = unitsOf s ++ unitsOf t := by
  rw [unitsOf, Text.units16_append, List.map_append]
  rfl

theorem winnow_text_prefix_append {k w : Nat} (positive : 1 ≤ k) (wide : 1 ≤ w) {text : List Text.Point}
    (long : w + k - 1 ≤ (unitsOf text).length) (more : List Text.Point) :
    winnow w (gramHashes k (unitsOf text)) <+:
      winnow w (gramHashes k (unitsOf (text ++ more))) := by
  rw [gramHashes_eq positive, gramHashes_eq positive, unitsOf_append]
  obtain ⟨late, grams⟩ := grams_prefix_append k (unitsOf text) (unitsOf more)
  rw [← grams, List.map_append]
  refine winnow_prefix_append wide ?_ _
  rw [List.length_map, length_grams positive]
  omega

/-- A text that goes on keeps its fingerprint as a part of the new one, and the score of both is the
number of hashes that have come in. -/
theorem ofText_le_append {k w : Nat} (positive : 1 ≤ k) (wide : 1 ≤ w) (text more : List Text.Point)
    (long : w + k - 1 ≤ (unitsOf text).length) :
    (ofText k w text : Multiset Int) ≤ ofText k w (text ++ more) ∧
      ((ofText k w (text ++ more)).length < saturated →
        Artefact.compare .moss (ofText k w text) (ofText k w (text ++ more)) =
          ((ofText k w (text ++ more)).length - (ofText k w text).length, none) ∧
        Artefact.compare .moss (ofText k w (text ++ more)) (ofText k w text) =
          ((ofText k w (text ++ more)).length - (ofText k w text).length, none)) := by
  have longer : k ≤ (unitsOf (text ++ more)).length := by
    rw [unitsOf_append, List.length_append]
    omega
  have inside : (ofText k w text : Multiset Int) ≤ ofText k w (text ++ more) := by
    rw [ofText_of_ge positive wide (by omega), ofText_of_ge positive wide longer,
      Multiset.coe_eq_coe.mpr (List.mergeSort_perm _ _),
      Multiset.coe_eq_coe.mpr (List.mergeSort_perm _ _), Multiset.coe_le]
    exact (winnow_text_prefix_append positive wide long more).sublist.subperm
  refine ⟨inside, fun short => ?_⟩
  have fewer : (ofText k w text).length ≤ (ofText k w (text ++ more)).length :=
    (Multiset.coe_le.mp inside).length_le
  have scored : EditDistance.limited (ofText k w (text ++ more)) (ofText k w text) =
      ((ofText k w (text ++ more)).length - (ofText k w text).length, none) := by
    rw [EditDistance.limited_of_short (max_lt short (fewer.trans_lt short)),
      EditDistance.distance_of_le (ofText_ascending k w _) (ofText_ascending k w _) inside]
  rw [compare_moss, compare_moss, EditDistance.limited_comm (ofText k w text)]
  exact ⟨scored, scored⟩

theorem ofText_le_append_of_one_window :
    1 + 2 - 1 ≤ (unitsOf ['b', 'c']).length ∧
      ofText 2 1 ['b', 'c'] = [3137] ∧ ofText 2 1 ['b', 'c', 'a'] = [3137, 3166] ∧
      (ofText 2 1 ['b', 'c'] : Multiset Int) ≤ ofText 2 1 ['b', 'c', 'a'] ∧
      Artefact.compare .moss (ofText 2 1 ['b', 'c']) (ofText 2 1 ['b', 'c', 'a']) = (1, none) := by
  have long : 1 + 2 - 1 ≤ (unitsOf ['b', 'c']).length := by decide
  have value : ofText 2 1 ['b', 'c'] = [3137] :=
    ofText_eq_of_perm (by decide) (by decide) (by decide) (by decide) (by decide)
  have longer : ofText 2 1 ['b', 'c', 'a'] = [3137, 3166] :=
    ofText_eq_of_perm (by decide) (by decide) (by decide) (by decide) (by decide)
  have few : 2 < saturated := by decide +kernel
  have short : (ofText 2 1 ['b', 'c', 'a']).length < saturated :=
    (congrArg List.length longer).trans_lt few
  obtain ⟨inside, score⟩ :=
    ofText_le_append (k := 2) (w := 1) (by decide) (by decide) ['b', 'c'] ['a'] long
  have scored := (score short).1
  rw [List.cons_append, List.cons_append, List.nil_append, longer, value] at scored
  refine ⟨long, value, longer, inside, ?_⟩
  rw [longer, value]
  exact scored

end Fingerprint

end SourceSimilarity
