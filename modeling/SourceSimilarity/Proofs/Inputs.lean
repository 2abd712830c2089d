import SourceSimilarity.Inputs
import Mathlib.Data.List.Lex
import Mathlib.Order.Lattice

namespace SourceSimilarity

section Keys

variable {α β : Type} [LinearOrder β] (key : α → β) {items : List α}

theorem pairwise_mergeSort {notAfter : α → α → Bool}
    (agrees : ∀ a b, notAfter a b = true ↔ ¬key b < key a) (items : List α) :
    (items.mergeSort notAfter).Pairwise fun a b => ¬key b < key a := by
  refine (List.pairwise_mergeSort ?_ ?_ items).imp fun {a b} ordered => (agrees a b).mp ordered
  · intro a b c first second
    rw [agrees, not_lt] at first second ⊢
    exact first.trans second
  · intro a b
    rw [Bool.or_eq_true, agrees, agrees, not_lt, not_lt]
    exact le_total (key a) (key b)

theorem pairwise_key_lt (injective : key.Injective) (nodup : items.Nodup)
    (ordered : items.Pairwise fun a b => ¬key b < key a) :
    items.Pairwise fun a b => key a < key b :=
  ordered.imp₂ (fun _ _ notAfter differ =>
    lt_of_le_of_ne (not_lt.mp notAfter) fun same => differ (injective same)) nodup

variable [DecidableEq α]

theorem mem_dropRepeats {a : α} (items : List α) : a ∈ dropRepeats items ↔ a ∈ items := by
  fun_induction dropRepeats items with
  | case1 first rest ih => simp [ih]
  | case2 first second rest differ ih => rw [List.mem_cons, ih, ← List.mem_cons]
  | case3 short long => rfl

theorem pairwise_dropRepeats (injective : key.Injective)
    (ordered : items.Pairwise fun a b => ¬key b < key a) :
    (dropRepeats items).Pairwise fun a b => key a < key b := by
  fun_induction dropRepeats items with
  | case1 first rest ih => exact ih ordered.tail
  | case2 first second rest differ ih =>
      refine List.pairwise_cons.mpr ⟨fun other member => ?_, ih ordered.tail⟩
      obtain ⟨least, later⟩ := List.pairwise_cons.mp ordered
      have above : key second ≤ key other := by
        rcases List.mem_cons.mp ((mem_dropRepeats _).mp member) with rfl | member
        · exact le_rfl
        · exact not_lt.mp ((List.pairwise_cons.mp later).1 other member)
      have below : key first < key second :=
        lt_of_le_of_ne (not_lt.mp (least second List.mem_cons_self)) fun same =>
          differ (injective same)
      exact below.trans_le above
  | case3 short long =>
      rcases short with _ | ⟨first, _ | ⟨second, rest⟩⟩
      · exact .nil
      · exact List.pairwise_singleton _ _
      · exact absurd rfl (long first second rest)

end Keys

namespace Text

variable {a b : String}

theorem Before.asymm (before : Before a b) : ¬Before b a := lt_asymm before

theorem Before.ne (before : Before a b) : a ≠ b := fun same =>
  LT.lt.ne before (congrArg codes same)

theorem before_or_before (differ : a ≠ b) : Before a b ∨ Before b a :=
  lt_or_gt_of_ne fun same => differ (codes_injective same)

theorem pairwise_sorted (texts : List String) :
    (sorted texts).Pairwise fun a b => ¬codes b < codes a :=
  pairwise_mergeSort codes
    (fun a b => by rw [Bool.not_eq_true', decide_eq_false_iff_not, Before]) texts

theorem sorted_perm (texts : List String) : (sorted texts).Perm texts :=
  List.mergeSort_perm texts _

end Text

theorem mem_ascending {text : String} (texts : List String) :
    text ∈ ascending texts ↔ text ∈ texts := by
  rw [ascending, mem_dropRepeats, (Text.sorted_perm texts).mem_iff]

theorem pairwise_ascending (texts : List String) : (ascending texts).Pairwise Text.Before :=
  pairwise_dropRepeats Text.codes (fun _ _ => Text.codes_injective) (Text.pairwise_sorted texts)

end SourceSimilarity
