import SourceSimilarity.Proofs.EditDistance.Script
import Mathlib.Data.Finset.Card
import Mathlib.Data.List.Infix

namespace SourceSimilarity.EditDistance

variable {α β γ : Type}

theorem Edits.exists_common {a b : List α} {n : Nat} (edits : Edits a b n) :
    ∃ common : List α, common.Sublist a ∧ common.Sublist b ∧
      max a.length b.length ≤ common.length + n := by
  induction edits with
  | done => exact ⟨[], .slnil, .slnil, Nat.le_refl 0⟩
  | keep item _ ih =>
      obtain ⟨common, left, right, bound⟩ := ih
      refine ⟨item :: common, left.cons_cons item, right.cons_cons item, ?_⟩
      simp only [List.length_cons]
      omega
  | substitute item other _ ih =>
      obtain ⟨common, left, right, bound⟩ := ih
      refine ⟨common, left.cons item, right.cons other, ?_⟩
      simp only [List.length_cons]
      omega
  | insert other _ ih =>
      obtain ⟨common, left, right, bound⟩ := ih
      refine ⟨common, left, right.cons other, ?_⟩
      simp only [List.length_cons]
      omega
  | delete item _ ih =>
      obtain ⟨common, left, right, bound⟩ := ih
      refine ⟨common, left.cons item, right, ?_⟩
      simp only [List.length_cons]
      omega

theorem Edits.exists_of_sublist {a b : List α} (sub : b.Sublist a) :
    ∃ n, n + b.length = a.length ∧ Edits a b n := by
  induction sub with
  | slnil => exact ⟨0, rfl, done⟩
  | cons item _ ih =>
      obtain ⟨n, count, edits⟩ := ih
      refine ⟨n + 1, ?_, delete item edits⟩
      rw [List.length_cons]
      omega
  | cons_cons item _ ih =>
      obtain ⟨n, count, edits⟩ := ih
      refine ⟨n, ?_, keep item edits⟩
      rw [List.length_cons, List.length_cons]
      omega

theorem distance_of_sublist [DecidableEq α] {a b : List α} (sub : b.Sublist a) :
    distance a b = a.length - b.length := by
  obtain ⟨n, count, edits⟩ := Edits.exists_of_sublist sub
  have upper : distance a b ≤ n := (distance_isLeast a b).2 edits
  have lower := length_le_distance a b
  omega

theorem leastCost_map [DecidableEq α] [DecidableEq β] {f : α → β} (injective : Function.Injective f)
    (a b : List α) : leastCost (a.map f) (b.map f) = leastCost a b := by
  fun_induction leastCost a b with
  | case1 b => simp [leastCost]
  | case2 item a => simp [leastCost]
  | case3 item a other b delete insert both =>
      rw [List.map_cons] at delete insert
      rw [List.map_cons, List.map_cons, leastCost, delete, insert, both]
      simp only [injective.eq_iff]

theorem distance_map [DecidableEq α] [DecidableEq β] {f : α → β} (injective : Function.Injective f)
    (a b : List α) : distance (a.map f) (b.map f) = distance a b := by
  rw [distance_eq, distance_eq, ← List.map_reverse, ← List.map_reverse, leastCost_map injective]

theorem distance_reverse [DecidableEq α] (a b : List α) :
    distance a.reverse b.reverse = distance a b := by
  apply le_antisymm
  · exact (distance_isLeast _ _).2 (distance_isLeast a b).1.reverse
  · have edits := (distance_isLeast a.reverse b.reverse).1.reverse
    rw [List.reverse_reverse, List.reverse_reverse] at edits
    exact (distance_isLeast a b).2 edits

theorem Edits.pair [DecidableEq α] {a b : List α} {n : Nat} (edits : Edits a b n) (item other : α) :
    Edits (item :: a) (other :: b) (n + if item = other then 0 else 1) := by
  split
  · rename_i equal
    exact equal ▸ keep item edits
  · exact substitute item other edits

theorem related_of_pairwise {related : β → β → Prop} {list : List β}
    (sorted : list.Pairwise related) {x y : β} (memberX : x ∈ list) (memberY : y ∈ list) :
    x = y ∨ related x y ∨ related y x :=
  List.Pairwise.forall_of_forall_of_flip (R := fun x y => x = y ∨ related x y ∨ related y x)
    (fun _ _ => .inl rfl) (sorted.imp fun less => .inr (.inl less))
    (sorted.imp fun less => .inr (.inr less)) memberX memberY

/-- Pairs of items of two sequences, one to one and with the same order on both sides. -/
structure Matching (before : β → β → Prop) (before' : γ → γ → Prop) (xs : List β) (ys : List γ)
    (pairs : Finset (β × γ)) : Prop where
  inside : ∀ x ∈ pairs, x.1 ∈ xs ∧ x.2 ∈ ys
  same : ∀ x ∈ pairs, ∀ y ∈ pairs, x.1 = y.1 ↔ x.2 = y.2
  monotone : ∀ x ∈ pairs, ∀ y ∈ pairs, before x.1 y.1 → before' x.2 y.2

namespace Matching

variable {before : β → β → Prop} {before' : γ → γ → Prop} {xs : List β} {ys : List γ}
  {pairs : Finset (β × γ)} {item : β} {other : γ}

theorem unmatched (matching : Matching before before' (item :: xs) ys pairs)
    (alone : ∀ x ∈ pairs, x.1 ≠ item) : Matching before before' xs ys pairs where
  inside x member := by
    obtain ⟨left, right⟩ := matching.inside x member
    exact ⟨(List.mem_cons.mp left).resolve_left (alone x member), right⟩
  same := matching.same
  monotone := matching.monotone

theorem rest [DecidableEq β] [DecidableEq γ] {front back : List γ}
    (matching : Matching before before' (item :: xs) (front ++ other :: back) pairs)
    (sorted : (item :: xs).Pairwise before) (sorted' : (front ++ other :: back).Pairwise before')
    (asymm : ∀ y ∈ front ++ other :: back, ∀ z ∈ front ++ other :: back,
      before' y z → ¬ before' z y)
    (matched : (item, other) ∈ pairs) :
    Matching before before' xs back (pairs.erase (item, other)) where
  inside x member := by
    obtain ⟨differ, inPairs⟩ := Finset.mem_erase.mp member
    obtain ⟨left, right⟩ := matching.inside x inPairs
    have apart : x.1 ≠ item := fun equal =>
      differ (Prod.ext equal ((matching.same x inPairs _ matched).mp equal))
    have inRest : x.1 ∈ xs := (List.mem_cons.mp left).resolve_left apart
    have after : before' other x.2 :=
      matching.monotone _ matched x inPairs ((List.pairwise_cons.mp sorted).1 _ inRest)
    refine ⟨inRest, ?_⟩
    rcases List.mem_append.mp right with inFront | inBack
    · have earlier := (List.pairwise_append.mp sorted').2.2 x.2 inFront other List.mem_cons_self
      exact absurd after (asymm _ right other (by simp) earlier)
    · refine (List.mem_cons.mp inBack).resolve_left fun equal => ?_
      exact apart ((matching.same x inPairs _ matched).mpr equal)
  same x member y memberY :=
    matching.same x (Finset.mem_of_mem_erase member) y (Finset.mem_of_mem_erase memberY)
  monotone x member y memberY :=
    matching.monotone x (Finset.mem_of_mem_erase member) y (Finset.mem_of_mem_erase memberY)

variable [DecidableEq α] [DecidableEq β] [DecidableEq γ] (label : β → α) (label' : γ → α)

def relabeled (pairs : Finset (β × γ)) : Nat :=
  (pairs.filter fun x => label x.1 ≠ label' x.2).card

theorem relabeled_erase (matched : (item, other) ∈ pairs) :
    relabeled label label' pairs = relabeled label label' (pairs.erase (item, other)) +
      if label item = label' other then 0 else 1 := by
  unfold relabeled
  rw [Finset.filter_erase]
  by_cases equal : label item = label' other
  · rw [if_pos equal, Finset.erase_eq_of_notMem (by simp [equal]), Nat.add_zero]
  · rw [if_neg equal, Finset.card_erase_add_one (by simp [equal, matched])]

/-- What a matching leaves to be done: the items without a partner, and the unequal partners. -/
theorem exists_edits (matching : Matching before before' xs ys pairs)
    (sorted : xs.Pairwise before) (sorted' : ys.Pairwise before')
    (asymm : ∀ y ∈ ys, ∀ z ∈ ys, before' y z → ¬ before' z y) :
    ∃ n, n + 2 * pairs.card = xs.length + ys.length + relabeled label label' pairs ∧
      Edits (xs.map label) (ys.map label') n := by
  induction xs generalizing ys pairs with
  | nil =>
      have none : pairs = ∅ :=
        Finset.eq_empty_of_forall_notMem fun x member => nomatch (matching.inside x member).1
      refine ⟨ys.length, by simp [none, relabeled], ?_⟩
      rw [List.map_nil, ← List.length_map (f := label')]
      exact .insertAll _
  | cons item xs ih =>
      by_cases alone : ∀ x ∈ pairs, x.1 ≠ item
      · obtain ⟨n, count, edits⟩ := ih (matching.unmatched alone) sorted.of_cons sorted' asymm
        refine ⟨n + 1, ?_, .delete (label item) edits⟩
        rw [List.length_cons]
        omega
      · push Not at alone
        obtain ⟨⟨first, other⟩, matched, equal⟩ := alone
        obtain rfl : item = first := equal.symm
        have member : other ∈ ys := (matching.inside _ matched).2
        obtain ⟨front, back, rfl⟩ := List.append_of_mem member
        have inBack : ∀ y ∈ back, y ∈ front ++ other :: back := fun y member =>
          List.mem_append_right front (List.mem_cons_of_mem other member)
        obtain ⟨n, count, edits⟩ := ih (matching.rest sorted sorted' asymm matched) sorted.of_cons
          (List.pairwise_append.mp sorted').2.1.of_cons
          fun y member z memberZ => asymm y (inBack y member) z (inBack z memberZ)
        have cards := Finset.card_erase_add_one matched
        have labels := relabeled_erase label label' matched
        have skipped : Edits [] (front.map label') (front.map label').length := .insertAll _
        rw [List.length_map] at skipped
        have all := skipped.append (edits.pair (label item) (label' other))
        rw [← List.map_cons, ← List.map_cons, ← List.map_append] at all
        refine ⟨_, ?_, all⟩
        rw [List.length_cons, List.length_append, List.length_cons]
        omega

end Matching

theorem Edits.exists_matched [DecidableEq α] {label : β → α} {label' : γ → α} {xs : List β}
    {ys : List γ} {n : Nat} (edits : Edits (xs.map label) (ys.map label') n) :
    ∃ pairs : List (β × γ), (pairs.map Prod.fst).Sublist xs ∧ (pairs.map Prod.snd).Sublist ys ∧
      xs.length + ys.length + (pairs.filter fun x => label x.1 ≠ label' x.2).length ≤
        n + 2 * pairs.length := by
  generalize left : xs.map label = a at edits
  generalize right : ys.map label' = b at edits
  induction edits generalizing xs ys with
  | done =>
      obtain rfl := List.map_eq_nil_iff.mp left
      obtain rfl := List.map_eq_nil_iff.mp right
      exact ⟨[], .slnil, .slnil, by simp⟩
  | keep item _ ih =>
      obtain ⟨x, xs, rfl, rfl, rest⟩ := List.map_eq_cons_iff.mp left
      obtain ⟨y, ys, rfl, equal, rest'⟩ := List.map_eq_cons_iff.mp right
      obtain ⟨pairs, sub, sub', bound⟩ := ih rest rest'
      refine ⟨(x, y) :: pairs, sub.cons_cons x, sub'.cons_cons y, ?_⟩
      rw [List.filter_cons_of_neg (by simp [equal])]
      simp only [List.length_cons]
      omega
  | substitute item other _ ih =>
      obtain ⟨x, xs, rfl, rfl, rest⟩ := List.map_eq_cons_iff.mp left
      obtain ⟨y, ys, rfl, rfl, rest'⟩ := List.map_eq_cons_iff.mp right
      obtain ⟨pairs, sub, sub', bound⟩ := ih rest rest'
      refine ⟨(x, y) :: pairs, sub.cons_cons x, sub'.cons_cons y, ?_⟩
      rw [List.filter_cons]
      split <;> simp only [List.length_cons] <;> omega
  | insert other _ ih =>
      obtain ⟨y, ys, rfl, rfl, rest'⟩ := List.map_eq_cons_iff.mp right
      obtain ⟨pairs, sub, sub', bound⟩ := ih left rest'
      refine ⟨pairs, sub, sub'.cons y, ?_⟩
      rw [List.length_cons]
      omega
  | delete item _ ih =>
      obtain ⟨x, xs, rfl, rfl, rest⟩ := List.map_eq_cons_iff.mp left
      obtain ⟨pairs, sub, sub', bound⟩ := ih rest right
      refine ⟨pairs, sub.cons x, sub', ?_⟩
      rw [List.length_cons]
      omega

end SourceSimilarity.EditDistance
