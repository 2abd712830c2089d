import SourceSimilarity.Proofs.Tree.View
import SourceSimilarity.Proofs.Tree.Layout
import Mathlib.Order.Interval.Finset.Nat

/-!
In a post-order view a node lies above the nodes from its leftmost leaf on that come before it, and
to the left of the nodes whose leftmost leaf comes after it. The nodes of a window, which are those
from one place up to another, form a forest. The distance of two forests follows from those of
smaller ones: the last node of either is left alone, or the last nodes are paired and the forests
below and before them are compared on their own.
-/

namespace SourceSimilarity.Tree.PostOrder

variable {α : Type}

def layout (view : PostOrder α) : Layout α where
  nodes := Finset.range view.size
  label node := view.labels[node]?
  Above u v := view.leaf u ≤ v ∧ v < u
  LeftOf u v := u < view.leaf v

def window (view : PostOrder α) (start stop : Nat) : Layout α :=
  { view.layout with nodes := Finset.Ico start stop }

theorem layout_eq_window (view : PostOrder α) : view.layout = view.window 0 view.size := by
  simp [window, layout]

theorem card_window (view : PostOrder α) (start stop : Nat) :
    (view.window start stop).nodes.card = stop - start :=
  Nat.card_Ico start stop

theorem agree_layout {a b : PostOrder α} {x y : Nat × Nat} :
    a.layout.Agree b.layout x y ↔ (x.1 = y.1 ↔ x.2 = y.2) ∧
      ((a.leaf x.1 ≤ y.1 ∧ y.1 < x.1) ↔ (b.leaf x.2 ≤ y.2 ∧ y.2 < x.2)) ∧
      (x.1 < a.leaf y.1 ↔ x.2 < b.leaf y.2) :=
  ⟨fun agree => ⟨agree.same, agree.above, agree.leftOf⟩,
    fun ⟨same, above, leftOf⟩ => ⟨same, above, leftOf⟩⟩

variable [DecidableEq α]

noncomputable def forestDistance (a b : PostOrder α) (left k top l : Nat) : Nat :=
  (a.window left k).distance (b.window top l)

noncomputable def treeDistance (a b : PostOrder α) (k l : Nat) : Nat :=
  forestDistance a b (a.leaf k) (k + 1) (b.leaf l) (l + 1)

def pairCost (a b : PostOrder α) (k l : Nat) : Nat := if a.labels[k]? = b.labels[l]? then 0 else 1

def relabels (a b : PostOrder α) (pairs : Finset (Nat × Nat)) : Nat :=
  (pairs.filter fun x => a.labels[x.1]? ≠ b.labels[x.2]?).card

theorem relabels_insert {a b : PostOrder α} {pairs : Finset (Nat × Nat)} {k l : Nat}
    (fresh : (k, l) ∉ pairs) :
    relabels a b (insert (k, l) pairs) = relabels a b pairs + pairCost a b k l := by
  have absent : (k, l) ∉ pairs.filter fun x => a.labels[x.1]? ≠ b.labels[x.2]? :=
    fun member => fresh (Finset.mem_filter.mp member).1
  unfold relabels pairCost
  by_cases same : a.labels[k]? = b.labels[l]?
  · rw [Finset.filter_insert, if_neg (not_not.mpr same), if_pos same, Nat.add_zero]
  · rw [Finset.filter_insert, if_pos same, if_neg same, Finset.card_insert_of_notMem absent]

theorem relabels_filter (a b : PostOrder α) (pairs : Finset (Nat × Nat)) (p : Nat × Nat → Prop)
    [DecidablePred p] :
    relabels a b (pairs.filter p) + relabels a b (pairs.filter fun x => ¬ p x) =
      relabels a b pairs := by
  unfold relabels
  rw [Finset.filter_comm, Finset.filter_comm (fun x => ¬ p x),
    Finset.card_filter_add_card_filter_not]

omit [DecidableEq α] in
structure Fits (a b : PostOrder α) (left k top l : Nat) (pairs : Finset (Nat × Nat)) : Prop where
  rows : ∀ x ∈ pairs, left ≤ x.1 ∧ x.1 < k
  columns : ∀ x ∈ pairs, top ≤ x.2 ∧ x.2 < l
  agree : ∀ x ∈ pairs, ∀ y ∈ pairs, a.layout.Agree b.layout x y

variable {a b : PostOrder α} {left k top l : Nat} {pairs : Finset (Nat × Nat)}

theorem Fits.forestDistance_le (fits : Fits a b left k top l pairs) :
    forestDistance a b left k top l + 2 * pairs.card ≤ (k - left) + (l - top) + relabels a b pairs := by
  let mapping : Layout.EditMapping (a.window left k) (b.window top l) := {
    pairs
    inside := fun x member =>
      ⟨Finset.mem_Ico.mpr (fits.rows x member), Finset.mem_Ico.mpr (fits.columns x member)⟩
    agree := fun x memberX y memberY =>
      have agree := fits.agree x memberX y memberY
      ⟨agree.same, agree.above, agree.leftOf⟩ }
  have bound : forestDistance a b left k top l ≤ mapping.cost := Layout.distance_le mapping
  have cost := mapping.cost_add
  rw [card_window, card_window] at cost
  change mapping.cost + 2 * pairs.card = k - left + (l - top) + relabels a b pairs at cost
  omega

theorem exists_fits (a b : PostOrder α) (left k top l : Nat) :
    ∃ pairs, Fits a b left k top l pairs ∧
      forestDistance a b left k top l + 2 * pairs.card =
        (k - left) + (l - top) + relabels a b pairs := by
  obtain ⟨mapping, attained⟩ :=
    Layout.exists_cost_eq_distance (a.window left k) (b.window top l)
  refine ⟨mapping.pairs, ⟨?_, ?_, ?_⟩, ?_⟩
  · exact fun x member => Finset.mem_Ico.mp (mapping.inside x member).1
  · exact fun x member => Finset.mem_Ico.mp (mapping.inside x member).2
  · intro x memberX y memberY
    have agree := mapping.agree x memberX y memberY
    exact ⟨agree.same, agree.above, agree.leftOf⟩
  · have cost := mapping.cost_add
    rw [attained, card_window, card_window] at cost
    exact cost

omit [DecidableEq α] in
theorem Fits.mono {k' l' : Nat} {fewer : Finset (Nat × Nat)} {left' top' : Nat}
    (fits : Fits a b left k top l pairs) (sub : fewer ⊆ pairs)
    (rows : ∀ x ∈ fewer, left' ≤ x.1 ∧ x.1 < k') (columns : ∀ x ∈ fewer, top' ≤ x.2 ∧ x.2 < l') :
    Fits a b left' k' top' l' fewer where
  rows := rows
  columns := columns
  agree x memberX y memberY := fits.agree x (sub memberX) y (sub memberY)

omit [DecidableEq α] in
/-- Where the last nodes of two windows both have partners, they are partners of each other, and
every other pair lies below both of them or before both of their trees. -/
theorem Fits.last_pair (fits : Fits a b left (k + 1) top (l + 1) pairs) {k' l' : Nat}
    (rowPaired : (k, l') ∈ pairs) (columnPaired : (k', l) ∈ pairs) (lowB : ∀ j, b.leaf j ≤ j) :
    (k, l) ∈ pairs ∧ ∀ x ∈ pairs.erase (k, l),
      x.1 < k ∧ x.2 < l ∧ (x.1 < a.leaf k ↔ x.2 < b.leaf l) := by
  have partner : (k, l) ∈ pairs := by
    have agree := agree_layout.mp (fits.agree _ rowPaired _ columnPaired)
    have agree' := agree_layout.mp (fits.agree _ columnPaired _ rowPaired)
    have row := fits.rows _ columnPaired
    have column := fits.columns _ rowPaired
    have lowL := lowB l'
    simp only at agree agree' row column
    -- otherwise the partner of one would lie above or to the right of that of the other
    have equal : l' = l := by omega
    exact equal ▸ rowPaired
  refine ⟨partner, ?_⟩
  intro x member
  obtain ⟨differ, member⟩ := Finset.mem_erase.mp member
  have agree := agree_layout.mp (fits.agree _ partner _ member)
  have row := fits.rows _ member
  have column := fits.columns _ member
  have apart : ¬ (x.1 = k ∧ x.2 = l) := fun equal => differ (Prod.ext equal.1 equal.2)
  simp only at agree
  omega

theorem forestDistance_comm (a b : PostOrder α) (left k top l : Nat) :
    forestDistance a b left k top l = forestDistance b a top l left k :=
  Layout.distance_comm _ _

@[simp] theorem forestDistance_no_rows (a b : PostOrder α) (left top l : Nat) :
    forestDistance a b left left top l = l - top := by
  unfold forestDistance
  rw [Layout.distance_of_left_empty (by simp [window]), card_window]

@[simp] theorem forestDistance_no_columns (a b : PostOrder α) (left k top : Nat) :
    forestDistance a b left k top top = k - left := by
  rw [forestDistance_comm, forestDistance_no_rows]

theorem forestDistance_succ_row_le (least : left ≤ k) :
    forestDistance a b left (k + 1) top l ≤ forestDistance a b left k top l + 1 := by
  obtain ⟨pairs, fits, cost⟩ := exists_fits a b left k top l
  have wider : Fits a b left (k + 1) top l pairs :=
    fits.mono subset_rfl (fun x member => ⟨(fits.rows x member).1, by grind [fits.rows x member]⟩)
      fits.columns
  have bound := wider.forestDistance_le
  omega

theorem forestDistance_succ_column_le (least : top ≤ l) :
    forestDistance a b left k top (l + 1) ≤ forestDistance a b left k top l + 1 := by
  rw [forestDistance_comm a b left k top (l + 1), forestDistance_comm a b left k top l]
  exact forestDistance_succ_row_le least

theorem Fits.union_le {midA midB : Nat} {early late : Finset (Nat × Nat)} (beforeA : left ≤ midA)
    (afterA : midA ≤ k) (beforeB : top ≤ midB) (afterB : midB ≤ l)
    (fitsEarly : Fits a b left midA top midB early) (fitsLate : Fits a b midA k midB l late)
    (apart : ∀ x ∈ early, ∀ y ∈ late, a.layout.Agree b.layout x y ∧ a.layout.Agree b.layout y x) :
    forestDistance a b left k top l + 2 * (early.card + late.card) ≤
      (k - left) + (l - top) + (relabels a b early + relabels a b late) := by
  have fits : Fits a b left k top l (early ∪ late) := by
    refine ⟨?_, ?_, ?_⟩
    · intro x member
      rcases Finset.mem_union.mp member with member | member
      · have := fitsEarly.rows x member
        omega
      · have := fitsLate.rows x member
        omega
    · intro x member
      rcases Finset.mem_union.mp member with member | member
      · have := fitsEarly.columns x member
        omega
      · have := fitsLate.columns x member
        omega
    · intro x memberX y memberY
      rcases Finset.mem_union.mp memberX with inX | inX <;>
        rcases Finset.mem_union.mp memberY with inY | inY
      · exact fitsEarly.agree x inX y inY
      · exact (apart x inX y inY).1
      · exact (apart y inY x inX).2
      · exact fitsLate.agree x inX y inY
  have disjoint : Disjoint early late := by
    rw [Finset.disjoint_left]
    intro x inEarly inLate
    have := fitsEarly.rows x inEarly
    have := fitsLate.rows x inLate
    omega
  have cards : (early ∪ late).card = early.card + late.card := Finset.card_union_of_disjoint disjoint
  have labels : relabels a b (early ∪ late) = relabels a b early + relabels a b late := by
    unfold relabels
    rw [Finset.filter_union,
      Finset.card_union_of_disjoint (Finset.disjoint_filter_filter disjoint)]
  have bound := fits.forestDistance_le
  omega

variable (lowA : ∀ i, a.leaf i ≤ i) (lowB : ∀ j, b.leaf j ≤ j)
include lowA lowB

theorem forestDistance_append_le {midA midB : Nat} (beforeA : left ≤ midA) (afterA : midA ≤ k)
    (beforeB : top ≤ midB) (afterB : midB ≤ l) (closedA : a.Closed midA k)
    (closedB : b.Closed midB l) :
    forestDistance a b left k top l ≤
      forestDistance a b left midA top midB + forestDistance a b midA k midB l := by
  obtain ⟨early, fitsEarly, costEarly⟩ := exists_fits a b left midA top midB
  obtain ⟨late, fitsLate, costLate⟩ := exists_fits a b midA k midB l
  -- the late window is closed, so each of its nodes is to the right of the early ones
  have apart : ∀ x ∈ early, ∀ y ∈ late,
      a.layout.Agree b.layout x y ∧ a.layout.Agree b.layout y x := by
    intro x memberX y memberY
    have rowX := fitsEarly.rows x memberX
    have columnX := fitsEarly.columns x memberX
    have rowY := fitsLate.rows y memberY
    have columnY := fitsLate.columns y memberY
    have leafA := closedA y.1 rowY.1 rowY.2
    have leafB := closedB y.2 columnY.1 columnY.2
    have lowX := lowA x.1
    have lowX' := lowB x.2
    simp only [agree_layout]
    omega
  have bound := Fits.union_le beforeA afterA beforeB afterB fitsEarly fitsLate apart
  omega

omit [DecidableEq α] in
theorem fits_last (k l : Nat) : Fits a b k (k + 1) l (l + 1) {(k, l)} where
  rows := by simp
  columns := by simp
  agree := by
    intro x memberX y memberY
    rw [Finset.mem_singleton.mp memberX, Finset.mem_singleton.mp memberY, agree_layout]
    have lowK := lowA k
    have lowL := lowB l
    exact ⟨by simp, by simp, by simp only; omega⟩

theorem treeDistance_le (k l : Nat) :
    treeDistance a b k l ≤
      forestDistance a b (a.leaf k) k (b.leaf l) l + pairCost a b k l := by
  obtain ⟨pairs, fits, cost⟩ := exists_fits a b (a.leaf k) k (b.leaf l) l
  -- all nodes of these windows are below the roots
  have root : ∀ x ∈ pairs, ∀ y ∈ ({(k, l)} : Finset (Nat × Nat)),
      a.layout.Agree b.layout x y ∧ a.layout.Agree b.layout y x := by
    intro x member y memberY
    have row := fits.rows x member
    have column := fits.columns x member
    have lowX := lowA x.1
    have lowX' := lowB x.2
    rw [Finset.mem_singleton.mp memberY, agree_layout, agree_layout]
    simp only
    omega
  have labels := relabels_insert (a := a) (b := b) (Finset.notMem_empty (k, l))
  have bound := Fits.union_le (lowA k) k.le_succ (lowB l) l.le_succ fits (fits_last lowA lowB k l) root
  rw [LawfulSingleton.insert_empty_eq] at labels
  rw [labels, Finset.card_singleton] at bound
  have lowK := lowA k
  have lowL := lowB l
  have none : relabels a b ∅ = 0 := rfl
  unfold treeDistance
  simp only [Nat.succ_eq_add_one] at bound
  omega

theorem Fits.split_last (fits : Fits a b left (k + 1) top (l + 1) pairs)
    (partner : (k, l) ∈ pairs) (leastRow : left ≤ a.leaf k) (leastColumn : top ≤ b.leaf l)
    (others : ∀ x ∈ pairs.erase (k, l),
      x.1 < k ∧ x.2 < l ∧ (x.1 < a.leaf k ↔ x.2 < b.leaf l)) :
    forestDistance a b left (a.leaf k) top (b.leaf l) +
        forestDistance a b (a.leaf k) k (b.leaf l) l + pairCost a b k l + 2 * pairs.card ≤
      (k + 1 - left) + (l + 1 - top) + relabels a b pairs := by
  -- the other pairs lie before both trees or below both roots
  let rest := pairs.erase (k, l)
  let early := rest.filter fun x => x.1 < a.leaf k
  let late := rest.filter fun x => ¬ x.1 < a.leaf k
  have subEarly : early ⊆ pairs := (Finset.filter_subset _ _).trans (Finset.erase_subset _ _)
  have subLate : late ⊆ pairs := (Finset.filter_subset _ _).trans (Finset.erase_subset _ _)
  have fitsEarly : Fits a b left (a.leaf k) top (b.leaf l) early := by
    refine fits.mono subEarly ?_ ?_
    · intro x member
      exact ⟨(fits.rows x (subEarly member)).1, (Finset.mem_filter.mp member).2⟩
    · intro x member
      obtain ⟨inside, before⟩ := Finset.mem_filter.mp member
      exact ⟨(fits.columns x (subEarly member)).1, (others x inside).2.2.mp before⟩
  have fitsLate : Fits a b (a.leaf k) k (b.leaf l) l late := by
    refine fits.mono subLate ?_ ?_
    · intro x member
      obtain ⟨inside, after⟩ := Finset.mem_filter.mp member
      exact ⟨not_lt.mp after, (others x inside).1⟩
    · intro x member
      obtain ⟨inside, after⟩ := Finset.mem_filter.mp member
      exact ⟨not_lt.mp (mt (others x inside).2.2.mpr after), (others x inside).2.1⟩
  have cards : early.card + late.card + 1 = pairs.card := by
    rw [Finset.card_filter_add_card_filter_not, Finset.card_erase_add_one partner]
  have labels : relabels a b early + relabels a b late + pairCost a b k l = relabels a b pairs := by
    rw [relabels_filter, ← relabels_insert (Finset.notMem_erase _ _), Finset.insert_erase partner]
  have boundEarly := fitsEarly.forestDistance_le
  have boundLate := fitsLate.forestDistance_le
  have lowK := lowA k
  have lowL := lowB l
  omega

theorem forestDistance_succ (leastRow : left ≤ a.leaf k) (leastColumn : top ≤ b.leaf l) :
    forestDistance a b left k top (l + 1) + 1 ≤ forestDistance a b left (k + 1) top (l + 1) ∨
      forestDistance a b left (k + 1) top l + 1 ≤ forestDistance a b left (k + 1) top (l + 1) ∨
      forestDistance a b left (a.leaf k) top (b.leaf l) +
          forestDistance a b (a.leaf k) k (b.leaf l) l + pairCost a b k l ≤
        forestDistance a b left (k + 1) top (l + 1) := by
  obtain ⟨pairs, fits, cost⟩ := exists_fits a b left (k + 1) top (l + 1)
  have lowK := lowA k
  have lowL := lowB l
  by_cases rowPaired : ∃ l', (k, l') ∈ pairs
  · by_cases columnPaired : ∃ k', (k', l) ∈ pairs
    · obtain ⟨l', memberRow⟩ := rowPaired
      obtain ⟨k', memberColumn⟩ := columnPaired
      obtain ⟨partner, others⟩ := fits.last_pair memberRow memberColumn lowB
      have bound := fits.split_last lowA lowB partner leastRow leastColumn others
      right
      right
      omega
    · have narrower : Fits a b left (k + 1) top l pairs := by
        refine fits.mono subset_rfl fits.rows ?_
        intro x member
        have column := fits.columns x member
        have differ : x.2 ≠ l := fun equal => columnPaired ⟨x.1, equal ▸ member⟩
        omega
      have bound := narrower.forestDistance_le
      right
      left
      omega
  · have narrower : Fits a b left k top (l + 1) pairs := by
      refine fits.mono subset_rfl ?_ fits.columns
      intro x member
      have row := fits.rows x member
      have differ : x.1 ≠ k := fun equal => rowPaired ⟨x.2, equal ▸ member⟩
      omega
    have bound := narrower.forestDistance_le
    left
    omega

theorem forestDistance_succ_of_trees (k l : Nat) :
    forestDistance a b (a.leaf k) (k + 1) (b.leaf l) (l + 1) =
      min (min (forestDistance a b (a.leaf k) k (b.leaf l) l + pairCost a b k l)
        (forestDistance a b (a.leaf k) k (b.leaf l) (l + 1) + 1))
        (forestDistance a b (a.leaf k) (k + 1) (b.leaf l) l + 1) := by
  have rowAlone : forestDistance a b (a.leaf k) (k + 1) (b.leaf l) (l + 1) ≤
      forestDistance a b (a.leaf k) k (b.leaf l) (l + 1) + 1 :=
    forestDistance_succ_row_le (lowA k)
  have columnAlone : forestDistance a b (a.leaf k) (k + 1) (b.leaf l) (l + 1) ≤
      forestDistance a b (a.leaf k) (k + 1) (b.leaf l) l + 1 :=
    forestDistance_succ_column_le (lowB l)
  have paired := treeDistance_le lowA lowB k l
  have least := forestDistance_succ lowA lowB (a.leaf k).le_refl (b.leaf l).le_refl
  rw [forestDistance_no_rows, Nat.sub_self, Nat.zero_add] at least
  unfold treeDistance at paired
  omega

/-- The recurrence for all windows, in which the trees of the last nodes are compared as a whole. -/
theorem forestDistance_succ_of_forests (leastRow : left ≤ a.leaf k) (leastColumn : top ≤ b.leaf l)
    (closedA : a.Closed (a.leaf k) (k + 1))
    (closedB : b.Closed (b.leaf l) (l + 1)) :
    forestDistance a b left (k + 1) top (l + 1) =
      min (min (forestDistance a b left (a.leaf k) top (b.leaf l) + treeDistance a b k l)
        (forestDistance a b left k top (l + 1) + 1))
        (forestDistance a b left (k + 1) top l + 1) := by
  have lowK := lowA k
  have lowL := lowB l
  have rowAlone : forestDistance a b left (k + 1) top (l + 1) ≤
      forestDistance a b left k top (l + 1) + 1 :=
    forestDistance_succ_row_le (leastRow.trans lowK)
  have columnAlone : forestDistance a b left (k + 1) top (l + 1) ≤
      forestDistance a b left (k + 1) top l + 1 :=
    forestDistance_succ_column_le (leastColumn.trans lowL)
  have apart : forestDistance a b left (k + 1) top (l + 1) ≤
      forestDistance a b left (a.leaf k) top (b.leaf l) +
        forestDistance a b (a.leaf k) (k + 1) (b.leaf l) (l + 1) :=
    forestDistance_append_le lowA lowB leastRow (Nat.le_succ_of_le lowK) leastColumn
      (Nat.le_succ_of_le lowL) closedA closedB
  have paired := treeDistance_le lowA lowB k l
  have least := forestDistance_succ lowA lowB leastRow leastColumn
  unfold treeDistance at paired ⊢
  omega

end SourceSimilarity.Tree.PostOrder
