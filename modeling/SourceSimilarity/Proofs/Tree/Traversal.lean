import SourceSimilarity.Proofs.EditDistance.Matching
import SourceSimilarity.Proofs.Tree.Metric

/-!
A tree is written down as the sequence of its labels in pre-order or in post-order. Both orders are
told by how the nodes are placed, so an edit mapping matches the nodes of either sequence in order,
and what it leaves to be done is an edit of the sequences. Where no node has two children the nodes
lie above one another, and a matching in order is an edit mapping.
-/

namespace SourceSimilarity.Tree

variable {α β : Type}

namespace Layout

/-- A node opens before the nodes below it and before those to the right of it. -/
def OpensBefore (a : Layout α) (u v : Nat) : Prop := a.Above u v ∨ a.LeftOf u v

/-- A node closes after the nodes below it and before those to the right of it. -/
def ClosesBefore (a : Layout α) (u v : Nat) : Prop := a.Above v u ∨ a.LeftOf u v

structure Listed (a : Layout α) (before : Nat → Nat → Prop) (list : List Nat) : Prop where
  sorted : list.Pairwise before
  mem_iff : ∀ node, node ∈ list ↔ node ∈ a.nodes
  asymm : ∀ u ∈ list, ∀ v ∈ list, before u v → ¬ before v u

variable {a b : Layout α} {before before' : Nat → Nat → Prop} {list list' : List Nat}

theorem Listed.nodup (listed : a.Listed before list) : list.Nodup := by
  refine listed.sorted.imp_of_mem ?_
  rintro node _ member - less rfl
  exact listed.asymm node member node member less less

theorem Listed.card_nodes (listed : a.Listed before list) : a.nodes.card = list.length := by
  have nodes : list.toFinset = a.nodes := by
    ext node
    rw [List.mem_toFinset, listed.mem_iff]
  rw [← nodes, List.toFinset_card_of_nodup listed.nodup]

theorem EditMapping.matching (mapping : EditMapping a b) (listed : a.Listed before list)
    (listed' : b.Listed before' list')
    (monotone : ∀ x ∈ mapping.pairs, ∀ y ∈ mapping.pairs, before x.1 y.1 → before' x.2 y.2) :
    EditDistance.Matching before before' list list' mapping.pairs where
  inside x member := by
    rw [listed.mem_iff, listed'.mem_iff]
    exact mapping.inside x member
  same x memberX y memberY := (mapping.agree x memberX y memberY).same
  monotone := monotone

variable [DecidableEq α]

theorem EditMapping.edits (mapping : EditMapping a b) (listed : a.Listed before list)
    (listed' : b.Listed before' list')
    (monotone : ∀ x ∈ mapping.pairs, ∀ y ∈ mapping.pairs, before x.1 y.1 → before' x.2 y.2) :
    EditDistance.Edits (list.map a.label) (list'.map b.label) mapping.cost := by
  obtain ⟨n, count, edits⟩ := (mapping.matching listed listed' monotone).exists_edits
    a.label b.label listed.sorted listed'.sorted listed'.asymm
  have cost := mapping.cost_add
  have relabeled : EditDistance.Matching.relabeled a.label b.label mapping.pairs =
      mapping.relabeled := rfl
  rw [listed.card_nodes, listed'.card_nodes] at cost
  obtain rfl : n = mapping.cost := by omega
  exact edits

theorem distance_le_of_listed (listed : a.Listed before list) (listed' : b.Listed before' list')
    (monotone : ∀ mapping : EditMapping a b, ∀ x ∈ mapping.pairs, ∀ y ∈ mapping.pairs,
      before x.1 y.1 → before' x.2 y.2) :
    EditDistance.distance (list.map a.label) (list'.map b.label) ≤ a.distance b := by
  apply le_distance
  intro mapping
  exact (EditDistance.distance_isLeast _ _).2 (mapping.edits listed listed' (monotone mapping))

theorem distance_le_of_opensBefore (listed : a.Listed a.OpensBefore list)
    (listed' : b.Listed b.OpensBefore list') :
    EditDistance.distance (list.map a.label) (list'.map b.label) ≤ a.distance b := by
  apply distance_le_of_listed listed listed'
  intro mapping x memberX y memberY
  have agree := mapping.agree x memberX y memberY
  exact Or.imp agree.above.mp agree.leftOf.mp

theorem distance_le_of_closesBefore (listed : a.Listed a.ClosesBefore list)
    (listed' : b.Listed b.ClosesBefore list') :
    EditDistance.distance (list.map a.label) (list'.map b.label) ≤ a.distance b := by
  apply distance_le_of_listed listed listed'
  intro mapping x memberX y memberY
  exact Or.imp (mapping.agree y memberY x memberX).above.mp
    (mapping.agree x memberX y memberY).leftOf.mp

/-- Edits of the sequences match nodes in order. Where the order of the nodes tells how they are
placed, this is an edit mapping. -/
theorem distance_le_of_edits {n : Nat} (listed : a.Listed before list)
    (listed' : b.Listed before' list')
    (placed : ∀ x y : Nat × Nat, x.1 ∈ list → y.1 ∈ list → x.2 ∈ list' → y.2 ∈ list' →
      x = y ∨ (before x.1 y.1 ∧ before' x.2 y.2) ∨ (before y.1 x.1 ∧ before' y.2 x.2) →
        a.Agree b x y)
    (edits : EditDistance.Edits (list.map a.label) (list'.map b.label) n) : a.distance b ≤ n := by
  obtain ⟨pairs, sub, sub', bound⟩ := edits.exists_matched
  have inside : ∀ x ∈ pairs, x.1 ∈ list ∧ x.2 ∈ list' := fun x member =>
    ⟨sub.subset (List.mem_map_of_mem member), sub'.subset (List.mem_map_of_mem member)⟩
  have ordered : pairs.Pairwise fun x y => before x.1 y.1 ∧ before' x.2 y.2 :=
    (List.pairwise_map.mp (listed.sorted.sublist sub)).and
      (List.pairwise_map.mp (listed'.sorted.sublist sub'))
  have nodup : pairs.Nodup := (listed.nodup.sublist sub).of_map
  let mapping : EditMapping a b := {
    pairs := pairs.toFinset
    inside := by
      intro x member
      rw [← listed.mem_iff, ← listed'.mem_iff]
      exact inside x (List.mem_toFinset.mp member)
    agree := by
      intro x memberX y memberY
      rw [List.mem_toFinset] at memberX memberY
      exact placed x y (inside x memberX).1 (inside y memberY).1 (inside x memberX).2
        (inside y memberY).2 (EditDistance.related_of_pairwise ordered memberX memberY) }
  have cost := mapping.cost_add
  have cards : mapping.pairs.card = pairs.length := List.toFinset_card_of_nodup nodup
  have relabeled :
      mapping.relabeled ≤ (pairs.filter fun x => a.label x.1 ≠ b.label x.2).length := by
    have filtered := List.toFinset_filter pairs fun x => decide (a.label x.1 ≠ b.label x.2)
    simp only [decide_eq_true_eq] at filtered
    unfold EditMapping.relabeled
    rw [← filtered]
    exact List.toFinset_card_le _
  rw [listed.card_nodes, listed'.card_nodes] at cost
  have least := distance_le mapping
  omega

end Layout

mutual

theorem preOrder_perm_postOrder : (tree : Tree α) → tree.preOrder.Perm tree.postOrder
  | .node label children => by
    rw [preOrder, postOrder]
    exact ((preOrderAll_perm_postOrderAll children).cons label).trans
      (List.perm_append_singleton label _).symm

theorem preOrderAll_perm_postOrderAll : (trees : List (Tree α)) →
    (preOrderAll trees).Perm (postOrderAll trees)
  | [] => .nil
  | tree :: trees => by
    rw [preOrderAll, postOrderAll]
    exact (preOrder_perm_postOrder tree).append (preOrderAll_perm_postOrderAll trees)

end

mutual

theorem preOrder_map (f : α → β) : (tree : Tree α) → (tree.map f).preOrder = tree.preOrder.map f
  | .node label children => by
    rw [map, preOrder, preOrder, preOrderAll_mapAll, List.map_cons]

theorem preOrderAll_mapAll (f : α → β) : (trees : List (Tree α)) →
    preOrderAll (mapAll f trees) = (preOrderAll trees).map f
  | [] => rfl
  | tree :: trees => by
    rw [mapAll, preOrderAll, preOrderAll, preOrder_map, preOrderAll_mapAll, List.map_append]

end

theorem preOrderAll_eq (trees : List (Tree α)) : preOrderAll trees = trees.flatMap preOrder := by
  induction trees with
  | nil => rfl
  | cons tree trees ih => rw [preOrderAll, ih, List.flatMap_cons]

namespace Table

variable {table : Table α}

def preOrder (table : Table α) (node : Nat) : List Nat := (table.numbered node).preOrder

def Unbranched (table : Table α) : Prop :=
  ∀ node < table.size, (table.childrenOf node).length ≤ 1

theorem Unbranched.length_childrenOf_le (unbranched : table.Unbranched) (node : Nat) :
    (table.childrenOf node).length ≤ 1 := by
  by_cases inside : node < table.size
  · exact unbranched node inside
  · rw [childrenOf_of_size_le (Nat.le_of_not_lt inside)]
    exact Nat.zero_le 1

theorem Unbranched.not_leftOf (unbranched : table.Unbranched) (left right : Nat) :
    ¬ table.LeftOf left right := by
  rintro ⟨parent, child, later, siblings, -, -⟩
  have two := siblings.length_le.trans (unbranched.length_childrenOf_le parent)
  rw [List.length_cons, List.length_singleton] at two
  omega

namespace Grown

theorem preOrder_eq (grown : table.Grown) (node : Nat) :
    table.preOrder node = node :: (table.childrenOf node).flatMap table.preOrder := by
  unfold preOrder
  rw [grown.numbered_eq, Tree.preOrder, preOrderAll_eq, List.flatMap_map]

theorem mem_preOrder (grown : table.Grown) (node lower : Nat) :
    lower ∈ table.preOrder node ↔ table.AtOrAbove node lower :=
  (preOrder_perm_postOrder (table.numbered node)).mem_iff.trans (grown.mem_order node lower)

theorem pairwise_preOrder (grown : table.Grown) (node : Nat) :
    (table.preOrder node).Pairwise table.layout.OpensBefore := by
  induction node using grown.induction_on_children with
  | step node ih =>
      rw [grown.preOrder_eq, List.pairwise_cons, List.pairwise_flatMap]
      refine ⟨?_, ih, ?_⟩
      · intro lower member
        obtain ⟨child, isChild, below⟩ := List.mem_flatMap.mp member
        exact .inl (grown.above_iff.mpr ⟨child, isChild, (grown.mem_preOrder child lower).mp below⟩)
      · refine (grown.childrenOf_sorted node).imp_of_mem ?_
        intro child later member memberLater less left below right belowLater
        exact .inr (grown.leftOf_of_lt member memberLater less
          ((grown.mem_preOrder child left).mp below)
          ((grown.mem_preOrder later right).mp belowLater))

theorem pairwise_order (grown : table.Grown) (node : Nat) :
    (table.order node).Pairwise table.layout.ClosesBefore := by
  induction node using grown.induction_on_children with
  | step node ih =>
      rw [grown.order_eq, List.pairwise_append, List.pairwise_flatMap]
      refine ⟨⟨ih, ?_⟩, List.pairwise_singleton _ node, ?_⟩
      · refine (grown.childrenOf_sorted node).imp_of_mem ?_
        intro child later member memberLater less left below right belowLater
        exact .inr (grown.leftOf_of_lt member memberLater less
          ((grown.mem_order child left).mp below) ((grown.mem_order later right).mp belowLater))
      · intro lower member other isNode
        obtain rfl := List.mem_singleton.mp isNode
        obtain ⟨child, isChild, below⟩ := List.mem_flatMap.mp member
        exact .inl (grown.above_iff.mpr ⟨child, isChild, (grown.mem_order child lower).mp below⟩)

theorem not_above_of_leftOf (grown : table.Grown) {left right : Nat} (inside : left < table.size)
    (insideRight : right < table.size) (leftOf : table.LeftOf left right) :
    ¬ table.Above left right ∧ ¬ table.Above right left := by
  obtain ⟨tree, -, assembled⟩ := grown.toTree?_eq
  have low := (PostOrder.sound_ofTree tree).leaf_le (table.place right)
  rw [grown.above_iff_places assembled inside insideRight,
    grown.above_iff_places assembled insideRight inside]
  rw [grown.leftOf_iff_places assembled inside insideRight] at leftOf
  omega

theorem not_above_above (grown : table.Grown) {upper lower : Nat}
    (above : table.Above upper lower) : ¬ table.Above lower upper := fun back =>
  (grown.lt_of_above above).asymm (grown.lt_of_above back)

theorem listed_preOrder (grown : table.Grown) :
    table.layout.Listed table.layout.OpensBefore (table.preOrder 0) where
  sorted := grown.pairwise_preOrder 0
  mem_iff node := by
    rw [grown.mem_preOrder, ← grown.mem_order, grown.mem_order_root]
    exact Finset.mem_range.symm
  asymm u memberU v memberV := by
    rw [grown.mem_preOrder, ← grown.mem_order, grown.mem_order_root] at memberU memberV
    rintro (above | leftOf) (above' | leftOf')
    · exact grown.not_above_above above above'
    · exact (grown.not_above_of_leftOf memberV memberU leftOf').2 above
    · exact (grown.not_above_of_leftOf memberU memberV leftOf).2 above'
    · exact grown.leftOf_asymm memberU memberV leftOf leftOf'

theorem listed_order (grown : table.Grown) :
    table.layout.Listed table.layout.ClosesBefore (table.order 0) where
  sorted := grown.pairwise_order 0
  mem_iff node := (grown.mem_order_root node).trans Finset.mem_range.symm
  asymm u memberU v memberV := by
    rw [grown.mem_order_root] at memberU memberV
    rintro (above | leftOf) (above' | leftOf')
    · exact grown.not_above_above above above'
    · exact (grown.not_above_of_leftOf memberV memberU leftOf').1 above
    · exact (grown.not_above_of_leftOf memberU memberV leftOf).1 above'
    · exact grown.leftOf_asymm memberU memberV leftOf leftOf'

theorem reverse_order (grown : table.Grown) (unbranched : table.Unbranched) (node : Nat) :
    (table.order node).reverse = table.preOrder node := by
  induction node using grown.induction_on_children with
  | step node ih =>
      rw [grown.order_eq, grown.preOrder_eq, List.reverse_append, List.reverse_singleton,
        List.singleton_append]
      have one := unbranched.length_childrenOf_le node
      match children : table.childrenOf node with
      | [] => rfl
      | [only] => simp [ih only (by simp [children])]
      | first :: second :: rest => simp [children] at one

theorem agree_of_unbranched {other : Table α} (grown : table.Grown) (grownOther : other.Grown)
    (unbranched : table.Unbranched) (unbranchedOther : other.Unbranched) {x y : Nat × Nat}
    (related : x = y ∨ (table.layout.OpensBefore x.1 y.1 ∧ other.layout.OpensBefore x.2 y.2) ∨
      (table.layout.OpensBefore y.1 x.1 ∧ other.layout.OpensBefore y.2 x.2)) :
    table.layout.Agree other.layout x y := by
  have noLeft : table.layout.LeftOf x.1 y.1 ↔ other.layout.LeftOf x.2 y.2 :=
    iff_of_false (unbranched.not_leftOf _ _) (unbranchedOther.not_leftOf _ _)
  rcases related with rfl | ⟨opens, opens'⟩ | ⟨opens, opens'⟩
  · refine ⟨iff_of_true rfl rfl, iff_of_false ?_ ?_, noLeft⟩
    · exact fun above => grown.not_above_above above above
    · exact fun above => grownOther.not_above_above above above
  · have above := opens.resolve_right (unbranched.not_leftOf _ _)
    have above' := opens'.resolve_right (unbranchedOther.not_leftOf _ _)
    exact ⟨iff_of_false (grown.lt_of_above above).ne (grownOther.lt_of_above above').ne,
      iff_of_true above above', noLeft⟩
  · have above := opens.resolve_right (unbranched.not_leftOf _ _)
    have above' := opens'.resolve_right (unbranchedOther.not_leftOf _ _)
    exact ⟨iff_of_false (grown.lt_of_above above).ne' (grownOther.lt_of_above above').ne',
      iff_of_false (grown.not_above_above above) (grownOther.not_above_above above'), noLeft⟩

theorem labels_preOrder {tree : Tree α}
    (assembled : tree.map some = (table.numbered 0).map table.labelOf?) :
    tree.preOrder.map some = (table.preOrder 0).map table.labelOf? := by
  rw [← preOrder_map, assembled, preOrder_map, preOrder]

theorem labels_order {tree : Tree α}
    (assembled : tree.map some = (table.numbered 0).map table.labelOf?) :
    tree.postOrder.map some = (table.order 0).map table.labelOf? := by
  rw [← postOrder_map, assembled, postOrder_map, order]

theorem postOrder_eq_reverse (grown : table.Grown) (unbranched : table.Unbranched)
    {tree : Tree α} (assembled : tree.map some = (table.numbered 0).map table.labelOf?) :
    tree.postOrder = tree.preOrder.reverse := by
  apply List.map_injective_iff.mpr (Option.some_injective α)
  rw [List.map_reverse, labels_preOrder assembled, labels_order assembled,
    ← grown.reverse_order unbranched, List.map_reverse, List.reverse_reverse]

theorem length_preOrder (grown : table.Grown) {tree : Tree α}
    (assembled : tree.map some = (table.numbered 0).map table.labelOf?) :
    tree.preOrder.length = table.size := by
  rw [(preOrder_perm_postOrder tree).length_eq, length_postOrder, grown.size_eq assembled]

theorem exists_tree_and_view (grown : table.Grown) :
    ∃ tree, table.toTree? = some tree ∧ PostOrder.ofTable? table = some (PostOrder.ofTree tree) ∧
      tree.map some = (table.numbered 0).map table.labelOf? := by
  obtain ⟨tree, found, assembled⟩ := grown.toTree?_eq
  obtain ⟨other, view, assembledOther⟩ := grown.exists_view
  obtain rfl := map_injective (Option.some_injective α) other tree
    (assembledOther.trans assembled.symm)
  exact ⟨other, found, view, assembled⟩

section

variable [DecidableEq α] {a b : Table α} {treeA treeB : Tree α} (grownA : a.Grown)
  (grownB : b.Grown)
  (assembledA : treeA.map some = (a.numbered 0).map a.labelOf?)
  (assembledB : treeB.map some = (b.numbered 0).map b.labelOf?)
include grownA grownB assembledA assembledB

theorem distance_preOrder_le :
    EditDistance.distance treeA.preOrder treeB.preOrder ≤ a.layout.distance b.layout := by
  rw [← EditDistance.distance_map (Option.some_injective α), labels_preOrder assembledA,
    labels_preOrder assembledB]
  exact Layout.distance_le_of_opensBefore grownA.listed_preOrder grownB.listed_preOrder

theorem distance_postOrder_le :
    EditDistance.distance treeA.postOrder treeB.postOrder ≤ a.layout.distance b.layout := by
  rw [← EditDistance.distance_map (Option.some_injective α), labels_order assembledA,
    labels_order assembledB]
  exact Layout.distance_le_of_closesBefore grownA.listed_order grownB.listed_order

variable (unbranchedA : a.Unbranched) (unbranchedB : b.Unbranched)
include unbranchedA unbranchedB

theorem distance_eq_preOrder :
    a.layout.distance b.layout = EditDistance.distance treeA.preOrder treeB.preOrder := by
  apply le_antisymm
  · apply Layout.distance_le_of_edits grownA.listed_preOrder grownB.listed_preOrder
    · intro x y _ _ _ _ related
      exact grownA.agree_of_unbranched grownB unbranchedA unbranchedB related
    · have edits := (EditDistance.distance_isLeast (treeA.preOrder.map some)
        (treeB.preOrder.map some)).1
      rw [EditDistance.distance_map (Option.some_injective α)] at edits
      rw [labels_preOrder assembledA, labels_preOrder assembledB] at edits
      exact edits
  · exact distance_preOrder_le grownA grownB assembledA assembledB

theorem distance_eq_postOrder :
    a.layout.distance b.layout = EditDistance.distance treeA.postOrder treeB.postOrder := by
  rw [distance_eq_preOrder grownA grownB assembledA assembledB unbranchedA unbranchedB,
    grownA.postOrder_eq_reverse unbranchedA assembledA,
    grownB.postOrder_eq_reverse unbranchedB assembledB, EditDistance.distance_reverse]

end

/-- The distance of two trees is no less than the distance of their sequences of labels, in
pre-order or in post-order, and than the difference of their sizes. It is less than both sizes
together. Where no node has two children it is the distance of the sequences. -/
theorem editDistance_bracketed {a b : Table String} (grownA : a.Grown) (grownB : b.Grown) :
    ∃ treeA treeB viewA viewB, a.toTree? = some treeA ∧ b.toTree? = some treeB ∧
      PostOrder.ofTable? a = some viewA ∧ PostOrder.ofTable? b = some viewB ∧
      viewA.labels.toList = treeA.postOrder ∧ viewB.labels.toList = treeB.postOrder ∧
      EditDistance.distance treeA.preOrder treeB.preOrder ≤ editDistance viewA viewB ∧
      EditDistance.distance viewA.labels.toList viewB.labels.toList ≤ editDistance viewA viewB ∧
      editDistance viewA viewB ≤ a.size + b.size - 1 ∧
      ((a.size : Int) - b.size).natAbs ≤ editDistance viewA viewB ∧
      (a.Unbranched → b.Unbranched →
        editDistance viewA viewB = EditDistance.distance treeA.preOrder treeB.preOrder ∧
        editDistance viewA viewB =
          EditDistance.distance viewA.labels.toList viewB.labels.toList) ∧
      (a.size < saturated → b.size < saturated →
        EditDistance.limited treeA.preOrder treeB.preOrder =
          (EditDistance.distance treeA.preOrder treeB.preOrder, none) ∧
        EditDistance.limited viewA.labels.toList viewB.labels.toList =
          (EditDistance.distance viewA.labels.toList viewB.labels.toList, none)) := by
  obtain ⟨treeA, foundA, viewA, assembledA⟩ := grownA.exists_tree_and_view
  obtain ⟨treeB, foundB, viewB, assembledB⟩ := grownB.exists_tree_and_view
  have lengthA := grownA.length_preOrder assembledA
  have lengthB := grownB.length_preOrder assembledB
  have fromA := EditDistance.length_le_distance treeA.preOrder treeB.preOrder
  have fromB := EditDistance.length_le_distance treeB.preOrder treeA.preOrder
  have lower := distance_preOrder_le grownA grownB assembledA assembledB
  have upper := grownA.distance_lt_add grownB
  rw [EditDistance.distance_comm treeB.preOrder] at fromB
  refine ⟨treeA, treeB, _, _, foundA, foundB, viewA, viewB, rfl, rfl, ?_⟩
  rw [grownA.editDistance_of_views grownB viewA viewB]
  refine ⟨lower, distance_postOrder_le grownA grownB assembledA assembledB, by omega, by omega,
    fun unbranchedA unbranchedB => ⟨?_, ?_⟩, fun shortA shortB => ⟨?_, ?_⟩⟩
  · exact distance_eq_preOrder grownA grownB assembledA assembledB unbranchedA unbranchedB
  · exact distance_eq_postOrder grownA grownB assembledA assembledB unbranchedA unbranchedB
  · apply EditDistance.limited_of_short
    rw [lengthA, lengthB]
    exact max_lt shortA shortB
  · apply EditDistance.limited_of_short
    change max treeA.postOrder.length treeB.postOrder.length < saturated
    rw [length_postOrder, length_postOrder, grownA.size_eq assembledA, grownB.size_eq assembledB]
    exact max_lt shortA shortB

theorem editDistance_bracketed_of_same_preOrder :
    let a : Table String := ((empty.add "f" none).add "g" (some 0)).add "x" (some 1)
    let b : Table String := ((empty.add "f" none).add "g" (some 0)).add "x" (some 0)
    let c : Table String := ((empty.add "f" none).add "x" (some 0)).add "g" (some 1)
    a.Grown ∧ b.Grown ∧ c.Grown ∧ a.Unbranched ∧ c.Unbranched ∧ ∃ viewA viewB viewC,
      PostOrder.ofTable? a = some viewA ∧ PostOrder.ofTable? b = some viewB ∧
        PostOrder.ofTable? c = some viewC ∧
        EditDistance.distance ["f", "g", "x"] ["f", "g", "x"] ≤ editDistance viewA viewB ∧
        editDistance viewA viewB = 2 ∧ editDistance viewA viewB ≤ 5 ∧
        editDistance viewA viewC = EditDistance.distance ["f", "g", "x"] ["f", "x", "g"] ∧
        editDistance viewA viewC = 2 := by
  intro a b c
  have grownA : a.Grown := .child "x" (.child "g" (.root "f") (by decide)) (by decide)
  have grownB : b.Grown := .child "x" (.child "g" (.root "f") (by decide)) (by decide)
  have grownC : c.Grown := .child "g" (.child "x" (.root "f") (by decide)) (by decide)
  have unbranchedA : a.Unbranched := by unfold Unbranched; decide
  have unbranchedC : c.Unbranched := by unfold Unbranched; decide
  obtain ⟨treeA, treeB, viewA, viewB, isA, isB, foundA, foundB, -, -, lower, -, upper, -⟩ :=
    editDistance_bracketed grownA grownB
  obtain ⟨treeA', treeC, viewA', viewC, isA', isC, foundA', foundC, -, -, -, -, -, -, chains, -⟩ :=
    editDistance_bracketed grownA grownC
  obtain rfl := Option.some.inj (isA.symm.trans isA')
  obtain rfl := Option.some.inj (foundA.symm.trans foundA')
  have orders : (a.toTree?.map Tree.preOrder, b.toTree?.map Tree.preOrder,
      c.toTree?.map Tree.preOrder) =
        (some ["f", "g", "x"], some ["f", "g", "x"], some ["f", "x", "g"]) := by decide +kernel
  have values : ((PostOrder.ofTable? a).bind fun viewA => (PostOrder.ofTable? b).bind fun viewB =>
      (PostOrder.ofTable? c).map fun viewC =>
        (editDistance viewA viewB, editDistance viewA viewC)) = some (2, 2) := by decide +kernel
  rw [isA, isB, isC] at orders
  rw [foundA, foundB, foundC] at values
  simp only [Option.map_some, Prod.mk.injEq, Option.some.injEq] at orders
  simp only [Option.bind_some, Option.map_some, Prod.mk.injEq, Option.some.injEq] at values
  rw [orders.1, orders.2.1] at lower
  have equal := (chains unbranchedA unbranchedC).1
  rw [orders.1, orders.2.2] at equal
  exact ⟨grownA, grownB, grownC, unbranchedA, unbranchedC, viewA, viewB, viewC, foundA, foundB,
    foundC, lower, values.1, upper, equal, values.2⟩

end Grown

end Table

end SourceSimilarity.Tree
