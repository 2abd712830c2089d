import SourceSimilarity.Proofs.Tree.Numbering
import SourceSimilarity.Proofs.Tree.View
import SourceSimilarity.Proofs.Tree.Window

/-!
The nodes of a grown table in post-order. The nodes at or below a node stand next to each other, the
node itself last, and its leftmost leaf is the first of them. So the post-order view of a table
shows which nodes lie above others and which lie to the left.
-/

namespace SourceSimilarity.Tree

theorem postOrderAll_eq {α : Type} (trees : List (Tree α)) :
    postOrderAll trees = trees.flatMap postOrder := by
  induction trees with
  | nil => rfl
  | cons tree trees ih => rw [postOrderAll, ih, List.flatMap_cons]

theorem mem_middle_iff {middle before after whole : List Nat} {item : Nat}
    (split : whole = before ++ middle ++ after) (nodup : whole.Nodup) (member : item ∈ whole) :
    item ∈ middle ↔
      before.length ≤ whole.idxOf item ∧ whole.idxOf item < before.length + middle.length := by
  subst split
  obtain ⟨-, -, apart⟩ := List.nodup_append.mp nodup
  obtain ⟨-, -, apart'⟩ := List.nodup_append.mp (List.nodup_append.mp nodup).1
  constructor
  · intro inMiddle
    have notBefore : item ∉ before := fun inside => apart' item inside item inMiddle rfl
    rw [List.append_assoc, List.idxOf_append_of_notMem notBefore,
      List.idxOf_append_of_mem inMiddle]
    have := List.idxOf_lt_length_of_mem inMiddle
    omega
  · rintro ⟨least, bound⟩
    by_contra notMiddle
    by_cases inBefore : item ∈ before
    · rw [List.append_assoc, List.idxOf_append_of_mem inBefore] at least
      have := List.idxOf_lt_length_of_mem inBefore
      omega
    · have outside : item ∉ before ++ middle := by simp [inBefore, notMiddle]
      rw [List.idxOf_append_of_notMem outside, List.length_append] at bound
      omega

namespace Table

variable {α : Type}

def order (table : Table α) (node : Nat) : List Nat := (table.numbered node).postOrder

def place (table : Table α) (node : Nat) : Nat := (table.order 0).idxOf node

def layout (table : Table α) : Layout α where
  nodes := Finset.range table.size
  label := table.labelOf?
  Above := table.Above
  LeftOf := table.LeftOf

namespace Grown

variable {table : Table α}

theorem order_eq (grown : table.Grown) (node : Nat) :
    table.order node = (table.childrenOf node).flatMap table.order ++ [node] := by
  unfold order
  rw [grown.numbered_eq, postOrder, postOrderAll_eq, List.flatMap_map]

theorem atOrAbove_iff (grown : table.Grown) {upper lower : Nat} :
    table.AtOrAbove upper lower ↔
      (∃ child ∈ table.childrenOf upper, table.AtOrAbove child lower) ∨ lower = upper := by
  rw [← grown.above_iff, AtOrAbove, Relation.reflTransGen_iff_eq_or_transGen, or_comm,
    @eq_comm _ lower upper]
  rfl

theorem mem_order (grown : table.Grown) (node lower : Nat) :
    lower ∈ table.order node ↔ table.AtOrAbove node lower := by
  induction node using grown.induction_on_children with
  | step node ih =>
      rw [grown.order_eq, grown.atOrAbove_iff, List.mem_append, List.mem_flatMap,
        List.mem_singleton]
      refine or_congr_left (exists_congr fun child => and_congr_right fun member => ?_)
      exact ih child member

theorem nodup_order (grown : table.Grown) (node : Nat) : (table.order node).Nodup := by
  induction node using grown.induction_on_children with
  | step node ih =>
      rw [grown.order_eq, List.nodup_append, List.nodup_flatMap]
      refine ⟨⟨ih, ?_⟩, List.nodup_singleton node, ?_⟩
      · refine (grown.childrenOf_sorted node).imp_of_mem ?_
        intro child later member memberLater less lower inChild inLater
        exact less.ne (grown.eq_of_siblings member memberLater
          ((grown.mem_order child lower).mp inChild) ((grown.mem_order later lower).mp inLater))
      · intro lower inside other isNode same
        obtain ⟨child, member, inChild⟩ := List.mem_flatMap.mp inside
        have low := grown.le_of_atOrAbove ((grown.mem_order child lower).mp inChild)
        have less := (grown.parent_lt (grown.mem_childrenOf.mp member)).1
        have := List.mem_singleton.mp isNode
        omega

theorem mem_order_root (grown : table.Grown) (node : Nat) :
    node ∈ table.order 0 ↔ node < table.size := by
  rw [grown.mem_order]
  refine ⟨fun above => ?_, grown.atOrAbove_root⟩
  rcases Relation.ReflTransGen.cases_head above with rfl | ⟨parent, rises, -⟩
  · exact grown.size_pos
  · exact (grown.parent_lt rises).2

theorem length_order_root (grown : table.Grown) : (table.order 0).length = table.size := by
  have perm : (table.order 0).Perm (List.range table.size) :=
    (List.perm_ext_iff_of_nodup (grown.nodup_order 0) List.nodup_range).mpr fun node => by
      rw [grown.mem_order_root, List.mem_range]
  rw [perm.length_eq, List.length_range]

theorem exists_split (grown : table.Grown) {node : Nat} (inside : node < table.size) :
    ∃ before after, table.order 0 = before ++ table.order node ++ after := by
  induction node using Nat.strong_induction_on with
  | _ node ih =>
      by_cases first : node = 0
      · exact ⟨[], [], by rw [first, List.nil_append, List.append_nil]⟩
      · obtain ⟨parent, rises⟩ := grown.exists_parent (Nat.pos_of_ne_zero first) inside
        have less := (grown.parent_lt rises).1
        obtain ⟨before, after, split⟩ := ih parent less (less.trans inside)
        obtain ⟨early, late, children⟩ := List.append_of_mem (grown.mem_childrenOf.mpr rises)
        refine ⟨before ++ early.flatMap table.order,
          late.flatMap table.order ++ [parent] ++ after, ?_⟩
        rw [split, grown.order_eq parent, children]
        simp only [List.flatMap_append, List.flatMap_cons, List.append_assoc]

theorem order_place (grown : table.Grown) {node : Nat} (inside : node < table.size) :
    (table.order 0)[table.place node]? = some node :=
  List.getElem?_idxOf ((grown.mem_order_root node).mpr inside)

theorem place_of_split (grown : table.Grown) {node : Nat} {before after : List Nat}
    (split : table.order 0 = before ++ table.order node ++ after) :
    table.place node + 1 = before.length + (table.order node).length := by
  have nodup := grown.nodup_order 0
  have last := grown.order_eq node
  have split' : table.order 0 =
      (before ++ (table.childrenOf node).flatMap table.order) ++ node :: after := by
    rw [split, last]
    simp only [List.append_assoc, List.cons_append, List.nil_append]
  have fresh : node ∉ before ++ (table.childrenOf node).flatMap table.order := by
    rw [split'] at nodup
    exact fun inside => (List.nodup_append.mp nodup).2.2 node inside node (by simp) rfl
  rw [place, split', List.idxOf_append_of_notMem fresh, List.idxOf_cons_self, List.length_append,
    last, List.length_append, List.length_singleton]
  omega

theorem leftmostAll_numbered {children : List Nat}
    (each : ∀ child ∈ children, ∀ start, leftmostFrom start (table.numbered child) =
      ((table.order child).zipIdx start).map fun x => x.2 + 1 - (table.order x.1).length)
    (start : Nat) : leftmostAll start (children.map table.numbered) =
      ((children.flatMap table.order).zipIdx start).map
        fun x => x.2 + 1 - (table.order x.1).length := by
  induction children generalizing start with
  | nil => rfl
  | cons child children ih =>
      have length : (leftmostFrom start (table.numbered child)).length =
          (table.order child).length := by
        rw [each child (by simp), List.length_map, List.length_zipIdx]
      rw [List.map_cons, leftmostAll, length, each child (by simp),
        ih fun other member => each other (List.mem_cons_of_mem _ member), List.flatMap_cons,
        List.zipIdx_append, List.map_append]

theorem leftmostFrom_numbered (grown : table.Grown) (node start : Nat) :
    leftmostFrom start (table.numbered node) =
      ((table.order node).zipIdx start).map fun x => x.2 + 1 - (table.order x.1).length := by
  induction node using grown.induction_on_children generalizing start with
  | step node ih =>
      have root : start = start + ((table.childrenOf node).flatMap table.order).length + 1 -
          (table.order node).length := by
        rw [grown.order_eq node, List.length_append, List.length_singleton]
        omega
      rw [grown.numbered_eq, leftmostFrom, leftmostAll_numbered ih, grown.order_eq node,
        List.zipIdx_append, List.map_append, List.zipIdx_singleton, List.map_singleton, ← root]

theorem place_injOn (grown : table.Grown) {node other : Nat} (inside : node < table.size)
    (insideOther : other < table.size) (same : table.place node = table.place other) :
    node = other := by
  have equal := grown.order_place inside
  rw [same, grown.order_place insideOther] at equal
  exact (Option.some.inj equal).symm

section

variable {tree : Tree α} (grown : table.Grown)
  (assembled : tree.map some = (table.numbered 0).map table.labelOf?)
include grown assembled

theorem leaf_place {node : Nat} (inside : node < table.size) :
    (PostOrder.ofTree tree).leaf (table.place node) =
      table.place node + 1 - (table.order node).length := by
  have leaves : leftmostFrom 0 tree = leftmostFrom 0 (table.numbered 0) := by
    rw [← leftmostFrom_map some, assembled, leftmostFrom_map]
  rw [PostOrder.leaf_ofTree, leaves, grown.leftmostFrom_numbered, List.getElem?_map,
    List.getElem?_zipIdx, grown.order_place inside]
  simp

theorem leaf_of_split {node : Nat} (inside : node < table.size) {before after : List Nat}
    (split : table.order 0 = before ++ table.order node ++ after) :
    (PostOrder.ofTree tree).leaf (table.place node) = before.length := by
  rw [grown.leaf_place assembled inside, grown.place_of_split split]
  omega

theorem atOrAbove_iff_places {upper lower : Nat}
    (inside : upper < table.size) (insideLower : lower < table.size) :
    table.AtOrAbove upper lower ↔
      (PostOrder.ofTree tree).leaf (table.place upper) ≤ table.place lower ∧
        table.place lower ≤ table.place upper := by
  obtain ⟨before, after, split⟩ := grown.exists_split inside
  have last := grown.place_of_split split
  rw [← grown.mem_order, mem_middle_iff split (grown.nodup_order 0)
    ((grown.mem_order_root lower).mpr insideLower), grown.leaf_of_split assembled inside split]
  change _ ≤ table.place lower ∧ table.place lower < _ ↔ _
  omega

theorem above_iff_places {upper lower : Nat}
    (inside : upper < table.size) (insideLower : lower < table.size) :
    table.Above upper lower ↔
      (PostOrder.ofTree tree).leaf (table.place upper) ≤ table.place lower ∧
        table.place lower < table.place upper := by
  have weak := grown.atOrAbove_iff_places assembled inside insideLower
  constructor
  · intro above
    have differ := (grown.lt_of_above above).ne
    have places := weak.mp above.to_reflTransGen
    have apart : table.place upper ≠ table.place lower :=
      fun same => differ (grown.place_injOn inside insideLower same)
    omega
  · rintro ⟨least, less⟩
    rcases Relation.reflTransGen_iff_eq_or_transGen.mp (weak.mpr ⟨least, less.le⟩) with
      same | above
    · subst same
      omega
    · exact above

theorem place_lt_leaf_of_siblings {parent child later : Nat}
    (siblings : [child, later].Sublist (table.childrenOf parent)) :
    table.place child < (PostOrder.ofTree tree).leaf (table.place later) := by
  obtain ⟨member, memberLater, less⟩ := grown.sublist_childrenOf_iff.mp siblings
  have insideLater := (grown.parent_lt (grown.mem_childrenOf.mp memberLater)).2
  have insideParent := (grown.parent_lt (grown.mem_childrenOf.mp memberLater)).1.trans insideLater
  obtain ⟨before, after, split⟩ := grown.exists_split insideParent
  obtain ⟨early, rest, children⟩ := List.append_of_mem member
  have inRest : later ∈ rest := by
    have sorted := grown.childrenOf_sorted parent
    rw [children] at sorted memberLater
    rcases List.mem_append.mp memberLater with inside | inside
    · have := (List.pairwise_append.mp sorted).2.2 later inside child (by simp)
      omega
    · exact (List.mem_cons.mp inside).resolve_left less.ne'
  obtain ⟨middle, late, rest'⟩ := List.append_of_mem inRest
  have splitChild : table.order 0 = (before ++ early.flatMap table.order) ++ table.order child ++
      (rest.flatMap table.order ++ [parent] ++ after) := by
    rw [split, grown.order_eq parent, children]
    simp only [List.flatMap_append, List.flatMap_cons, List.append_assoc]
  have splitLater : table.order 0 = (before ++ early.flatMap table.order ++ table.order child ++
      middle.flatMap table.order) ++ table.order later ++
        (late.flatMap table.order ++ [parent] ++ after) := by
    rw [splitChild, rest']
    simp only [List.flatMap_append, List.flatMap_cons, List.append_assoc]
  have place := grown.place_of_split splitChild
  rw [grown.leaf_of_split assembled insideLater splitLater]
  simp only [List.length_append] at place ⊢
  omega

theorem size_eq :
    tree.size = table.size := by
  rw [← size_map some, assembled, size_map, ← length_postOrder]
  exact grown.length_order_root

theorem place_lt_leaf_of_leftOf {left right : Nat}
    (inside : left < table.size) (insideRight : right < table.size)
    (leftOf : table.LeftOf left right) :
    table.place left < (PostOrder.ofTree tree).leaf (table.place right) := by
  obtain ⟨parent, child, later, siblings, below, belowLater⟩ := leftOf
  have apart := grown.place_lt_leaf_of_siblings assembled siblings
  obtain ⟨member, memberLater, -⟩ := grown.sublist_childrenOf_iff.mp siblings
  have insideChild := (grown.parent_lt (grown.mem_childrenOf.mp member)).2
  have insideLater := (grown.parent_lt (grown.mem_childrenOf.mp memberLater)).2
  have places := (grown.atOrAbove_iff_places assembled insideChild inside).mp below
  have placesLater := (grown.atOrAbove_iff_places assembled insideLater insideRight).mp belowLater
  have bound : table.place later < (PostOrder.ofTree tree).size := by
    rw [PostOrder.size_ofTree, grown.size_eq assembled, ← grown.length_order_root]
    exact List.idxOf_lt_length_of_mem ((grown.mem_order_root later).mpr insideLater)
  -- the leaf of `right` comes no earlier than that of `later`, below which it lies
  have nested := (PostOrder.sound_ofTree tree).closed _ bound _ placesLater.1 (by omega)
  omega

theorem leftOf_iff_places {left right : Nat}
    (inside : left < table.size) (insideRight : right < table.size) :
    table.LeftOf left right ↔
      table.place left < (PostOrder.ofTree tree).leaf (table.place right) := by
  refine ⟨grown.place_lt_leaf_of_leftOf assembled inside insideRight, ?_⟩
  intro less
  -- of the four ways in which two nodes can lie, the places leave only this one
  have low := (PostOrder.sound_ofTree tree).leaf_le
  have lowLeft := low (table.place left)
  have lowRight := low (table.place right)
  rcases grown.related inside insideRight with above | above | leftOf | leftOf
  · have places := (grown.atOrAbove_iff_places assembled inside insideRight).mp above
    omega
  · have places := (grown.above_iff_places assembled insideRight inside).mp above
    omega
  · exact leftOf
  · have places := grown.place_lt_leaf_of_leftOf assembled insideRight inside leftOf
    omega

theorem label_place {node : Nat} (inside : node < table.size) :
    (PostOrder.ofTree tree).labels[table.place node]? = table.labelOf? node := by
  have labels : tree.postOrder.map some = (table.order 0).map table.labelOf? := by
    rw [← postOrder_map, assembled, postOrder_map, order]
  have entry := congrArg (·[table.place node]?) labels
  simp only [List.getElem?_map, grown.order_place inside, Option.map_some] at entry
  obtain ⟨label, found, equal⟩ := Option.map_eq_some_iff.mp entry
  rw [← equal, ← found]
  simp [PostOrder.ofTree]

theorem same_layout :
    table.layout.Same (PostOrder.ofTree tree).layout table.place where
  onto := by
    have nodes : (PostOrder.ofTree tree).layout.nodes = Finset.range table.size := by
      rw [← grown.size_eq assembled, ← PostOrder.size_ofTree]
      rfl
    rw [nodes]
    refine ⟨?_, ?_, ?_⟩
    · intro node member
      have inside := (grown.mem_order_root node).mpr (Finset.mem_range.mp member)
      rw [← grown.length_order_root]
      exact Finset.mem_range.mpr (List.idxOf_lt_length_of_mem inside)
    · intro node member other memberOther
      exact grown.place_injOn (Finset.mem_range.mp member) (Finset.mem_range.mp memberOther)
    · intro place member
      have bound : place < (table.order 0).length := by
        rw [grown.length_order_root]
        exact Finset.mem_range.mp member
      refine ⟨(table.order 0)[place], ?_, (grown.nodup_order 0).idxOf_getElem place bound⟩
      exact Finset.mem_range.mpr ((grown.mem_order_root _).mp (List.getElem_mem bound))
  label node member := grown.label_place assembled (Finset.mem_range.mp member)
  above upper member lower memberLower :=
    (grown.above_iff_places assembled (Finset.mem_range.mp member)
      (Finset.mem_range.mp memberLower)).symm
  leftOf left member right memberRight :=
    (grown.leftOf_iff_places assembled (Finset.mem_range.mp member)
      (Finset.mem_range.mp memberRight)).symm

end

theorem exists_view (grown : table.Grown) :
    ∃ tree : Tree α, PostOrder.ofTable? table = some (PostOrder.ofTree tree) ∧
      tree.map some = (table.numbered 0).map table.labelOf? := by
  obtain ⟨tree, found, assembled⟩ := grown.toTree?_eq
  refine ⟨tree, ?_, assembled⟩
  have sizes : table.size - (PostOrder.ofTree tree).leftmost.size = 0 := by
    simp [PostOrder.ofTree, length_leftmostFrom, grown.size_eq assembled]
  simp [PostOrder.ofTable?, found, sizes]

end Grown

end Table

end SourceSimilarity.Tree
