import SourceSimilarity.Proofs.Tree.DistanceTable
import SourceSimilarity.Proofs.Tree.Places
import Mathlib.Logic.Function.Iterate

/-!
The nodes of a grown table are walked with a stack: a node is met, its children are put on the stack
above it, and it is left when it is met again. Every node is met twice, so the walk ends, and the
nodes are left in post-order. The post-order view can be read off the nodes as they are left: the
leftmost leaf of a node is that of its first child, and a node is a key root if it is no first
child.
-/

namespace SourceSimilarity.Tree

variable {α : Type}

namespace Table

/-- The nodes on the stack, the topmost first, each with whether it was met before, and the nodes
left so far. -/
structure Walk where
  stack : List (Nat × Bool)
  order : List Nat
deriving DecidableEq, Repr

namespace Walk

def start : Walk := { stack := [(0, false)], order := [] }

/-- Takes the topmost node off the stack: it is left if it was met before, otherwise it is put back
below its children. -/
def step (table : Table α) (walk : Walk) : Walk :=
  match walk.stack with
  | [] => walk
  | (top, true) :: stack => { stack, order := walk.order ++ [top] }
  | (top, false) :: stack =>
    { walk with stack := (table.childrenOf top).map (·, false) ++ (top, true) :: stack }

theorem step_met (table : Table α) (node : Nat) (stack : List (Nat × Bool)) (order : List Nat) :
    step table ⟨(node, true) :: stack, order⟩ = ⟨stack, order ++ [node]⟩ := rfl

theorem step_new (table : Table α) (node : Nat) (stack : List (Nat × Bool)) (order : List Nat) :
    step table ⟨(node, false) :: stack, order⟩ =
      ⟨(table.childrenOf node).map (·, false) ++ (node, true) :: stack, order⟩ := rfl

theorem iterate_step_nodes {table : Table α} {nodes : List Nat}
    (each : ∀ node ∈ nodes, ∀ stack order,
      (step table)^[2 * (table.order node).length] ⟨(node, false) :: stack, order⟩ =
        ⟨stack, order ++ table.order node⟩)
    (stack : List (Nat × Bool)) (order : List Nat) :
    (step table)^[2 * (nodes.flatMap table.order).length] ⟨nodes.map (·, false) ++ stack, order⟩ =
      ⟨stack, order ++ nodes.flatMap table.order⟩ := by
  induction nodes generalizing order with
  | nil => simp
  | cons node nodes ih =>
      rw [List.flatMap_cons, List.length_append, Nat.mul_add, Nat.add_comm,
        Function.iterate_add_apply, List.map_cons, List.cons_append, each node (by simp),
        ih fun other member => each other (List.mem_cons_of_mem _ member), List.append_assoc]

end Walk

namespace Grown

variable {table : Table α} (grown : table.Grown)
include grown

theorem iterate_step (node : Nat) (stack : List (Nat × Bool)) (order : List Nat) :
    (Walk.step table)^[2 * (table.order node).length] ⟨(node, false) :: stack, order⟩ =
      ⟨stack, order ++ table.order node⟩ := by
  induction node using grown.induction_on_children generalizing stack order with
  | step node ih =>
      rw [grown.order_eq, List.length_append, List.length_singleton, Nat.mul_add, Nat.mul_one,
        Function.iterate_succ_apply, Walk.step_new, Function.iterate_succ_apply',
        Walk.iterate_step_nodes ih, Walk.step_met, List.append_assoc]

theorem iterate_step_start :
    (Walk.step table)^[2 * table.size] .start = ⟨[], table.order 0⟩ := by
  have walked := grown.iterate_step 0 [] []
  rwa [grown.length_order_root, List.nil_append] at walked

end Grown

def isKey (table : Table α) (node : Nat) : Bool :=
  match table.parentOf? node with
  | none => true
  | some parent => (table.childrenOf parent).head? != some node

/-- Enters the leftmost leaf of a node at its place: that of its first child, or its own place if it
has no children. -/
def enterLeaf (table : Table α) (order : List Nat) (leftmost : Array Nat) (item : Nat × Nat) :
    Array Nat :=
  leftmost.setIfInBounds item.2 <|
    match (table.childrenOf item.1).head? with
    | none => item.2
    | some first => (leftmost[order.idxOf first]?).getD 0

end Table

def PostOrder.ofOrder (table : Table α) (order : List Nat) : PostOrder α where
  labels := (order.filterMap table.labelOf?).toArray
  leftmost := order.zipIdx.foldl (table.enterLeaf order) (Array.replicate table.size 0)
  keyRoots := (order.zipIdx.filter fun item => table.isKey item.1).map Prod.snd

theorem of_zipIdx_split {items : List Nat} {before after : List (Nat × Nat)} {item place : Nat}
    (split : items.zipIdx = before ++ (item, place) :: after) :
    items[before.length]? = some item ∧ place = before.length := by
  have entry := congrArg (·[before.length]?) split
  simp only [List.getElem?_zipIdx, List.getElem?_append_right le_rfl, Nat.sub_self,
    List.getElem?_cons_zero, Option.map_eq_some_iff, Prod.mk.injEq] at entry
  obtain ⟨_, found, rfl, rfl⟩ := entry
  exact ⟨found, Nat.zero_add _⟩

namespace Table.Grown

variable {table : Table α} (grown : table.Grown)
include grown

theorem place_lt {node : Nat} (inside : node < table.size) : table.place node < table.size := by
  rw [← grown.length_order_root]
  exact List.idxOf_lt_length_of_mem ((grown.mem_order_root node).mpr inside)

theorem getElem?_order_iff {node index : Nat} :
    (table.order 0)[index]? = some node ↔ node < table.size ∧ table.place node = index := by
  constructor
  · intro found
    obtain ⟨bound, rfl⟩ := List.getElem?_eq_some_iff.mp found
    exact ⟨(grown.mem_order_root _).mp (List.getElem_mem bound),
      (grown.nodup_order 0).idxOf_getElem index bound⟩
  · rintro ⟨inside, rfl⟩
    exact grown.order_place inside

theorem inside_of_child {node child : Nat} (member : child ∈ table.childrenOf node) :
    node < child ∧ child < table.size :=
  grown.parent_lt (grown.mem_childrenOf.mp member)

section

variable {tree : Tree α} (assembled : tree.map some = (table.numbered 0).map table.labelOf?)
include assembled

theorem leaf_of_no_children {node : Nat} (inside : node < table.size)
    (none : table.childrenOf node = []) :
    (PostOrder.ofTree tree).leaf (table.place node) = table.place node := by
  rw [grown.leaf_place assembled inside, grown.order_eq, none]
  rfl

theorem leaf_of_head? {node first : Nat} (head : (table.childrenOf node).head? = some first) :
    (PostOrder.ofTree tree).leaf (table.place node) =
      (PostOrder.ofTree tree).leaf (table.place first) := by
  obtain ⟨rest, children⟩ := List.head?_eq_some_iff.mp head
  have bounds := grown.inside_of_child (List.mem_of_head? head)
  obtain ⟨before, after, split⟩ := grown.exists_split (bounds.1.trans bounds.2)
  have splitFirst : table.order 0 =
      before ++ table.order first ++ (rest.flatMap table.order ++ [node] ++ after) := by
    rw [split, grown.order_eq node, children]
    simp only [List.flatMap_cons, List.append_assoc]
  rw [grown.leaf_of_split assembled (bounds.1.trans bounds.2) split,
    grown.leaf_of_split assembled bounds.2 splitFirst]

theorem place_lt_of_child {node child : Nat} (member : child ∈ table.childrenOf node) :
    table.place child < table.place node := by
  have bounds := grown.inside_of_child member
  have above : table.Above node child := .single (grown.mem_childrenOf.mp member)
  exact ((grown.above_iff_places assembled (bounds.1.trans bounds.2) bounds.2).mp above).2

theorem leaf_eq_place_iff {node : Nat} (inside : node < table.size) :
    (PostOrder.ofTree tree).leaf (table.place node) = table.place node ↔
      table.childrenOf node = [] := by
  refine ⟨fun own => ?_, grown.leaf_of_no_children assembled inside⟩
  cases head : (table.childrenOf node).head? with
  | none => exact List.head?_eq_none_iff.mp head
  | some first =>
      have low := (PostOrder.sound_ofTree tree).leaf_le (table.place first)
      have less := grown.place_lt_of_child assembled (List.mem_of_head? head)
      rw [grown.leaf_of_head? assembled head] at own
      omega

/-- A node that is no first child begins later than its parent does. -/
theorem leaf_lt_of_later {node parent : Nat} (rises : table.parentOf? node = some parent)
    (later : (table.childrenOf parent).head? ≠ some node) :
    (PostOrder.ofTree tree).leaf (table.place parent) <
      (PostOrder.ofTree tree).leaf (table.place node) := by
  have member := grown.mem_childrenOf.mpr rises
  obtain ⟨first, rest, children⟩ := List.exists_cons_of_ne_nil (List.ne_nil_of_mem member)
  have head : (table.childrenOf parent).head? = some first := by rw [children, List.head?_cons]
  have isLater : node ∈ rest := by
    rw [children] at member
    exact (List.mem_cons.mp member).resolve_left fun same => later (same ▸ head)
  have siblings : [first, node].Sublist (table.childrenOf parent) := by
    rw [children]
    exact (List.singleton_sublist.mpr isLater).cons_cons first
  have apart := grown.place_lt_leaf_of_siblings assembled siblings
  have low := (PostOrder.sound_ofTree tree).leaf_le (table.place first)
  rw [grown.leaf_of_head? assembled head]
  omega

theorem mem_keyRoots_iff {node : Nat} (inside : node < table.size) :
    table.place node ∈ (PostOrder.ofTree tree).keyRoots ↔ table.isKey node = true := by
  have size : (PostOrder.ofTree tree).size = table.size := by
    rw [PostOrder.size_ofTree, grown.size_eq assembled]
  rw [(PostOrder.sound_ofTree tree).mem_keyRoots, size, isKey]
  cases rises : table.parentOf? node with
  | none =>
      refine iff_of_true ⟨grown.place_lt inside, ?_⟩ rfl
      have root : node = 0 := by
        by_contra other
        obtain ⟨parent, rises'⟩ := grown.exists_parent (Nat.pos_of_ne_zero other) inside
        rw [rises] at rises'
        cases rises'
      intro later after insideLater
      -- the root is left last
      obtain ⟨other, found⟩ : ∃ other, (table.order 0)[later]? = some other :=
        ⟨_, List.getElem?_eq_getElem (grown.length_order_root ▸ insideLater)⟩
      obtain ⟨insideOther, rfl⟩ := grown.getElem?_order_iff.mp found
      have above := (grown.atOrAbove_iff_places assembled inside insideOther).mp
        (root ▸ grown.atOrAbove_root insideOther)
      omega
  | some parent =>
      have member := grown.mem_childrenOf.mpr rises
      have insideParent := (grown.inside_of_child member).1.trans inside
      rw [bne_iff_ne]
      constructor
      · rintro ⟨-, last⟩ head
        exact last _ (grown.place_lt_of_child assembled member) (grown.place_lt insideParent)
          (grown.leaf_of_head? assembled head)
      · intro noFirst
        refine ⟨grown.place_lt inside, fun later after insideLater same => ?_⟩
        have begins := grown.leaf_lt_of_later assembled rises noFirst
        obtain ⟨other, found⟩ : ∃ other, (table.order 0)[later]? = some other :=
          ⟨_, List.getElem?_eq_getElem (grown.length_order_root ▸ insideLater)⟩
        obtain ⟨insideOther, rfl⟩ := grown.getElem?_order_iff.mp found
        -- a node that ends later and begins there lies above, so it begins where the parent does
        have low := (PostOrder.sound_ofTree tree).leaf_le (table.place node)
        have above := (grown.above_iff_places assembled insideOther inside).mpr ⟨by omega, after⟩
        obtain ⟨next, rises', rest⟩ := Relation.TransGen.head'_iff.mp above
        obtain rfl := Option.some.inj (rises.symm.trans rises')
        have places := (grown.atOrAbove_iff_places assembled insideOther insideParent).mp rest
        have nested := (PostOrder.sound_ofTree tree).closed _ (size ▸ insideLater) _ places.1
          (by omega)
        omega

/-- Each entry holds the leaf of its node when the nodes up to it have been entered, the first child
of a node among them. -/
theorem leftmost_ofOrder :
    (PostOrder.ofOrder table (table.order 0)).leftmost = (PostOrder.ofTree tree).leftmost := by
  have filled := foldl_split (table.enterLeaf (table.order 0))
    (fun before leftmost => leftmost.size = table.size ∧ ∀ place < before.length,
      leftmost[place]? = some ((PostOrder.ofTree tree).leaf place))
    (table.order 0).zipIdx (Array.replicate table.size 0) (by simp) ?_
  · obtain ⟨size, entries⟩ := filled
    have sizeView : (PostOrder.ofTree tree).leftmost.size = table.size := by
      simp [PostOrder.ofTree, length_leftmostFrom, grown.size_eq assembled]
    apply Array.ext_getElem?
    intro place
    by_cases inside : place < table.size
    · rw [← sizeView] at inside
      refine (entries place ?_).trans ?_
      · rwa [List.length_zipIdx, grown.length_order_root, ← sizeView]
      · rw [PostOrder.leaf, Array.getElem?_eq_getElem inside, Option.getD_some]
    · rw [not_lt] at inside
      exact (Array.getElem?_eq_none (size.trans_le inside)).trans
        (Array.getElem?_eq_none (sizeView.trans_le inside)).symm
  · rintro before ⟨node, place⟩ after leftmost split ⟨size, entries⟩
    obtain ⟨found, rfl⟩ := of_zipIdx_split split
    obtain ⟨inside, placed⟩ := grown.getElem?_order_iff.mp found
    refine ⟨by rw [enterLeaf, Array.size_setIfInBounds, size], fun other less => ?_⟩
    have bound : before.length < leftmost.size := size ▸ placed ▸ grown.place_lt inside
    rw [List.length_append, List.length_singleton] at less
    rw [enterLeaf]
    by_cases same : other = before.length
    · rw [same, Array.getElem?_setIfInBounds_self_of_lt bound, Option.some.injEq, ← placed]
      cases head : (table.childrenOf node).head? with
      | none =>
          have none := List.head?_eq_none_iff.mp head
          exact (grown.leaf_of_no_children assembled inside none).symm
      | some first =>
          have earlier := grown.place_lt_of_child assembled (List.mem_of_head? head)
          have entered := entries (table.place first) (placed ▸ earlier)
          rw [grown.leaf_of_head? assembled head]
          exact congrArg (·.getD 0) entered
    · rw [Array.getElem?_setIfInBounds_ne (Ne.symm same)]
      exact entries other (by omega)

omit grown in
theorem labels_ofOrder :
    (PostOrder.ofOrder table (table.order 0)).labels = (PostOrder.ofTree tree).labels := by
  have labels : tree.postOrder.map some = (table.order 0).map table.labelOf? := by
    rw [← postOrder_map, assembled, postOrder_map, order]
  have kept := congrArg (List.filterMap id) labels
  rw [List.filterMap_map, List.filterMap_map] at kept
  simp only [Function.id_comp, List.filterMap_some] at kept
  simp only [PostOrder.ofOrder, PostOrder.ofTree, kept]

theorem keyRoots_ofOrder :
    (PostOrder.ofOrder table (table.order 0)).keyRoots = (PostOrder.ofTree tree).keyRoots := by
  have sorted : (PostOrder.ofOrder table (table.order 0)).keyRoots.Pairwise (· < ·) := by
    have places : ((table.order 0).zipIdx.map Prod.snd).Pairwise (· < ·) := by
      rw [List.zipIdx_map_snd]
      exact List.pairwise_lt_range'
    exact places.sublist (List.filter_sublist.map Prod.snd)
  have sortedView := (PostOrder.sound_ofTree tree).keyRoots_sorted
  -- both lists are ascending, so they are equal as they have the same members
  refine List.Perm.eq_of_pairwise (fun _ _ _ _ less greater => absurd less greater.asymm) sorted
    sortedView ((List.perm_ext_iff_of_nodup (sorted.imp Nat.ne_of_lt)
      (sortedView.imp Nat.ne_of_lt)).mpr fun place => ?_)
  have key (node : Nat) (found : (table.order 0)[place]? = some node) :
      place ∈ (PostOrder.ofTree tree).keyRoots ↔ table.isKey node = true := by
    obtain ⟨inside, rfl⟩ := grown.getElem?_order_iff.mp found
    exact grown.mem_keyRoots_iff assembled inside
  constructor
  · intro member
    obtain ⟨⟨node, _⟩, kept, rfl⟩ := List.mem_map.mp member
    obtain ⟨inOrder, isKey⟩ := List.mem_filter.mp kept
    exact (key node (List.mk_mem_zipIdx_iff_getElem?.mp inOrder)).mpr isKey
  · intro member
    have bound := (((PostOrder.sound_ofTree tree).mem_keyRoots place).mp member).1
    rw [PostOrder.size_ofTree, grown.size_eq assembled, ← grown.length_order_root] at bound
    have found := List.getElem?_eq_getElem bound
    exact List.mem_map.mpr ⟨(_, place), List.mem_filter.mpr
      ⟨List.mk_mem_zipIdx_iff_getElem?.mpr found, (key _ found).mp member⟩, rfl⟩

theorem ofOrder_eq : PostOrder.ofOrder table (table.order 0) = PostOrder.ofTree tree :=
  (PostOrder.mk.injEq ..).mpr ⟨labels_ofOrder assembled, grown.leftmost_ofOrder assembled,
    grown.keyRoots_ofOrder assembled⟩

end

end Table.Grown

end SourceSimilarity.Tree
