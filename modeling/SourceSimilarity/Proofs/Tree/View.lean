import SourceSimilarity.Tree.PostOrder
import Mathlib.Order.Lattice.Nat

namespace SourceSimilarity.Tree.PostOrder

variable {α : Type}

def leaf (view : PostOrder α) (node : Nat) : Nat := (view.leftmost[node]?).getD 0

def Closed (view : PostOrder α) (start stop : Nat) : Prop :=
  ∀ node, start ≤ node → node < stop → start ≤ view.leaf node

/-- A view of which the leaves are nested and the key roots are the last nodes with their leaves. -/
structure Sound (view : PostOrder α) : Prop where
  leaf_le : ∀ node, view.leaf node ≤ node
  closed : ∀ node, node < view.size → view.Closed (view.leaf node) (node + 1)
  leaf_last : view.leaf (view.size - 1) = 0
  keyRoots_sorted : view.keyRoots.Pairwise (· < ·)
  mem_keyRoots : ∀ node, node ∈ view.keyRoots ↔
    node < view.size ∧ ∀ later, node < later → later < view.size → view.leaf later ≠ view.leaf node

namespace Sound

variable {view : PostOrder α} {node root : Nat}

theorem le_keyRoot (sound : view.Sound) (key : root ∈ view.keyRoots) (inside : node < view.size)
    (same : view.leaf node = view.leaf root) : node ≤ root := by
  by_contra later
  exact ((sound.mem_keyRoots root).mp key).2 node (not_le.mp later) inside same

theorem exists_keyRoot (sound : view.Sound) (inside : node < view.size) :
    ∃ root ∈ view.keyRoots, view.leaf root = view.leaf node := by
  let group := {later | later < view.size ∧ view.leaf later = view.leaf node}
  have bounded : BddAbove group := ⟨view.size, fun later member => member.1.le⟩
  have last : sSup group ∈ group := Nat.sSup_mem ⟨node, inside, rfl⟩ bounded
  refine ⟨sSup group, (sound.mem_keyRoots _).mpr ⟨last.1, ?_⟩, last.2⟩
  intro later after insideLater same
  have : later ≤ sSup group := le_csSup bounded ⟨insideLater, same.trans last.2⟩
  omega

theorem lt_keyRoot (sound : view.Sound) {below : Nat} (inside : root < view.size)
    (above : node < view.size) (first : view.leaf root ≤ below) (last : below ≤ root)
    (same : view.leaf node = view.leaf below) (differ : view.leaf below ≠ view.leaf root) :
    node < root := by
  by_contra later
  have least := sound.closed root inside below first (Nat.lt_succ_of_le last)
  have low := sound.leaf_le below
  have enclosing := sound.closed node above root (by omega) (by omega)
  omega

end Sound

end SourceSimilarity.Tree.PostOrder

namespace SourceSimilarity.Tree

variable {α : Type}

theorem mem_zipIdx_append {start place : Nat} {early late : List Nat} {leaf : Nat} :
    (leaf, place) ∈ (early ++ late).zipIdx start ↔
      (leaf, place) ∈ early.zipIdx start ∨ (leaf, place) ∈ late.zipIdx (start + early.length) := by
  rw [List.zipIdx_append, List.mem_append]

/-- Places of leftmost leaves, for nodes that stand from `start` on, with no leaf between a node and
its leaf that comes before that leaf. -/
def NestedFrom (start : Nat) (leaves : List Nat) : Prop :=
  ∀ leaf place, (leaf, place) ∈ leaves.zipIdx start → start ≤ leaf ∧ leaf ≤ place ∧
    ∀ leaf' place', (leaf', place') ∈ leaves.zipIdx start → leaf ≤ place' → place' ≤ place →
      leaf ≤ leaf'

theorem lt_of_mem_zipIdx {start leaf place : Nat} {leaves : List Nat}
    (member : (leaf, place) ∈ leaves.zipIdx start) :
    start ≤ place ∧ place < start + leaves.length := by
  have := List.mem_zipIdx member
  omega

theorem NestedFrom.append {start : Nat} {early late : List Nat} (nested : NestedFrom start early)
    (nestedLate : NestedFrom (start + early.length) late) : NestedFrom start (early ++ late) := by
  intro leaf place member
  simp only [mem_zipIdx_append] at member ⊢
  rcases member with member | member
  · obtain ⟨least, low, inner⟩ := nested leaf place member
    refine ⟨least, low, ?_⟩
    rintro leaf' place' (member' | member') after before
    · exact inner leaf' place' member' after before
    · have := lt_of_mem_zipIdx member
      have := lt_of_mem_zipIdx member'
      omega
  · obtain ⟨least, low, inner⟩ := nestedLate leaf place member
    refine ⟨by omega, low, ?_⟩
    rintro leaf' place' (member' | member') after before
    · have := lt_of_mem_zipIdx member'
      omega
    · exact inner leaf' place' member' after before

theorem NestedFrom.root {start : Nat} {leaves : List Nat} (nested : NestedFrom start leaves) :
    NestedFrom start (leaves ++ [start]) := by
  intro leaf place member
  simp only [mem_zipIdx_append, List.zipIdx_singleton, List.mem_singleton, Prod.mk.injEq]
    at member ⊢
  rcases member with member | ⟨rfl, rfl⟩
  · obtain ⟨least, low, inner⟩ := nested leaf place member
    refine ⟨least, low, ?_⟩
    rintro leaf' place' (member' | ⟨rfl, rfl⟩) after before
    · exact inner leaf' place' member' after before
    · have := lt_of_mem_zipIdx member
      omega
  · refine ⟨le_rfl, by omega, ?_⟩
    rintro leaf' place' (member' | ⟨rfl, rfl⟩) - -
    · exact (nested leaf' place' member').1
    · exact le_rfl

mutual

theorem length_leftmostFrom (start : Nat) : (tree : Tree α) →
    (leftmostFrom start tree).length = tree.size
  | .node _ children => by
    rw [leftmostFrom, List.length_append, length_leftmostAll, List.length_singleton, size,
      Nat.add_comm]

theorem length_leftmostAll (start : Nat) : (trees : List (Tree α)) →
    (leftmostAll start trees).length = sizeAll trees
  | [] => rfl
  | tree :: trees => by
    rw [leftmostAll, List.length_append, length_leftmostAll, length_leftmostFrom, sizeAll]

end

mutual

theorem nestedFrom_leftmostFrom (start : Nat) : (tree : Tree α) →
    NestedFrom start (leftmostFrom start tree)
  | .node _ children => (nestedFrom_leftmostAll start children).root

theorem nestedFrom_leftmostAll (start : Nat) : (trees : List (Tree α)) →
    NestedFrom start (leftmostAll start trees)
  | [] => by simp [leftmostAll, NestedFrom]
  | tree :: trees => (nestedFrom_leftmostFrom start tree).append (nestedFrom_leftmostAll _ trees)

end

/-- A place is the last one with its leaf. Unless `isKey`, the leaf is not the first one. -/
def KeyFrom (isKey : Bool) (start : Nat) (leaves : List Nat) (place : Nat) : Prop :=
  ∃ leaf, (leaf, place) ∈ leaves.zipIdx start ∧
    (∀ leaf' later, (leaf', later) ∈ leaves.zipIdx start → place < later → leaf' ≠ leaf) ∧
    (isKey = true ∨ leaf ≠ start)

theorem keyFrom_append {isKey : Bool} {start place : Nat} {early late : List Nat}
    (some : 0 < early.length) (nested : NestedFrom start early)
    (nestedLate : NestedFrom (start + early.length) late) :
    KeyFrom isKey start (early ++ late) place ↔
      KeyFrom isKey start early place ∨ KeyFrom true (start + early.length) late place := by
  simp only [KeyFrom, mem_zipIdx_append]
  constructor
  · rintro ⟨leaf, member | member, last, kind⟩
    · exact .inl ⟨leaf, member, fun leaf' later inside => last leaf' later (.inl inside), kind⟩
    · exact .inr ⟨leaf, member, fun leaf' later inside => last leaf' later (.inr inside),
        .inl trivial⟩
  · rintro (⟨leaf, member, last, kind⟩ | ⟨leaf, member, last, -⟩)
    · refine ⟨leaf, .inl member, ?_, kind⟩
      rintro leaf' later (inside | inside) after
      · exact last leaf' later inside after
      · have := (nested leaf place member).2.1
        have := (nestedLate leaf' later inside).1
        have := lt_of_mem_zipIdx member
        omega
    · have := (nestedLate leaf place member).1
      refine ⟨leaf, .inr member, ?_, .inr (by omega)⟩
      rintro leaf' later (inside | inside) after
      · have := lt_of_mem_zipIdx inside
        have := lt_of_mem_zipIdx member
        omega
      · exact last leaf' later inside after

theorem keyFrom_root {isKey : Bool} {start place : Nat} {leaves : List Nat} :
    KeyFrom isKey start (leaves ++ [start]) place ↔
      KeyFrom false start leaves place ∨ (isKey = true ∧ place = start + leaves.length) := by
  simp only [KeyFrom, mem_zipIdx_append, List.zipIdx_singleton, List.mem_singleton, Prod.mk.injEq,
    Bool.false_eq_true, false_or]
  constructor
  · rintro ⟨leaf, member | ⟨rfl, rfl⟩, last, kind⟩
    · have inside := lt_of_mem_zipIdx member
      refine .inl ⟨leaf, member, fun leaf' later inside => last leaf' later (.inl inside), ?_⟩
      exact (last start _ (.inr ⟨rfl, rfl⟩) inside.2).symm
    · exact .inr ⟨kind.resolve_right (by simp), rfl⟩
  · rintro (⟨leaf, member, last, kind⟩ | ⟨isKey, rfl⟩)
    · refine ⟨leaf, .inl member, ?_, .inr kind⟩
      rintro leaf' later (inside | ⟨rfl, rfl⟩) after
      · exact last leaf' later inside after
      · exact kind.symm
    · refine ⟨start, .inr ⟨rfl, rfl⟩, ?_, .inl isKey⟩
      rintro leaf' later (inside | ⟨rfl, rfl⟩) after
      · have := lt_of_mem_zipIdx inside
        omega
      · omega

theorem keyRootsFrom_node (start : Nat) (isKey : Bool) (label : α) (children : List (Tree α)) :
    keyRootsFrom start isKey (.node label children) =
      ((keyRootsAll start false children).1 ++
          (if isKey then [start + (keyRootsAll start false children).2] else []),
        (keyRootsAll start false children).2 + 1) := rfl

theorem keyRootsAll_cons (start : Nat) (isKey : Bool) (tree : Tree α) (trees : List (Tree α)) :
    keyRootsAll start isKey (tree :: trees) =
      ((keyRootsFrom start isKey tree).1 ++
          (keyRootsAll (start + (keyRootsFrom start isKey tree).2) true trees).1,
        (keyRootsFrom start isKey tree).2 +
          (keyRootsAll (start + (keyRootsFrom start isKey tree).2) true trees).2) := rfl

mutual

theorem count_keyRootsFrom (start : Nat) (isKey : Bool) : (tree : Tree α) →
    (keyRootsFrom start isKey tree).2 = tree.size
  | .node _ children => by
    simp only [keyRootsFrom_node, count_keyRootsAll, size]
    exact Nat.add_comm _ _

theorem count_keyRootsAll (start : Nat) (isKey : Bool) : (trees : List (Tree α)) →
    (keyRootsAll start isKey trees).2 = sizeAll trees
  | [] => rfl
  | tree :: trees => by
    rw [keyRootsAll_cons, count_keyRootsFrom, count_keyRootsAll, sizeAll]

end

mutual

theorem mem_keyRootsFrom (start : Nat) (isKey : Bool) (place : Nat) : (tree : Tree α) →
    (place ∈ (keyRootsFrom start isKey tree).1 ↔ KeyFrom isKey start (leftmostFrom start tree) place)
  | .node _ children => by
    rw [leftmostFrom, keyFrom_root, ← mem_keyRootsAll start false place children,
      keyRootsFrom_node, count_keyRootsAll, length_leftmostAll]
    cases isKey <;> simp

theorem mem_keyRootsAll (start : Nat) (isKey : Bool) (place : Nat) : (trees : List (Tree α)) →
    (place ∈ (keyRootsAll start isKey trees).1 ↔ KeyFrom isKey start (leftmostAll start trees) place)
  | [] => by simp [keyRootsAll, leftmostAll, KeyFrom]
  | tree :: trees => by
    have some : 0 < (leftmostFrom start tree).length := length_leftmostFrom start tree ▸ tree.size_pos
    have length := length_leftmostFrom start tree
    rw [leftmostAll, keyFrom_append some (nestedFrom_leftmostFrom start tree)
        (nestedFrom_leftmostAll _ trees), ← mem_keyRootsFrom start isKey place tree,
      ← mem_keyRootsAll _ true place trees, keyRootsAll_cons, count_keyRootsFrom, length,
      List.mem_append]

end

theorem bounds_of_keyFrom {isKey : Bool} {start place : Nat} {leaves : List Nat}
    (key : KeyFrom isKey start leaves place) : start ≤ place ∧ place < start + leaves.length := by
  obtain ⟨leaf, member, -⟩ := key
  exact lt_of_mem_zipIdx member

mutual

theorem keyRootsFrom_sorted (start : Nat) (isKey : Bool) : (tree : Tree α) →
    (keyRootsFrom start isKey tree).1.Pairwise (· < ·)
  | .node _ children => by
    rw [keyRootsFrom_node, List.pairwise_append]
    refine ⟨keyRootsAll_sorted start false children, by cases isKey <;> simp, ?_⟩
    intro place member root inRoot
    have bounds := bounds_of_keyFrom ((mem_keyRootsAll start false place children).mp member)
    rw [length_leftmostAll] at bounds
    cases isKey with
    | false => simp at inRoot
    | true =>
        rw [if_pos rfl, List.mem_singleton, count_keyRootsAll] at inRoot
        omega

theorem keyRootsAll_sorted (start : Nat) (isKey : Bool) : (trees : List (Tree α)) →
    (keyRootsAll start isKey trees).1.Pairwise (· < ·)
  | [] => by simp [keyRootsAll]
  | tree :: trees => by
    rw [keyRootsAll_cons, List.pairwise_append]
    refine ⟨keyRootsFrom_sorted start isKey tree, keyRootsAll_sorted _ true trees, ?_⟩
    intro place member later inLater
    have bounds := bounds_of_keyFrom ((mem_keyRootsFrom start isKey place tree).mp member)
    have boundsLater := bounds_of_keyFrom ((mem_keyRootsAll _ true later trees).mp inLater)
    rw [length_leftmostFrom] at bounds
    rw [count_keyRootsFrom] at boundsLater
    omega

end

mutual

theorem length_postOrder : (tree : Tree α) → tree.postOrder.length = tree.size
  | .node _ children => by
    rw [postOrder, List.length_append, length_postOrderAll, List.length_singleton, size,
      Nat.add_comm]

theorem length_postOrderAll : (trees : List (Tree α)) → (postOrderAll trees).length = sizeAll trees
  | [] => rfl
  | tree :: trees => by
    rw [postOrderAll, List.length_append, length_postOrder, length_postOrderAll, sizeAll]

end

namespace PostOrder

theorem size_ofTree (tree : Tree α) : (ofTree tree).size = tree.size := by
  simp [ofTree, PostOrder.size, length_postOrder]

theorem leaf_ofTree (tree : Tree α) (node : Nat) :
    (ofTree tree).leaf node = ((leftmostFrom 0 tree)[node]?).getD 0 := by
  simp [ofTree, leaf]

theorem mem_zipIdx_leaf {tree : Tree α} {node : Nat} (inside : node < tree.size) :
    ((ofTree tree).leaf node, node) ∈ (leftmostFrom 0 tree).zipIdx := by
  rw [← length_leftmostFrom 0] at inside
  rw [List.mk_mem_zipIdx_iff_getElem?, leaf_ofTree, List.getElem?_eq_getElem inside,
    Option.getD_some]

theorem eq_leaf_of_mem_zipIdx {tree : Tree α} {leaf node : Nat}
    (member : (leaf, node) ∈ (leftmostFrom 0 tree).zipIdx) :
    node < tree.size ∧ leaf = (ofTree tree).leaf node := by
  rw [List.mk_mem_zipIdx_iff_getElem?] at member
  obtain ⟨inside, -⟩ := List.getElem?_eq_some_iff.mp member
  rw [leaf_ofTree, member, Option.getD_some]
  exact ⟨length_leftmostFrom 0 tree ▸ inside, rfl⟩

theorem sound_ofTree (tree : Tree α) : (ofTree tree).Sound where
  leaf_le node := by
    by_cases inside : node < tree.size
    · exact (nestedFrom_leftmostFrom 0 tree _ node (mem_zipIdx_leaf inside)).2.1
    · rw [← length_leftmostFrom 0, not_lt] at inside
      rw [leaf_ofTree, List.getElem?_eq_none inside, Option.getD_none]
      exact Nat.zero_le node
  closed node inside below least last := by
    rw [size_ofTree] at inside
    have nested := (nestedFrom_leftmostFrom 0 tree _ node (mem_zipIdx_leaf inside)).2.2
    exact nested _ below (mem_zipIdx_leaf (by omega)) least (by omega)
  leaf_last := by
    cases tree with
    | node label children =>
        rw [size_ofTree, leaf_ofTree, leftmostFrom, Tree.size, Nat.add_sub_cancel_left,
          ← length_leftmostAll 0]
        simp
  keyRoots_sorted := keyRootsFrom_sorted 0 true tree
  mem_keyRoots node := by
    change node ∈ (keyRootsFrom 0 true tree).1 ↔ _
    rw [mem_keyRootsFrom, size_ofTree]
    constructor
    · rintro ⟨leaf, member, last, -⟩
      obtain ⟨inside, rfl⟩ := eq_leaf_of_mem_zipIdx member
      exact ⟨inside, fun later after insideLater =>
        last _ later (mem_zipIdx_leaf insideLater) after⟩
    · rintro ⟨inside, last⟩
      refine ⟨_, mem_zipIdx_leaf inside, ?_, .inl rfl⟩
      intro leaf later member after
      obtain ⟨insideLater, rfl⟩ := eq_leaf_of_mem_zipIdx member
      exact last later after insideLater

end PostOrder

end SourceSimilarity.Tree
