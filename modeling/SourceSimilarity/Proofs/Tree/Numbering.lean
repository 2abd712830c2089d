import SourceSimilarity.Tree.PostOrder
import SourceSimilarity.Proofs.Tree.Growth

namespace SourceSimilarity.Tree

variable {α β : Type}

mutual

def map (f : α → β) : Tree α → Tree β
  | .node label children => .node (f label) (mapAll f children)

def mapAll (f : α → β) : List (Tree α) → List (Tree β)
  | [] => []
  | tree :: trees => tree.map f :: mapAll f trees

end

theorem mapAll_eq (f : α → β) (trees : List (Tree α)) : mapAll f trees = trees.map (map f) := by
  induction trees with
  | nil => rfl
  | cons tree trees ih => rw [mapAll, ih, List.map_cons]

mutual

theorem postOrder_map (f : α → β) : (tree : Tree α) → (tree.map f).postOrder = tree.postOrder.map f
  | .node label children => by
    rw [map, postOrder, postOrder, postOrderAll_mapAll, List.map_append, List.map_singleton]

theorem postOrderAll_mapAll (f : α → β) : (trees : List (Tree α)) →
    postOrderAll (mapAll f trees) = (postOrderAll trees).map f
  | [] => rfl
  | tree :: trees => by
    rw [mapAll, postOrderAll, postOrderAll, postOrder_map, postOrderAll_mapAll, List.map_append]

end

mutual

theorem leftmostFrom_map (f : α → β) (start : Nat) : (tree : Tree α) →
    leftmostFrom start (tree.map f) = leftmostFrom start tree
  | .node label children => by rw [map, leftmostFrom, leftmostFrom, leftmostAll_mapAll]

theorem leftmostAll_mapAll (f : α → β) (start : Nat) : (trees : List (Tree α)) →
    leftmostAll start (mapAll f trees) = leftmostAll start trees
  | [] => rfl
  | tree :: trees => by
    rw [mapAll, leftmostAll, leftmostAll, leftmostFrom_map, leftmostAll_mapAll]

end

mutual

theorem size_map (f : α → β) : (tree : Tree α) → (tree.map f).size = tree.size
  | .node label children => by rw [map, size, size, sizeAll_mapAll]

theorem sizeAll_mapAll (f : α → β) : (trees : List (Tree α)) →
    sizeAll (mapAll f trees) = sizeAll trees
  | [] => rfl
  | tree :: trees => by rw [mapAll, sizeAll, sizeAll, size_map, sizeAll_mapAll]

end

namespace Table

def childrenAfter (table : Table α) (node last : Nat) : List Nat :=
  (List.range' (last + 1) (table.size - (last + 1))).filter fun child =>
    table.parentOf? child = some node

/-- The subtree of a node, labelled by the numbers of the nodes. -/
def numbered (table : Table α) (node : Nat) : Tree Nat :=
  .node node ((table.childrenAfter node node).attach.map fun child => numbered table child.1)
termination_by table.size - node
decreasing_by
  have range := List.mem_range'_1.mp (List.mem_filter.mp child.2).1
  omega

theorem numbered_eq (table : Table α) (node : Nat) :
    table.numbered node = .node node ((table.childrenAfter node node).map table.numbered) := by
  rw [numbered, List.attach_map_val (f := table.numbered)]

theorem childrenAfter_succ {table : Table α} {node last : Nat} (inside : last + 1 < table.size) :
    table.childrenAfter node last =
      if table.parentOf? (last + 1) = some node then (last + 1) :: table.childrenAfter node (last + 1)
      else table.childrenAfter node (last + 1) := by
  unfold childrenAfter
  rw [show table.size - (last + 1) = table.size - (last + 1 + 1) + 1 by omega, List.range'_succ,
    List.filter_cons]
  simp only [decide_eq_true_eq]

namespace Grown

variable {table : Table α}

theorem childrenAfter_self (grown : table.Grown) (node : Nat) :
    table.childrenAfter node node = table.childrenOf node := by
  rw [grown.childrenOf_eq]
  by_cases inside : node < table.size
  · have split : List.range table.size =
        List.range' 0 (node + 1) ++ List.range' (0 + (node + 1)) (table.size - (node + 1)) := by
      rw [List.range'_append_1, List.range_eq_range', show node + 1 + (table.size - (node + 1)) =
        table.size by omega]
    have early : (List.range' 0 (node + 1)).filter (fun child => table.parentOf? child = some node)
        = [] := by
      rw [List.filter_eq_nil_iff]
      intro child member rises
      have less := (grown.parent_lt (of_decide_eq_true rises)).1
      have range := List.mem_range'_1.mp member
      omega
    rw [split, List.filter_append, early, List.nil_append, Nat.zero_add, childrenAfter]
  · have none : (List.range table.size).filter (fun child => table.parentOf? child = some node)
        = [] := by
      rw [List.filter_eq_nil_iff]
      intro child member rises
      have less := grown.parent_lt (of_decide_eq_true rises)
      omega
    rw [none, childrenAfter, show table.size - (node + 1) = 0 by omega]
    rfl

theorem numbered_eq (grown : table.Grown) (node : Nat) :
    table.numbered node = .node node ((table.childrenOf node).map table.numbered) := by
  rw [Table.numbered_eq, grown.childrenAfter_self]

theorem induction_on_children (grown : table.Grown) {motive : Nat → Prop}
    (step : ∀ node, (∀ child ∈ table.childrenOf node, motive child) → motive node) (node : Nat) :
    motive node := by
  induction distance : table.size - node using Nat.strong_induction_on generalizing node with
  | _ bound ih =>
      apply step
      intro child member
      have less := grown.parent_lt (grown.mem_childrenOf.mp member)
      exact ih (table.size - child) (by omega) child rfl

theorem map_node_eq (grown : table.Grown) {node : Nat} {entry : Entry α} {children : List (Tree α)}
    (found : table.entries[node]? = some entry)
    (complete : children.map (map some) =
      (table.childrenAfter node node).map fun child => (table.numbered child).map table.labelOf?) :
    (Tree.node entry.label children).map some = (table.numbered node).map table.labelOf? := by
  have label : table.labelOf? node = some entry.label := by rw [labelOf?, found, Option.map_some]
  rw [grown.numbered_eq, map, map, mapAll_eq, mapAll_eq, complete, label, grown.childrenAfter_self,
    List.map_map]
  rfl

theorem assemble_eq (grown : table.Grown) (last : Nat) (below : Array (List (Tree α)))
    (inside : last < table.size) (size : below.size = table.size)
    (kept : ∀ node, node ≤ last → ((below[node]?).getD []).map (map some) =
      (table.childrenAfter node last).map fun child =>
        (table.numbered child).map table.labelOf?) :
    ∃ tree, table.assemble last below = some tree ∧
      tree.map some = (table.numbered 0).map table.labelOf? := by
  induction last generalizing below with
  | zero =>
      have found : table.entries[0]? = some table.entries[0] := Array.getElem?_eq_getElem inside
      refine ⟨.node table.entries[0].label ((below[0]?).getD []), ?_, ?_⟩
      · rw [assemble, found, Option.map_some]
      · exact grown.map_node_eq found (kept 0 le_rfl)
  | succ last ih =>
      have found : table.entries[last + 1]? = some table.entries[last + 1] :=
        Array.getElem?_eq_getElem inside
      obtain ⟨parent, rises⟩ := grown.exists_parent last.succ_pos inside
      have less := (grown.parent_lt rises).1
      have link : table.entries[last + 1].parent = some parent := by
        rwa [parentOf?, found, Option.bind_some] at rises
      have tree := grown.map_node_eq found (kept (last + 1) le_rfl)
      rw [assemble, found]
      simp only [link]
      refine ih _ (by omega) (by rw [Array.size_modify, size]) ?_
      intro node early
      have before := kept node (by omega)
      rw [childrenAfter_succ inside, rises, Array.getElem?_modify]
      by_cases same : parent = node
      · subst same
        have slot : below[parent]? = some below[parent] := Array.getElem?_eq_getElem (by omega)
        rw [slot, Option.getD_some] at before
        rw [if_pos rfl, if_pos rfl, slot, Option.map_some, Option.getD_some, List.map_cons,
          List.map_cons, before, tree]
      · rw [if_neg same, if_neg fun equal => same (Option.some.inj equal)]
        exact before

theorem toTree?_eq (grown : table.Grown) :
    ∃ tree, table.toTree? = some tree ∧ tree.map some = (table.numbered 0).map table.labelOf? := by
  have some := grown.size_pos
  refine grown.assemble_eq (table.size - 1) _ (by omega) (by simp) ?_
  intro node early
  have none : table.childrenAfter node (table.size - 1) = [] := by
    rw [childrenAfter, show table.size - (table.size - 1 + 1) = 0 by omega]
    rfl
  have slot : node < table.size := by omega
  simp [none, slot]

end Grown

end Table

end SourceSimilarity.Tree
