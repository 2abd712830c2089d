import SourceSimilarity.Proofs.Tree.Traversal

/-!
The table of a tree lists its nodes in pre-order, each with its parent and with the numbers of its
children from left to right. Such a table is grown by entering one tree after the other below a node
that is there, and the nodes at or below a node have consecutive numbers.
-/

namespace SourceSimilarity.Tree

variable {α : Type}

def rootsFrom (number : Nat) : List (Tree α) → List Nat
  | [] => []
  | tree :: trees => number :: rootsFrom (number + tree.size) trees

mutual

def entriesFrom (number : Nat) (parent : Option Nat) : Tree α → List (Entry α)
  | .node label children =>
    { label, parent, children := (rootsFrom (number + 1) children).toArray } ::
      entriesAll (number + 1) number children

def entriesAll (number parent : Nat) : List (Tree α) → List (Entry α)
  | [] => []
  | tree :: trees =>
    entriesFrom number (some parent) tree ++ entriesAll (number + tree.size) parent trees

end

def toTable (tree : Tree α) : Table α where
  entries := (tree.entriesFrom 0 none).toArray

mutual

theorem length_entriesFrom (number : Nat) (parent : Option Nat) : (tree : Tree α) →
    (entriesFrom number parent tree).length = tree.size
  | .node _ children => by
    rw [entriesFrom, List.length_cons, length_entriesAll, size, Nat.add_comm]

theorem length_entriesAll (number parent : Nat) : (trees : List (Tree α)) →
    (entriesAll number parent trees).length = sizeAll trees
  | [] => rfl
  | tree :: trees => by
    rw [entriesAll, List.length_append, length_entriesFrom, length_entriesAll, sizeAll]

end

theorem modify_append_of_lt {β : Type} {front : List β} {place : Nat}
    (inside : place < front.length) (back : List β) (f : β → β) :
    (front ++ back).modify place f = front.modify place f ++ back := by
  induction front generalizing place with
  | nil => cases inside
  | cons first front ih =>
      cases place with
      | zero => rfl
      | succ place =>
          rw [List.cons_append, List.modify_succ_cons, List.modify_succ_cons, List.cons_append,
            ih (Nat.lt_of_succ_lt_succ inside)]

theorem modify_append_length {β : Type} (front : List β) (item : β) (f : β → β) :
    (front ++ [item]).modify front.length f = front ++ [f item] := by
  induction front with
  | nil => rfl
  | cons first front ih => rw [List.cons_append, List.length_cons, List.modify_succ_cons, ih]; rfl

def Entry.extend (numbers : List Nat) (entry : Entry α) : Entry α :=
  { entry with children := entry.children ++ numbers.toArray }

theorem Entry.extend_extend (entry : Entry α) (early late : List Nat) :
    (entry.extend early).extend late = entry.extend (early ++ late) := by
  simp [extend]

namespace Table

def graft (table : Table α) (parent : Nat) (trees : List (Tree α)) : Table α where
  entries := (table.entries.toList.modify parent (Entry.extend (rootsFrom table.size trees)) ++
    entriesAll table.size parent trees).toArray

variable {table : Table α}

theorem length_toList_entries (table : Table α) : table.entries.toList.length = table.size := rfl

theorem toList_entries_add (table : Table α) (label : α) (parent : Nat) :
    (table.add label (some parent)).entries.toList =
      table.entries.toList.modify parent (Entry.extend [table.size]) ++
        [{ label, parent := some parent }] := by
  rw [add, Array.toList_push, Array.toList_modify]
  congr 2

theorem size_graft (table : Table α) (parent : Nat) (trees : List (Tree α)) :
    (table.graft parent trees).size = table.size + sizeAll trees := by
  simp [graft, size, length_entriesAll]

theorem graft_nil (table : Table α) (parent : Nat) : table.graft parent [] = table := by
  have same : Entry.extend (α := α) [] = id := by
    funext entry
    simp [Entry.extend]
  simp [graft, rootsFrom, entriesAll, same]

theorem toList_entries_graft_add (table : Table α) (label : α) (parent : Nat)
    (children : List (Tree α)) :
    ((table.add label (some parent)).graft table.size children).entries.toList =
      table.entries.toList.modify parent (Entry.extend [table.size]) ++
        entriesFrom table.size (some parent) (.node label children) := by
  have last := modify_append_length
    (table.entries.toList.modify parent (Entry.extend [table.size]))
    { label, parent := some parent } (Entry.extend (rootsFrom (table.size + 1) children))
  rw [List.length_modify, length_toList_entries] at last
  rw [graft, size_add, toList_entries_add, last, entriesFrom, List.append_assoc]
  simp [Entry.extend]

theorem graft_cons {parent : Nat} (inside : parent < table.size) (label : α)
    (children trees : List (Tree α)) :
    table.graft parent (.node label children :: trees) =
      ((table.add label (some parent)).graft table.size children).graft parent trees := by
  have count : ((table.add label (some parent)).graft table.size children).size =
      table.size + (Tree.node label children).size := by
    rw [size_graft, size_add, Tree.size, Nat.add_assoc]
  have both :
      Entry.extend (rootsFrom (table.size + (Tree.node label children).size) trees) ∘
          Entry.extend [table.size] =
        (Entry.extend (rootsFrom table.size (.node label children :: trees)) :
          Entry α → Entry α) := by
    funext entry
    exact Entry.extend_extend entry _ _
  have known : parent <
      (table.entries.toList.modify parent (Entry.extend [table.size])).length := by
    rw [List.length_modify]
    exact inside
  rw [graft, graft, count, toList_entries_graft_add, modify_append_of_lt known,
    List.modify_modify_eq, both, entriesAll, List.append_assoc]

theorem Grown.graft {table : Table α} (grown : table.Grown) {parent : Nat}
    (inside : parent < table.size) : (trees : List (Tree α)) → (table.graft parent trees).Grown
  | [] => by
    rw [graft_nil]
    exact grown
  | .node label children :: trees => by
    rw [graft_cons inside]
    refine ((grown.child label inside).graft ?_ children).graft ?_ trees
    · rw [size_add]
      exact Nat.lt_succ_self _
    · rw [size_graft, size_add]
      omega
termination_by trees => sizeAll trees
decreasing_by
  all_goals simp only [sizeAll, Tree.size]
  all_goals omega

theorem graft_root (label : α) (children : List (Tree α)) :
    (empty.add label none).graft 0 children = (Tree.node label children).toTable := by
  simp [graft, toTable, entriesFrom, add, empty, size, Entry.extend]

theorem grown_toTable (tree : Tree α) : tree.toTable.Grown := by
  obtain ⟨label, children⟩ := tree
  rw [← graft_root]
  exact (Grown.root label).graft (Nat.lt_succ_self 0) children

/-- The table has the entries of the trees in their place, behind those of the nodes before. -/
def Holds (table : Table α) (number : Nat) (entries : List (Entry α)) : Prop :=
  ∃ front back, table.entries.toList = front ++ entries ++ back ∧ front.length = number

theorem Holds.left {number : Nat} {early late : List (Entry α)}
    (holds : table.Holds number (early ++ late)) : table.Holds number early := by
  obtain ⟨front, back, listed, count⟩ := holds
  exact ⟨front, late ++ back, by rw [listed, List.append_assoc, List.append_assoc,
    List.append_assoc], count⟩

theorem Holds.right {number : Nat} {early late : List (Entry α)}
    (holds : table.Holds number (early ++ late)) : table.Holds (number + early.length) late := by
  obtain ⟨front, back, listed, rfl⟩ := holds
  exact ⟨front ++ early, back, by rw [listed, ← List.append_assoc], List.length_append⟩

section

variable {number : Nat} {parent : Option Nat} {label : α} {children : List (Tree α)}
  (holds : table.Holds number (entriesFrom number parent (.node label children)))
include holds

theorem Holds.entry : table.entries[number]? =
    some { label, parent, children := (rootsFrom (number + 1) children).toArray } := by
  obtain ⟨front, back, listed, rfl⟩ := holds
  rw [← Array.getElem?_toList, listed, List.append_assoc,
    List.getElem?_append_right (Nat.le_refl _), Nat.sub_self, entriesFrom]
  rfl

theorem Holds.childrenOf_eq : table.childrenOf number = rootsFrom (number + 1) children := by
  rw [childrenOf, holds.entry]

theorem Holds.labelOf?_eq : table.labelOf? number = some label := by
  rw [labelOf?, holds.entry, Option.map_some]

theorem Holds.below : table.Holds (number + 1) (entriesAll (number + 1) number children) := by
  rw [entriesFrom, ← List.singleton_append] at holds
  exact holds.right

end

theorem Holds.behind {number parent : Nat} {tree : Tree α} {trees : List (Tree α)}
    (holds : table.Holds number (entriesAll number parent (tree :: trees))) :
    table.Holds (number + tree.size) (entriesAll (number + tree.size) parent trees) := by
  rw [entriesAll] at holds
  have rest := holds.right
  rw [length_entriesFrom] at rest
  exact rest

theorem Holds.first {number parent : Nat} {tree : Tree α} {trees : List (Tree α)}
    (holds : table.Holds number (entriesAll number parent (tree :: trees))) :
    table.Holds number (entriesFrom number (some parent) tree) := by
  rw [entriesAll] at holds
  exact holds.left

namespace Grown

mutual

theorem preOrder_of_holds (grown : table.Grown) {number : Nat} {parent : Option Nat} :
    (tree : Tree α) → table.Holds number (entriesFrom number parent tree) →
      table.preOrder number = List.range' number tree.size
  | .node _ children, holds => by
    rw [grown.preOrder_eq, holds.childrenOf_eq, preOrderAll_of_holds grown children holds.below,
      Tree.size, Nat.add_comm 1, List.range'_succ]

theorem preOrderAll_of_holds (grown : table.Grown) {number parent : Nat} :
    (trees : List (Tree α)) → table.Holds number (entriesAll number parent trees) →
      (rootsFrom number trees).flatMap table.preOrder = List.range' number (sizeAll trees)
  | [], _ => rfl
  | tree :: trees, holds => by
    rw [rootsFrom, List.flatMap_cons, preOrder_of_holds grown tree holds.first,
      preOrderAll_of_holds grown trees holds.behind, sizeAll, List.range'_append_1]

end

mutual

theorem map_numbered_of_holds (grown : table.Grown) {number : Nat} {parent : Option Nat} :
    (tree : Tree α) → table.Holds number (entriesFrom number parent tree) →
      (table.numbered number).map table.labelOf? = tree.map some
  | .node _ children, holds => by
    rw [grown.numbered_eq, Tree.map, Tree.map, holds.labelOf?_eq, holds.childrenOf_eq,
      mapAll_numbered_of_holds grown children holds.below]

theorem mapAll_numbered_of_holds (grown : table.Grown) {number parent : Nat} :
    (trees : List (Tree α)) → table.Holds number (entriesAll number parent trees) →
      mapAll table.labelOf? ((rootsFrom number trees).map table.numbered) = mapAll some trees
  | [], _ => rfl
  | tree :: trees, holds => by
    rw [rootsFrom, List.map_cons, mapAll, mapAll, map_numbered_of_holds grown tree holds.first,
      mapAll_numbered_of_holds grown trees holds.behind]

end

theorem preOrder_infix (grown : table.Grown) {node : Nat} (inside : node < table.size) :
    table.preOrder node <:+: table.preOrder 0 := by
  induction node using Nat.strong_induction_on with
  | _ node ih =>
      by_cases first : node = 0
      · rw [first]
      · obtain ⟨parent, rises⟩ := grown.exists_parent (Nat.pos_of_ne_zero first) inside
        have less := (grown.parent_lt rises).1
        refine List.IsInfix.trans ?_ (ih parent less (less.trans inside))
        obtain ⟨early, late, children⟩ := List.append_of_mem (grown.mem_childrenOf.mpr rises)
        refine ⟨parent :: early.flatMap table.preOrder, late.flatMap table.preOrder, ?_⟩
        rw [grown.preOrder_eq parent, children, List.flatMap_append, List.flatMap_cons,
          List.cons_append, List.cons_append, List.append_assoc]

theorem exists_stop (grown : table.Grown) (numbered : table.preOrder 0 = List.range table.size)
    {node : Nat} (inside : node < table.size) :
    ∃ stop, ∀ lower, table.AtOrAbove node lower ↔ node ≤ lower ∧ lower < stop := by
  obtain ⟨before, after, split⟩ := grown.preOrder_infix inside
  rw [numbered, List.range_eq_range', List.append_assoc] at split
  obtain ⟨_, -, -, rest⟩ := List.range'_eq_append_iff.mp split.symm
  obtain ⟨length, -, here, -⟩ := List.range'_eq_append_iff.mp rest.symm
  -- a subtree starts with its root
  have start := here
  rw [grown.preOrder_eq] at start
  cases length with
  | zero => cases start
  | succ length =>
      rw [List.range'_succ, List.cons.injEq] at start
      rw [← start.1] at here
      refine ⟨node + (length + 1), fun lower => ?_⟩
      rw [← grown.mem_preOrder, here, List.mem_range'_1]

end Grown

theorem holds_toTable (tree : Tree α) : tree.toTable.Holds 0 (entriesFrom 0 none tree) :=
  ⟨[], [], by simp [toTable], rfl⟩

theorem preOrder_toTable (tree : Tree α) :
    tree.toTable.preOrder 0 = List.range tree.toTable.size := by
  rw [(grown_toTable tree).preOrder_of_holds tree (holds_toTable tree), List.range_eq_range',
    toTable, size, List.size_toArray, length_entriesFrom]

theorem toTree?_toTable (tree : Tree α) : tree.toTable.toTree? = some tree := by
  obtain ⟨other, found, assembled⟩ := (grown_toTable tree).toTree?_eq
  have labels := (grown_toTable tree).map_numbered_of_holds tree (holds_toTable tree)
  rw [found, map_injective (Option.some_injective α) other tree (assembled.trans labels)]

/-- Tables in which every node but the first has a parent with a smaller number, the children of a
node are the nodes that name it, in ascending order, and a subtree has consecutive numbers. -/
structure PreOrdered (table : Table α) : Prop where
  nonempty : 0 < table.size
  parent_root : table.parentOf? 0 = none
  exists_parent : ∀ node, 0 < node → node < table.size →
    ∃ parent < node, table.parentOf? node = some parent
  ascending : ∀ node, (table.childrenOf node).Pairwise (· < ·)
  mem_children : ∀ node child, child ∈ table.childrenOf node ↔ table.parentOf? child = some node
  contiguous : ∀ node < table.size,
    ∃ stop, ∀ lower, table.AtOrAbove node lower ↔ node ≤ lower ∧ lower < stop

theorem preOrdered_toTable (tree : Tree α) : tree.toTable.PreOrdered := by
  have grown := grown_toTable tree
  refine ⟨grown.size_pos, grown.parentOf?_root, ?_, grown.childrenOf_sorted,
    fun node child => grown.mem_childrenOf, fun node inside =>
      grown.exists_stop (preOrder_toTable tree) inside⟩
  intro node later inside
  obtain ⟨parent, rises⟩ := grown.exists_parent later inside
  exact ⟨parent, (grown.parent_lt rises).1, rises⟩

end Table

end SourceSimilarity.Tree
