import SourceSimilarity.Tree.Basic

/-!
Trees stored as tables. Every node has a number, its place in the order of entry, and names its
parent by number, so a parent is always entered before its children. Node 0 is the root; a node
entered later without a parent starts a tree of its own and is not part of the tree of the root.
-/

namespace SourceSimilarity.Tree

variable {α : Type}

structure Entry (α : Type) where
  label : α
  parent : Option Nat
  children : Array Nat := #[]
deriving Repr

structure Table (α : Type) where
  entries : Array (Entry α) := #[]
deriving Repr

inductive EntryError where
  | unknownParent (parent : Nat)
  | ownParent (node : Nat)
deriving DecidableEq, Repr

namespace Table

def empty : Table α := {}

def size (table : Table α) : Nat := table.entries.size

def childrenOf (table : Table α) (number : Nat) : List Nat :=
  match table.entries[number]? with
  | some entry => entry.children.toList
  | none => []

def add (table : Table α) (label : α) (parent : Option Nat) : Table α :=
  let linked := match parent with
    | none => table.entries
    | some parent => table.entries.modify parent fun entry =>
      { entry with children := entry.children.push table.size }
  { entries := linked.push { label, parent } }

def add? (table : Table α) (label : α) (parent : Option Nat) : Except EntryError (Table α) :=
  match parent with
  | none => .ok (table.add label none)
  | some parent =>
    if parent < table.size then .ok (table.add label (some parent))
    else if parent = table.size then .error (.ownParent parent)
    else .error (.unknownParent parent)

def ofRows (rows : List (α × Option Nat)) : Except EntryError (Table α) :=
  rows.foldlM (fun table row => table.add? row.1 row.2) empty

/-- The tree of node 0, made by giving every node from number `last` down its tree. `below` holds
the trees of the later nodes by their parents. Children have greater numbers, so going down every
node finds its own children complete. -/
def assemble (table : Table α) : Nat → Array (List (Tree α)) → Option (Tree α)
  | 0, below => table.entries[0]?.map fun entry => .node entry.label ((below[0]?).getD [])
  | last + 1, below =>
    match table.entries[last + 1]? with
    | none => assemble table last below
    | some entry =>
      let tree := .node entry.label ((below[last + 1]?).getD [])
      assemble table last <| match entry.parent with
        | none => below
        | some parent => below.modify parent (tree :: ·)

/-- The tree of the root; none for the empty table. -/
def toTree? (table : Table α) : Option (Tree α) :=
  table.assemble (table.size - 1) (Array.replicate table.size [])

@[simp] theorem size_empty : (empty : Table α).size = 0 := rfl

@[simp] theorem size_add (table : Table α) (label : α) (parent : Option Nat) :
    (table.add label parent).size = table.size + 1 := by
  cases parent <;> simp [add, size]

end Table

end SourceSimilarity.Tree
