import SourceSimilarity.Tree.Table

namespace SourceSimilarity.Tree

variable {α : Type}

/-- The labels in post-order, for every node the place of its leftmost leaf, and the key roots: the
root and all nodes that are not the first child of their parent, in ascending order. -/
structure PostOrder (α : Type) where
  labels : Array α
  leftmost : Array Nat
  keyRoots : List Nat
deriving DecidableEq, Repr

def PostOrder.size (view : PostOrder α) : Nat := view.labels.size

mutual

/-- The places of the leftmost leaves of a tree whose nodes stand from `start` on. The first node to
stand there is the leftmost leaf of the whole tree. -/
def leftmostFrom (start : Nat) : Tree α → List Nat
  | .node _ children => leftmostAll start children ++ [start]

def leftmostAll (start : Nat) : List (Tree α) → List Nat
  | [] => []
  | tree :: trees =>
    let here := leftmostFrom start tree
    here ++ leftmostAll (start + here.length) trees

end

mutual

/-- The key roots of a tree that ends before `start + size`, and its number of nodes. `isKey` tells
whether the root of the tree is one. -/
def keyRootsFrom (start : Nat) (isKey : Bool) : Tree α → List Nat × Nat
  | .node _ children =>
    let (below, count) := keyRootsAll start false children
    (below ++ (if isKey then [start + count] else []), count + 1)

/-- The key roots of a list of children, of which the first is no key root unless `isKey`. -/
def keyRootsAll (start : Nat) (isKey : Bool) : List (Tree α) → List Nat × Nat
  | [] => ([], 0)
  | tree :: trees =>
    let (here, count) := keyRootsFrom start isKey tree
    let (later, more) := keyRootsAll (start + count) true trees
    (here ++ later, count + more)

end

def PostOrder.ofTree (tree : Tree α) : PostOrder α where
  labels := tree.postOrder.toArray
  leftmost := (leftmostFrom 0 tree).toArray
  keyRoots := (keyRootsFrom 0 true tree).1

/-- The post-order view of a stored tree; none for the empty table. A node outside the tree of the
root has no place of its own, and 0 is entered for its leaf behind the others. -/
def PostOrder.ofTable? (table : Table α) : Option (PostOrder α) :=
  table.toTree?.map fun tree =>
    let view := PostOrder.ofTree tree
    { view with leftmost := view.leftmost ++ Array.replicate (table.size - view.leftmost.size) 0 }

end SourceSimilarity.Tree
