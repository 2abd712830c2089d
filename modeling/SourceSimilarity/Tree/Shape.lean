import SourceSimilarity.Tree.Table

/-!
Names for the shapes of rooted trees. The name of a node is a `1`, the names of its children in
ascending order, and a `0`. Labels and the order of siblings leave no trace in it. In a table the
nodes are named from the last one on, and a name is erased as soon as that of the parent holds it.
-/

namespace SourceSimilarity.Tree

def nodeName (names : List (List Char)) : List Char :=
  '1' :: (names.mergeSort (fun s t => !decide (t < s))).flatten ++ ['0']

namespace Table

variable {α : Type}

def eraseNames (children : List Nat) (names : Array (Option (List Char))) :
    Array (Option (List Char)) :=
  children.foldl (fun names child => names.setIfInBounds child none) names

/-- Names a node by the names of its children, which all have to be there, and erases these. -/
def nameNode? (table : Table α) (names : Array (Option (List Char))) (node : Nat) :
    Option (Array (Option (List Char))) := do
  let children := table.childrenOf node
  let parts ← children.mapM fun child => names[child]?.join
  pure ((eraseNames children names).setIfInBounds node (some (nodeName parts)))

def nameNodes? (table : Table α) : Nat → Array (Option (List Char)) →
    Option (Array (Option (List Char)))
  | 0, names => some names
  | last + 1, names => do nameNodes? table last (← table.nameNode? names last)

/-- The name of the shape of a stored tree, empty for the empty table. -/
def shapeName (table : Table α) : List Char :=
  ((table.nameNodes? table.size (Array.replicate table.size none)).bind (·[0]?.join)).getD []

end Table

end SourceSimilarity.Tree
