import SourceSimilarity.Tree.PostOrder

/-!
The edit distance of two labelled ordered trees, where inserting a node, deleting a node and
changing a label cost one each. It is computed over the post-order views: for every pair of key
roots a table of the distances between the forests that start at their leftmost leaves. Where both
forests are trees their distance is entered into a table of tree distances, which the later pairs
read.
-/

namespace SourceSimilarity.Tree

variable {α : Type} [DecidableEq α]

abbrev Grid := Array (Array Nat)

/-- The number at a place, 0 outside the grid. -/
def Grid.at (grid : Grid) (row column : Nat) : Nat := ((grid[row]?).getD #[])[column]?.getD 0

def Grid.put (grid : Grid) (row column value : Nat) : Grid :=
  grid.modify row fun cells => cells.setIfInBounds column value

def Grid.zeros (rows columns : Nat) : Grid := Array.replicate rows (Array.replicate columns 0)

structure RowState where
  cells : Array Nat
  trees : Grid

/-- Fills the cell of the nodes `k` and `l`, in the tables of the key roots whose leftmost leaves
are `left` and `top`. `forests` holds the rows before this one, the last of them for the node before
`k`. -/
def fillCell (a b : PostOrder α) (left top k : Nat) (forests : Grid) (state : RowState) (l : Nat) :
    RowState :=
  let row := k - left + 1
  let column := l - top + 1
  let fromAbove := forests.at (row - 1) column + 1
  let fromLeft := (state.cells[column - 1]?).getD 0 + 1
  let leafA := (a.leftmost[k]?).getD 0
  let leafB := (b.leftmost[l]?).getD 0
  if leafA = left ∧ leafB = top then
    let cost := if a.labels[k]? = b.labels[l]? then 0 else 1
    let d := min (min (forests.at (row - 1) (column - 1) + cost) fromAbove) fromLeft
    { cells := state.cells.push d, trees := state.trees.put k l d }
  else
    let split := forests.at (leafA - left) (leafB - top) + state.trees.at k l
    { state with cells := state.cells.push (min (min split fromAbove) fromLeft) }

/-- Fills the row of the node `k` from the first column on, for the columns of `top` to `q`. -/
def fillRow (a b : PostOrder α) (left top q : Nat) (tables : Grid × Grid) (k : Nat) : Grid × Grid :=
  let (forests, trees) := tables
  let first : RowState := { cells := #[k - left + 1], trees }
  let filled := (List.range' top (q + 1 - top)).foldl (fillCell a b left top k forests) first
  (forests.push filled.cells, filled.trees)

/-- Fills the table of tree distances for all nodes that share their leftmost leaf with the key root
`p` in `a` and with the key root `q` in `b`. -/
def fillPair (a b : PostOrder α) (trees : Grid) (p q : Nat) : Grid :=
  let left := (a.leftmost[p]?).getD 0
  let top := (b.leftmost[q]?).getD 0
  let first : Grid := #[Array.range (q + 2 - top)]
  ((List.range' left (p + 1 - left)).foldl (fillRow a b left top q) (first, trees)).2

/-- The table of the distances of all pairs of subtrees. -/
def treeDistances (a b : PostOrder α) : Grid :=
  a.keyRoots.foldl
    (fun trees p => b.keyRoots.foldl (fun trees q => fillPair a b trees p q) trees)
    (Grid.zeros a.size b.size)

/-- The least number of insertions, deletions and changes of labels that turn one tree into the
other, by their post-order views. -/
def editDistance (a b : PostOrder α) : Nat := (treeDistances a b).at (a.size - 1) (b.size - 1)

end SourceSimilarity.Tree
