import SourceSimilarity.Proofs.Tree.DistanceTable

/-!
The distances are computed once more, now with tables that are laid out whole before a cell of them
is entered. Cells hold 0 until then, so one that is read too early goes unnoticed, and a negative
row or column counts from the end of its table. Every access is recorded, with the size that the
table had at that time.
-/

namespace SourceSimilarity.Tree

/-- The table of the distances of forests for one pair of key roots, and that of the distances of
trees. -/
inductive Target where
  | forests
  | trees
deriving DecidableEq, Repr

structure Access where
  writes : Bool
  target : Target
  row : Int
  column : Int
  rows : Nat
  columns : Nat
deriving DecidableEq, Repr

structure Tables where
  forests : Grid := #[]
  trees : Grid := #[]
deriving DecidableEq, Repr

namespace Tables

def grid (tables : Tables) : Target → Grid
  | .forests => tables.forests
  | .trees => tables.trees

def put (tables : Tables) (target : Target) (row column value : Nat) : Tables :=
  match target with
  | .forests => { tables with forests := tables.forests.put row column value }
  | .trees => { tables with trees := tables.trees.put row column value }

end Tables

structure Memory where
  tables : Tables := {}
  accesses : List Access := []
deriving DecidableEq, Repr

/-- A computation with the tables, which stops where it asks for a cell that its table does not
have. -/
abbrev Run (β : Type) := StateT Memory Option β

/-- The place that an index means among `count` places. A negative one counts from the end. -/
def place? (count : Nat) (index : Int) : Option Nat :=
  let counted := if index < 0 then index + count else index
  if 0 ≤ counted ∧ counted < count then some counted.toNat else none

theorem place?_ofNat {count place : Nat} (inside : place < count) :
    place? count place = some place := by
  have notNegative : ¬ (place : Int) < 0 := by omega
  simp [place?, notNegative, inside]

namespace Run

def access (writes : Bool) (target : Target) (row column : Int) :
    Run (Nat × Nat) := fun memory => do
  let grid := memory.tables.grid target
  let foundRow ← place? grid.size row
  let columns := ((grid[foundRow]?).getD #[]).size
  let foundColumn ← place? columns column
  let entry : Access := { writes, target, row, column, rows := grid.size, columns }
  return ((foundRow, foundColumn), { memory with accesses := memory.accesses ++ [entry] })

def read (target : Target) (row column : Int) : Run Nat := do
  let (foundRow, foundColumn) ← access false target row column
  return ((← get).tables.grid target).at foundRow foundColumn

def write (target : Target) (row column : Int) (value : Nat) : Run Unit := do
  let (foundRow, foundColumn) ← access true target row column
  modify fun memory => { memory with tables := memory.tables.put target foundRow foundColumn value }

def layOut (f : Tables → Tables) : Run Unit :=
  modify fun memory => { memory with tables := f memory.tables }

end Run

def Grid.bordered (rows columns : Nat) : Grid :=
  ((List.range rows).map fun row =>
    if row = 0 then Array.range columns else #[row] ++ Array.replicate (columns - 1) 0).toArray

theorem Grid.row_bordered {rows columns row : Nat} (inside : row < rows) :
    ((Grid.bordered rows columns)[row]?).getD #[] =
      if row = 0 then Array.range columns else #[row] ++ Array.replicate (columns - 1) 0 := by
  simp [Grid.bordered, inside]

theorem Grid.hasShape_bordered {rows columns : Nat} (some : 0 < columns) :
    (Grid.bordered rows columns).HasShape rows columns := by
  refine ⟨by simp [Grid.bordered], fun row inside => ?_⟩
  rw [Grid.row_bordered inside]
  split
  · exact Array.size_range
  · rw [Array.size_append, Array.size_replicate]
    exact Nat.add_sub_cancel' some

section

variable {α : Type} [DecidableEq α]

open Run in
def enterCell (a b : PostOrder α) (left top k l : Nat) : Run Unit := do
  let i : Int := k - left + 1
  let j : Int := l - top + 1
  if a.leaf k = left ∧ b.leaf l = top then
    let paired ← read .forests (i - 1) (j - 1)
    let above ← read .forests (i - 1) j
    let before ← read .forests i (j - 1)
    let d := min (min (paired + PostOrder.pairCost a b k l) (above + 1)) (before + 1)
    write .trees k l d
    write .forests i j d
  else
    let split ← read .forests (a.leaf k - left) (b.leaf l - top)
    let tree ← read .trees k l
    let above ← read .forests (i - 1) j
    let before ← read .forests i (j - 1)
    write .forests i j (min (min (split + tree) (above + 1)) (before + 1))

def enterPair (a b : PostOrder α) (p q : Nat) : Run Unit := do
  let left := a.leaf p
  let top := b.leaf q
  Run.layOut fun tables => { tables with forests := .bordered (p + 2 - left) (q + 2 - top) }
  (List.range' left (p + 1 - left)).forM fun k =>
    (List.range' top (q + 1 - top)).forM (enterCell a b left top k)

def distanceInPlace (a b : PostOrder α) : Run Nat := do
  Run.layOut fun tables => { tables with trees := .zeros a.size b.size }
  a.keyRoots.forM fun p => b.keyRoots.forM fun q => enterPair a b p q
  Run.read .trees (a.size - 1) (b.size - 1)

end

/-! ## Runs -/

namespace Run

variable {β γ : Type}

/-- From these tables a computation comes to this result and to those tables, with these accesses,
whatever was recorded before. -/
def Gives (run : Run β) (tables : Tables) (accesses : List Access) (result : β) (after : Tables) :
    Prop :=
  ∀ earlier, run.run ⟨tables, earlier⟩ = some (result, ⟨after, earlier ++ accesses⟩)

theorem Gives.bind {run : Run β} {next : β → Run γ} {tables between after : Tables}
    {accesses later : List Access} {result : β} {result' : γ}
    (first : run.Gives tables accesses result between)
    (second : (next result).Gives between later result' after) :
    (run >>= next).Gives tables (accesses ++ later) result' after := by
  intro earlier
  rw [StateT.run_bind, first earlier, ← List.append_assoc]
  exact second (earlier ++ accesses)

theorem Gives.cons {run : Run β} {next : β → Run γ} {tables between after : Tables} {x : Access}
    {later : List Access} {result : β} {result' : γ} (first : run.Gives tables [x] result between)
    (second : (next result).Gives between later result' after) :
    (run >>= next).Gives tables (x :: later) result' after :=
  first.bind second

theorem gives_layOut (f : Tables → Tables) (tables : Tables) :
    (layOut f).Gives tables [] () (f tables) := fun earlier => by
  rw [List.append_nil]
  rfl

section

variable {tables : Tables} {target : Target} {row column : Int} {rows columns : Nat}
  (place place' value : Nat) (shape : (tables.grid target).HasShape rows columns)
  (found : (row = place ∧ place < rows) ∧ column = place' ∧ place' < columns)
include shape found

theorem access_gives (writes : Bool) :
    (access writes target row column).Gives tables [⟨writes, target, row, column, rows, columns⟩]
      (place, place') tables := by
  obtain ⟨⟨rfl, insideRow⟩, rfl, insideColumn⟩ := found
  have size := shape.2 place insideRow
  intro earlier
  rw [StateT.run, access]
  simp [shape.1, size, place?_ofNat insideRow, place?_ofNat insideColumn]

theorem read_gives :
    (read target row column).Gives tables [⟨false, target, row, column, rows, columns⟩]
      ((tables.grid target).at place place') tables := fun earlier => by
  rw [read, StateT.run_bind, access_gives place place' shape found false earlier]
  rfl

theorem write_gives :
    (write target row column value).Gives tables [⟨true, target, row, column, rows, columns⟩] ()
      (tables.put target place place' value) := fun earlier => by
  rw [write, StateT.run_bind, access_gives place place' shape found true earlier]
  rfl

end

theorem forM_gives {σ : Type} (body : β → Run Unit) (step : σ → β → σ) (trace : β → List Access)
    (motive : List β → σ → Tables → Prop) (items : List β) (init : σ) (tables : Tables)
    (start : motive [] init tables)
    (follows : ∀ before item after state tables, items = before ++ item :: after →
      motive before state tables → ∃ tables', (body item).Gives tables (trace item) () tables' ∧
        motive (before ++ [item]) (step state item) tables') :
    ∃ tables', (items.forM body).Gives tables (items.flatMap trace) () tables' ∧
      motive items (items.foldl step init) tables' := by
  -- generalised to the items that are left, as for a fold alone
  suffices general : ∀ rest before state tables, items = before ++ rest →
      motive before state tables →
      ∃ tables', (rest.forM body).Gives tables (rest.flatMap trace) () tables' ∧
        motive items (rest.foldl step state) tables' from general items [] init tables rfl start
  intro rest
  induction rest with
  | nil =>
      intro before state tables split holds
      rw [List.append_nil] at split
      refine ⟨tables, fun earlier => ?_, split ▸ holds⟩
      rw [List.flatMap_nil, List.append_nil]
      rfl
  | cons item rest ih =>
      intro before state tables split holds
      obtain ⟨between, first, kept⟩ := follows before item rest state tables split holds
      obtain ⟨after, later, final⟩ := ih (before ++ [item]) (step state item) between
        (by simpa using split) kept
      exact ⟨after, first.bind later, final⟩

end Run

/-! ## One cell -/

section

variable {α : Type} [DecidableEq α] {a b : PostOrder α}

def cellAccesses (a b : PostOrder α) (p q k l : Nat) : List Access :=
  let i : Int := k - a.leaf p + 1
  let j : Int := l - b.leaf q + 1
  let forest (writes : Bool) (row column : Int) : Access :=
    ⟨writes, .forests, row, column, p + 2 - a.leaf p, q + 2 - b.leaf q⟩
  let tree (writes : Bool) : Access := ⟨writes, .trees, k, l, a.size, b.size⟩
  if a.leaf k = a.leaf p ∧ b.leaf l = b.leaf q then
    [forest false (i - 1) (j - 1), forest false (i - 1) j, forest false i (j - 1), tree true,
      forest true i j]
  else
    [forest false (a.leaf k - a.leaf p) (b.leaf l - b.leaf q), tree false, forest false (i - 1) j,
      forest false i (j - 1), forest true i j]

structure TreesMirrored (a b : PostOrder α) (trees : Grid) (tables : Tables) : Prop where
  shapeTrees : tables.trees.HasShape a.size b.size
  trees : tables.trees = trees

/-- The tables hold also the rows of a growing table of forests up to that of the node before `k`,
and the first column of the rows to come. -/
structure RowsMirrored (a b : PostOrder α) (p q k : Nat) (grown : Grid × Grid) (tables : Tables) :
    Prop extends TreesMirrored a b grown.2 tables where
  shape : tables.forests.HasShape (p + 2 - a.leaf p) (q + 2 - b.leaf q)
  size : grown.1.size = k - a.leaf p + 1
  border : ∀ row < p + 2 - a.leaf p, tables.forests.at row 0 = row
  rows : ∀ row ≤ k - a.leaf p, ∀ column < q + 2 - b.leaf q,
    tables.forests.at row column = grown.1.at row column

structure CellsMirrored (a b : PostOrder α) (p q k l : Nat) (forests : Grid) (state : RowState)
    (tables : Tables) : Prop extends RowsMirrored a b p q k (forests, state.trees) tables where
  sizeCells : state.cells.size = l - b.leaf q + 1
  cells : ∀ column ≤ l - b.leaf q,
    tables.forests.at (k - a.leaf p + 1) column = (state.cells[column]?).getD 0

variable {p q k l : Nat} {forests : Grid} {state : RowState} {tables : Tables}

omit [DecidableEq α] in
/-- A cell that is entered in place is the one that is put at the end of the growing row. -/
theorem CellsMirrored.enter (mirrored : CellsMirrored a b p q k l forests state tables)
    (leastK : a.leaf p ≤ k) (lastK : k ≤ p) (leastL : b.leaf q ≤ l) (lastL : l ≤ q) {d : Nat}
    {trees : Grid} (shapeTrees : trees.HasShape a.size b.size) :
    CellsMirrored a b p q k (l + 1) forests { cells := state.cells.push d, trees }
      ⟨tables.forests.put (k - a.leaf p + 1) (l - b.leaf q + 1) d, trees⟩ where
  shape := mirrored.shape.put d
  shapeTrees := shapeTrees
  trees := rfl
  size := mirrored.size
  border row inside := by
    rw [Grid.at_put_of_ne d (by omega)]
    exact mirrored.border row inside
  rows row early column inside := by
    rw [Grid.at_put_of_ne d (by omega)]
    exact mirrored.rows row early column inside
  sizeCells := by
    rw [Array.size_push, mirrored.sizeCells]
    omega
  cells column early := by
    have size := mirrored.sizeCells
    by_cases new : column = l - b.leaf q + 1
    · rw [new, Grid.at_put_self mirrored.shape (by omega) (by omega),
        show l - b.leaf q + 1 = state.cells.size by omega, Array.getElem?_push_size,
        Option.getD_some]
    · rw [Grid.at_put_of_ne d (by omega), Array.getElem?_push, if_neg (by omega)]
      exact mirrored.cells column (by omega)

section

variable (shape : tables.forests.HasShape (p + 2 - a.leaf p) (q + 2 - b.leaf q))
  (shapeTrees : tables.trees.HasShape a.size b.size) (insideP : p < a.size) (insideQ : q < b.size)
  (leastK : a.leaf p ≤ k) (lastK : k ≤ p) (leastL : b.leaf q ≤ l) (lastL : l ≤ q)
include shape shapeTrees insideP insideQ leastK lastK leastL lastL

theorem enterCell_gives_of_trees (same : a.leaf k = a.leaf p ∧ b.leaf l = b.leaf q) :
    let d := min (min
      (tables.forests.at (k - a.leaf p) (l - b.leaf q) + PostOrder.pairCost a b k l)
      (tables.forests.at (k - a.leaf p) (l - b.leaf q + 1) + 1))
      (tables.forests.at (k - a.leaf p + 1) (l - b.leaf q) + 1)
    (enterCell a b (a.leaf p) (b.leaf q) k l).Gives tables (cellAccesses a b p q k l) ()
      ⟨tables.forests.put (k - a.leaf p + 1) (l - b.leaf q + 1) d, tables.trees.put k l d⟩ := by
  intro d
  simp only [enterCell, cellAccesses, if_pos same]
  refine .cons (Run.read_gives (k - a.leaf p) (l - b.leaf q) shape (by omega)) ?_
  refine .cons (Run.read_gives (k - a.leaf p) (l - b.leaf q + 1) shape (by omega)) ?_
  refine .cons (Run.read_gives (k - a.leaf p + 1) (l - b.leaf q) shape (by omega)) ?_
  refine .cons (Run.write_gives k l d shapeTrees (by omega)) ?_
  exact Run.write_gives (k - a.leaf p + 1) (l - b.leaf q + 1) d shape (by omega)

/-- The cells that are read lie within the tables, since the trees of the nodes below the key roots
do. -/
theorem enterCell_gives_of_forests (differ : ¬ (a.leaf k = a.leaf p ∧ b.leaf l = b.leaf q))
    (treesK : a.leaf p ≤ a.leaf k ∧ a.leaf k ≤ k) (treesL : b.leaf q ≤ b.leaf l ∧ b.leaf l ≤ l) :
    let d := min (min
      (tables.forests.at (a.leaf k - a.leaf p) (b.leaf l - b.leaf q) + tables.trees.at k l)
      (tables.forests.at (k - a.leaf p) (l - b.leaf q + 1) + 1))
      (tables.forests.at (k - a.leaf p + 1) (l - b.leaf q) + 1)
    (enterCell a b (a.leaf p) (b.leaf q) k l).Gives tables (cellAccesses a b p q k l) ()
      ⟨tables.forests.put (k - a.leaf p + 1) (l - b.leaf q + 1) d, tables.trees⟩ := by
  intro d
  simp only [enterCell, cellAccesses, if_neg differ]
  refine .cons (Run.read_gives (a.leaf k - a.leaf p) (b.leaf l - b.leaf q) shape (by omega)) ?_
  refine .cons (Run.read_gives k l shapeTrees (by omega)) ?_
  refine .cons (Run.read_gives (k - a.leaf p) (l - b.leaf q + 1) shape (by omega)) ?_
  refine .cons (Run.read_gives (k - a.leaf p + 1) (l - b.leaf q) shape (by omega)) ?_
  exact Run.write_gives (k - a.leaf p + 1) (l - b.leaf q + 1) d shape (by omega)

end

section

variable (soundA : a.Sound) (soundB : b.Sound) (insideP : p < a.size) (insideQ : q < b.size)
include soundA soundB insideP insideQ

theorem enterCell_follows (leastK : a.leaf p ≤ k) (lastK : k ≤ p) (leastL : b.leaf q ≤ l)
    (lastL : l ≤ q) (mirrored : CellsMirrored a b p q k l forests state tables) :
    ∃ tables', (enterCell a b (a.leaf p) (b.leaf q) k l).Gives tables (cellAccesses a b p q k l) ()
        tables' ∧
      CellsMirrored a b p q k (l + 1) forests
        (fillCell a b (a.leaf p) (b.leaf q) k forests state l) tables' := by
  have shape := mirrored.shape
  have shapeTrees := mirrored.shapeTrees
  have sameTrees : tables.trees = state.trees := mirrored.trees
  have above := mirrored.rows (k - a.leaf p) le_rfl (l - b.leaf q + 1) (by omega)
  have before := mirrored.cells (l - b.leaf q) le_rfl
  by_cases same : a.leaf k = a.leaf p ∧ b.leaf l = b.leaf q
  · have paired := mirrored.rows (k - a.leaf p) le_rfl (l - b.leaf q) (by omega)
    rw [PostOrder.fillCell_of_trees forests state same, ← above, ← before, ← paired, ← sameTrees]
    exact ⟨_, enterCell_gives_of_trees shape shapeTrees insideP insideQ leastK lastK leastL lastL
      same, mirrored.enter leastK lastK leastL lastL (shapeTrees.put _)⟩
  · have treesK := soundA.closed p insideP k leastK (by omega)
    have treesL := soundB.closed q insideQ l leastL (by omega)
    have lowK := soundA.leaf_le k
    have lowL := soundB.leaf_le l
    have split := mirrored.rows (a.leaf k - a.leaf p) (by omega) (b.leaf l - b.leaf q) (by omega)
    rw [PostOrder.fillCell_of_forests forests state same, ← above, ← before, ← split, ← sameTrees]
    exact ⟨_, enterCell_gives_of_forests shape shapeTrees insideP insideQ leastK lastK leastL lastL
      same ⟨treesK, lowK⟩ ⟨treesL, lowL⟩, mirrored.enter leastK lastK leastL lastL shapeTrees⟩

/-! ## One row -/

def rowAccesses (a b : PostOrder α) (p q k : Nat) : List Access :=
  (List.range' (b.leaf q) (q + 1 - b.leaf q)).flatMap (cellAccesses a b p q k)

omit [DecidableEq α] soundA soundB insideP insideQ in
theorem RowsMirrored.first_cell {grown : Grid × Grid}
    (mirrored : RowsMirrored a b p q k grown tables) (leastK : a.leaf p ≤ k) (lastK : k ≤ p) :
    CellsMirrored a b p q k (b.leaf q) grown.1 { cells := #[k - a.leaf p + 1], trees := grown.2 }
      tables where
  toRowsMirrored := mirrored
  sizeCells := by simp
  cells column early := by
    rw [Nat.sub_self, Nat.le_zero] at early
    rw [early, mirrored.border _ (by omega)]
    rfl

omit [DecidableEq α] soundA soundB insideP insideQ in
theorem CellsMirrored.push (mirrored : CellsMirrored a b p q k (q + 1) forests state tables)
    (leastK : a.leaf p ≤ k) (low : b.leaf q ≤ q) :
    RowsMirrored a b p q (k + 1) (forests.push state.cells, state.trees) tables where
  shape := mirrored.shape
  shapeTrees := mirrored.shapeTrees
  trees := mirrored.trees
  size := by
    have size : forests.size = k - a.leaf p + 1 := mirrored.size
    rw [Array.size_push, size]
    omega
  border := mirrored.border
  rows row early column inside := by
    have size : forests.size = k - a.leaf p + 1 := mirrored.size
    change tables.forests.at row column =
      (((forests.push state.cells)[row]?).getD #[])[column]?.getD 0
    by_cases new : row = k - a.leaf p + 1
    · rw [new, ← size, Array.getElem?_push_size, Option.getD_some, size]
      exact mirrored.cells column (by omega)
    · rw [Array.getElem?_push, if_neg (by omega)]
      exact mirrored.rows row (by omega) column inside

theorem enterRow_follows {grown : Grid × Grid} (leastK : a.leaf p ≤ k) (lastK : k ≤ p)
    (mirrored : RowsMirrored a b p q k grown tables) :
    ∃ tables', ((List.range' (b.leaf q) (q + 1 - b.leaf q)).forM
        (enterCell a b (a.leaf p) (b.leaf q) k)).Gives tables (rowAccesses a b p q k) () tables' ∧
      RowsMirrored a b p q (k + 1) (fillRow a b (a.leaf p) (b.leaf q) q grown k) tables' := by
  have low := soundB.leaf_le q
  have all := Run.forM_gives (enterCell a b (a.leaf p) (b.leaf q) k)
    (fillCell a b (a.leaf p) (b.leaf q) k grown.1) (cellAccesses a b p q k)
    (fun before => CellsMirrored a b p q k (b.leaf q + before.length) grown.1)
    (List.range' (b.leaf q) (q + 1 - b.leaf q)) _ tables (mirrored.first_cell leastK lastK) ?_
  · obtain ⟨tables', run, filled⟩ := all
    rw [List.length_range', show b.leaf q + (q + 1 - b.leaf q) = q + 1 by omega] at filled
    exact ⟨tables', run, filled.push leastK low⟩
  · intro before l after state tables split mirrored
    obtain ⟨rfl, inside⟩ := eq_of_range'_split split
    rw [List.length_append, List.length_singleton, ← Nat.add_assoc]
    exact enterCell_follows soundA soundB insideP insideQ leastK lastK (by omega) (by omega)
      mirrored

/-! ## One pair of key roots -/

def pairAccesses (a b : PostOrder α) (p q : Nat) : List Access :=
  (List.range' (a.leaf p) (p + 1 - a.leaf p)).flatMap (rowAccesses a b p q)

omit [DecidableEq α] insideP insideQ in
theorem rowsMirrored_bordered {trees : Grid} (shapeTrees : trees.HasShape a.size b.size) :
    RowsMirrored a b p q (a.leaf p) (#[Array.range (q + 2 - b.leaf q)], trees)
      ⟨.bordered (p + 2 - a.leaf p) (q + 2 - b.leaf q), trees⟩ where
  shape := Grid.hasShape_bordered (by have := soundB.leaf_le q; omega)
  shapeTrees := shapeTrees
  trees := rfl
  size := by simp
  border row inside := by
    have low := soundB.leaf_le q
    rw [Grid.at, Grid.row_bordered inside]
    by_cases first : row = 0
    · have inside : 0 < q + 2 - b.leaf q := by omega
      simp [first, inside]
    · rw [if_neg first, Array.getElem?_append_left (by simp)]
      rfl
  rows row early column inside := by
    have low := soundA.leaf_le p
    obtain rfl : row = 0 := by omega
    rw [Grid.at, Grid.row_bordered (by omega), if_pos rfl]
    rfl

theorem enterPair_follows {trees : Grid} (mirrored : TreesMirrored a b trees tables) :
    ∃ tables', (enterPair a b p q).Gives tables (pairAccesses a b p q) () tables' ∧
      TreesMirrored a b (fillPair a b trees p q) tables' := by
  obtain ⟨shapeTrees, rfl⟩ := mirrored
  have low := soundA.leaf_le p
  have all := Run.forM_gives (fun k => (List.range' (b.leaf q) (q + 1 - b.leaf q)).forM
      (enterCell a b (a.leaf p) (b.leaf q) k))
    (fillRow a b (a.leaf p) (b.leaf q) q) (rowAccesses a b p q)
    (fun before => RowsMirrored a b p q (a.leaf p + before.length))
    (List.range' (a.leaf p) (p + 1 - a.leaf p)) _ _
    (rowsMirrored_bordered soundA soundB shapeTrees) ?_
  · obtain ⟨tables', run, filled⟩ := all
    exact ⟨tables', (Run.gives_layOut _ tables).bind run, filled.toTreesMirrored⟩
  · intro before k after grown tables split mirrored
    obtain ⟨rfl, inside⟩ := eq_of_range'_split split
    rw [List.length_append, List.length_singleton, ← Nat.add_assoc]
    exact enterRow_follows soundA soundB insideP insideQ (by omega) (by omega) mirrored

end

/-! ## All pairs of key roots -/

def distanceAccesses (a b : PostOrder α) : List Access :=
  (a.keyRoots.flatMap fun p => b.keyRoots.flatMap fun q => pairAccesses a b p q) ++
    [⟨false, .trees, a.size - 1, b.size - 1, a.size, b.size⟩]

theorem enterPairs_follow (soundA : a.Sound) (soundB : b.Sound) {trees : Grid}
    (mirrored : TreesMirrored a b trees tables) :
    ∃ tables', (a.keyRoots.forM fun p => b.keyRoots.forM fun q => enterPair a b p q).Gives tables
        (a.keyRoots.flatMap fun p => b.keyRoots.flatMap fun q => pairAccesses a b p q) () tables' ∧
      TreesMirrored a b (a.keyRoots.foldl
        (fun trees p => b.keyRoots.foldl (fun trees q => fillPair a b trees p q) trees) trees)
        tables' := by
  refine Run.forM_gives _ _ _ (fun _ => TreesMirrored a b) a.keyRoots trees tables mirrored ?_
  intro beforeP p afterP trees tables splitP mirrored
  have insideP := ((soundA.mem_keyRoots p).mp (by simp [splitP])).1
  refine Run.forM_gives _ _ _ (fun _ => TreesMirrored a b) b.keyRoots trees tables mirrored ?_
  intro beforeQ q afterQ trees tables splitQ mirrored
  have insideQ := ((soundB.mem_keyRoots q).mp (by simp [splitQ])).1
  exact enterPair_follows soundA soundB insideP insideQ mirrored

theorem distanceInPlace_gives (soundA : a.Sound) (soundB : b.Sound) (nonemptyA : 0 < a.size)
    (nonemptyB : 0 < b.size) (tables : Tables) :
    ∃ tables',
      (distanceInPlace a b).Gives tables (distanceAccesses a b) (editDistance a b) tables' ∧
      tables'.trees = treeDistances a b := by
  have laidOut : TreesMirrored a b (.zeros a.size b.size)
      { tables with trees := .zeros a.size b.size } := ⟨Grid.hasShape_zeros _ _, rfl⟩
  obtain ⟨tables', run, shape, trees⟩ := enterPairs_follow soundA soundB laidOut
  have value : tables'.trees.at (a.size - 1) (b.size - 1) = editDistance a b := by
    rw [trees]
    rfl
  refine ⟨tables', (Run.gives_layOut _ tables).bind (run.bind ?_), trees⟩
  rw [← value]
  exact Run.read_gives (a.size - 1) (b.size - 1) shape (by omega)

end

end SourceSimilarity.Tree
