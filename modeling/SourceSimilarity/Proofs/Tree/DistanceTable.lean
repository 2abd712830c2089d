import SourceSimilarity.Tree.EditDistance
import SourceSimilarity.Proofs.Tree.Window

namespace SourceSimilarity.Tree

theorem foldl_split {β σ : Type} (f : σ → β → σ) (motive : List β → σ → Prop) (items : List β)
    (init : σ) (start : motive [] init)
    (step : ∀ before item after state, items = before ++ item :: after → motive before state →
      motive (before ++ [item]) (f state item)) :
    motive items (items.foldl f init) := by
  -- generalised to the items that are left, the ones before being those of the induction
  suffices general : ∀ rest before state, items = before ++ rest → motive before state →
      motive items (rest.foldl f state) from general items [] init rfl start
  intro rest
  induction rest with
  | nil =>
      intro before state split holds
      rw [List.append_nil] at split
      rwa [split]
  | cons item rest ih =>
      intro before state split holds
      exact ih (before ++ [item]) (f state item) (by simpa using split)
        (step before item rest state split holds)

theorem eq_of_range'_split {start count item : Nat} {before after : List Nat}
    (split : List.range' start count = before ++ item :: after) :
    item = start + before.length ∧ before.length < count := by
  have length := congrArg List.length split
  have entry := congrArg (·[before.length]?) split
  simp only [List.length_range', List.length_append, List.length_cons] at length
  simp [show before.length < count by omega] at entry
  omega

theorem mem_before_of_sorted {β : Type} {r : β → β → Prop} (asymm : ∀ x y, r x y → ¬ r y x)
    {items before after : List β} {item earlier : β} (sorted : items.Pairwise r)
    (split : items = before ++ item :: after) (member : earlier ∈ items) (less : r earlier item) :
    earlier ∈ before := by
  subst split
  obtain ⟨-, later, -⟩ := List.pairwise_append.mp sorted
  rcases List.mem_append.mp member with inside | inside
  · exact inside
  · rcases List.mem_cons.mp inside with rfl | inside
    · exact absurd less (asymm _ _ less)
    · exact absurd less (asymm _ _ (List.rel_of_pairwise_cons later inside))

namespace Grid

def HasShape (grid : Grid) (rows columns : Nat) : Prop :=
  grid.size = rows ∧ ∀ row, row < rows → ((grid[row]?).getD #[]).size = columns

variable {grid : Grid} {rows columns row column : Nat}

theorem hasShape_zeros (rows columns : Nat) : (zeros rows columns).HasShape rows columns := by
  constructor
  · simp [zeros]
  · intro row inside
    simp [zeros, inside]

theorem row_put (grid : Grid) (row column value other : Nat) :
    ((grid.put row column value)[other]?).getD #[] =
      if row = other then ((grid[other]?).getD #[]).setIfInBounds column value
      else (grid[other]?).getD #[] := by
  unfold Grid.put
  rw [Array.getElem?_modify]
  split
  · cases grid[other]? <;> simp
  · rfl

theorem HasShape.put (shape : grid.HasShape rows columns) (value : Nat) :
    (grid.put row column value).HasShape rows columns := by
  constructor
  · simp [Grid.put, shape.1]
  · intro other inside
    have size := shape.2 other inside
    rw [row_put]
    split
    · rw [Array.size_setIfInBounds, size]
    · exact size

theorem at_put_self (shape : grid.HasShape rows columns) (insideRow : row < rows)
    (insideColumn : column < columns) (value : Nat) :
    (grid.put row column value).at row column = value := by
  have size := shape.2 row insideRow
  unfold Grid.at
  rw [row_put, if_pos rfl, Array.getElem?_setIfInBounds_self_of_lt (size ▸ insideColumn),
    Option.getD_some]

theorem at_put_of_ne {otherRow otherColumn : Nat} (value : Nat)
    (differ : ¬ (otherRow = row ∧ otherColumn = column)) :
    (grid.put row column value).at otherRow otherColumn = grid.at otherRow otherColumn := by
  unfold Grid.at
  rw [row_put]
  split
  · rename_i same
    rw [Array.getElem?_setIfInBounds_ne fun equal => differ ⟨same.symm, equal.symm⟩]
  · rfl

end Grid

namespace PostOrder

variable {α : Type} [DecidableEq α] {a b : PostOrder α}

/-- The entries of these pairs of nodes are the distances of their trees. -/
structure Settled (a b : PostOrder α) (trees : Grid) (done : Nat → Nat → Prop) : Prop where
  shape : trees.HasShape a.size b.size
  entries : ∀ k l, k < a.size → l < b.size → done k l → trees.at k l = treeDistance a b k l

theorem Settled.mono {trees : Grid} {done fewer : Nat → Nat → Prop} (settled : Settled a b trees done)
    (sub : ∀ k l, k < a.size → l < b.size → fewer k l → done k l) : Settled a b trees fewer where
  shape := settled.shape
  entries k l insideK insideL member := settled.entries k l insideK insideL (sub k l insideK insideL member)

theorem Settled.put {trees : Grid} {done : Nat → Nat → Prop} {k l value : Nat}
    (settled : Settled a b trees done) (correct : value = treeDistance a b k l) :
    Settled a b (trees.put k l value) (fun k' l' => done k' l' ∨ (k' = k ∧ l' = l)) where
  shape := settled.shape.put value
  entries k' l' insideK insideL member := by
    by_cases here : k' = k ∧ l' = l
    · obtain ⟨rfl, rfl⟩ := here
      rw [Grid.at_put_self settled.shape insideK insideL, correct]
    · rw [Grid.at_put_of_ne value here]
      exact settled.entries k' l' insideK insideL (member.resolve_right here)

theorem fillCell_of_trees {left top k l : Nat} (forests : Grid) (state : RowState)
    (same : a.leaf k = left ∧ b.leaf l = top) :
    fillCell a b left top k forests state l =
      let d := min (min (forests.at (k - left) (l - top) + pairCost a b k l)
        (forests.at (k - left) (l - top + 1) + 1)) ((state.cells[l - top]?).getD 0 + 1)
      { cells := state.cells.push d, trees := state.trees.put k l d } :=
  if_pos same

theorem fillCell_of_forests {left top k l : Nat} (forests : Grid) (state : RowState)
    (differ : ¬ (a.leaf k = left ∧ b.leaf l = top)) :
    fillCell a b left top k forests state l =
      { cells := state.cells.push (min (min
          (forests.at (a.leaf k - left) (b.leaf l - top) + state.trees.at k l)
          (forests.at (k - left) (l - top + 1) + 1)) ((state.cells[l - top]?).getD 0 + 1))
        trees := state.trees } :=
  if_neg differ

structure RowsFilled (a b : PostOrder α) (p q k : Nat) (forests : Grid) : Prop where
  size : forests.size = k - a.leaf p + 1
  cells : ∀ k' l, a.leaf p ≤ k' → k' ≤ k → b.leaf q ≤ l → l ≤ q + 1 →
    forests.at (k' - a.leaf p) (l - b.leaf q) = forestDistance a b (a.leaf p) k' (b.leaf q) l

/-- The pairs entered for two key roots when the cell of `k` and `l` is next, and all earlier ones. -/
def Entered (a b : PostOrder α) (p q k l : Nat) (earlier : Nat → Nat → Prop) (k' l' : Nat) : Prop :=
  earlier k' l' ∨ ((a.leaf k' = a.leaf p ∧ b.leaf l' = b.leaf q) ∧
    (k' < k ∧ l' ≤ q ∨ k' = k ∧ l' < l))

omit [DecidableEq α] in
theorem Entered.of_succ {p q k l k' l' : Nat} {earlier : Nat → Nat → Prop}
    (entered : Entered a b p q k (l + 1) earlier k' l') :
    Entered a b p q k l earlier k' l' ∨ (k' = k ∧ l' = l) := by
  rcases entered with before | ⟨same, place⟩
  · exact .inl (.inl before)
  · by_cases here : k' = k ∧ l' = l
    · exact .inr here
    · exact .inl (.inr ⟨same, by omega⟩)

structure CellsFilled (a b : PostOrder α) (p q k l : Nat) (earlier : Nat → Nat → Prop)
    (state : RowState) : Prop where
  size : state.cells.size = l - b.leaf q + 1
  cells : ∀ l', b.leaf q ≤ l' → l' ≤ l →
    (state.cells[l' - b.leaf q]?).getD 0 = forestDistance a b (a.leaf p) (k + 1) (b.leaf q) l'
  trees : Settled a b state.trees (Entered a b p q k l earlier)

/-- All pairs of nodes below two key roots that are not entered for them were entered earlier. -/
def Ready (a b : PostOrder α) (p q : Nat) (earlier : Nat → Nat → Prop) : Prop :=
  ∀ k l, a.leaf p ≤ k → k ≤ p → b.leaf q ≤ l → l ≤ q →
    ¬ (a.leaf k = a.leaf p ∧ b.leaf l = b.leaf q) → earlier k l

variable {p q k l : Nat} {earlier : Nat → Nat → Prop} {forests : Grid} {state : RowState}

theorem CellsFilled.push (filled : CellsFilled a b p q k l earlier state) (least : b.leaf q ≤ l)
    {d : Nat} (correct : d = forestDistance a b (a.leaf p) (k + 1) (b.leaf q) (l + 1)) (l' : Nat)
    (leastL' : b.leaf q ≤ l') (lastL' : l' ≤ l + 1) :
    ((state.cells.push d)[l' - b.leaf q]?).getD 0 =
      forestDistance a b (a.leaf p) (k + 1) (b.leaf q) l' := by
  have size := filled.size
  by_cases new : l' = l + 1
  · subst new
    rw [show l + 1 - b.leaf q = state.cells.size by omega, Array.getElem?_push_size,
      Option.getD_some, correct]
  · rw [Array.getElem?_push, if_neg (by omega)]
    exact filled.cells l' leastL' (by omega)

theorem RowsFilled.push {cells : Array Nat} (rows : RowsFilled a b p q k forests)
    (leastK : a.leaf p ≤ k)
    (correct : ∀ l, b.leaf q ≤ l → l ≤ q + 1 →
      (cells[l - b.leaf q]?).getD 0 = forestDistance a b (a.leaf p) (k + 1) (b.leaf q) l) :
    RowsFilled a b p q (k + 1) (forests.push cells) where
  size := by
    rw [Array.size_push, rows.size]
    omega
  cells k' l leastK' lastK' leastL lastL := by
    have size := rows.size
    unfold Grid.at
    by_cases new : k' = k + 1
    · subst new
      rw [show k + 1 - a.leaf p = forests.size by omega, Array.getElem?_push_size, Option.getD_some]
      exact correct l leastL lastL
    · rw [Array.getElem?_push, if_neg (by omega)]
      exact rows.cells k' l leastK' (by omega) leastL lastL

variable (soundA : a.Sound) (soundB : b.Sound)
include soundA soundB

theorem fillCell_spec (insideP : p < a.size) (insideQ : q < b.size)
    (ready : Ready a b p q earlier) (leastK : a.leaf p ≤ k) (lastK : k ≤ p)
    (leastL : b.leaf q ≤ l) (lastL : l ≤ q) (rows : RowsFilled a b p q k forests)
    (filled : CellsFilled a b p q k l earlier state) :
    CellsFilled a b p q k (l + 1) earlier
      (fillCell a b (a.leaf p) (b.leaf q) k forests state l) := by
  have size := filled.size
  have above := rows.cells k (l + 1) leastK le_rfl (by omega) (by omega)
  have before := filled.cells l leastL le_rfl
  rw [show l + 1 - b.leaf q = l - b.leaf q + 1 by omega] at above
  by_cases same : a.leaf k = a.leaf p ∧ b.leaf l = b.leaf q
  · have diagonal := rows.cells k l leastK le_rfl leastL (by omega)
    rw [fillCell_of_trees forests state same, above, before, diagonal, ← same.1, ← same.2,
      ← forestDistance_succ_of_trees soundA.leaf_le soundB.leaf_le k l]
    refine ⟨?_, ?_, ?_⟩
    · rw [Array.size_push]
      omega
    · exact filled.push leastL (by rw [same.1, same.2])
    · exact (filled.trees.put rfl).mono fun _ _ _ _ entered => entered.of_succ
  · have treesK := soundA.closed p insideP k leastK (by omega)
    have treesL := soundB.closed q insideQ l leastL (by omega)
    have lowK := soundA.leaf_le k
    have lowL := soundB.leaf_le l
    have split := rows.cells (a.leaf k) (b.leaf l) treesK lowK treesL (by omega)
    -- this pair of trees belongs to earlier key roots, so its entry is in place
    have tree := filled.trees.entries k l (by omega) (by omega)
      (.inl (ready k l leastK lastK leastL lastL same))
    rw [fillCell_of_forests forests state same, above, before, split, tree,
      ← forestDistance_succ_of_forests soundA.leaf_le soundB.leaf_le treesK treesL
        (soundA.closed k (by omega)) (soundB.closed l (by omega))]
    refine ⟨?_, ?_, ?_⟩
    · rw [Array.size_push]
      omega
    · exact filled.push leastL rfl
    · refine filled.trees.mono ?_
      intro k' l' _ _ entered
      rcases entered.of_succ with before | ⟨rfl, rfl⟩
      · exact before
      · exact .inl (ready _ _ leastK lastK leastL lastL same)

theorem fillCells_spec (insideP : p < a.size) (insideQ : q < b.size)
    (ready : Ready a b p q earlier) (leastK : a.leaf p ≤ k) (lastK : k ≤ p)
    (rows : RowsFilled a b p q k forests)
    (filled : CellsFilled a b p q k (b.leaf q) earlier state) :
    CellsFilled a b p q k (q + 1) earlier
      ((List.range' (b.leaf q) (q + 1 - b.leaf q)).foldl
        (fillCell a b (a.leaf p) (b.leaf q) k forests) state) := by
  have low := soundB.leaf_le q
  have all := foldl_split (fillCell a b (a.leaf p) (b.leaf q) k forests)
    (fun before state => CellsFilled a b p q k (b.leaf q + before.length) earlier state)
    (List.range' (b.leaf q) (q + 1 - b.leaf q)) state filled ?_
  · rw [List.length_range', show b.leaf q + (q + 1 - b.leaf q) = q + 1 by omega] at all
    exact all
  · intro before l after state split filled
    obtain ⟨rfl, inside⟩ := eq_of_range'_split split
    rw [List.length_append, List.length_singleton, ← Nat.add_assoc]
    exact fillCell_spec soundA soundB insideP insideQ ready leastK lastK (by omega) (by omega)
      rows filled

theorem fillRow_spec {trees : Grid} (insideP : p < a.size) (insideQ : q < b.size)
    (ready : Ready a b p q earlier) (leastK : a.leaf p ≤ k) (lastK : k ≤ p)
    (rows : RowsFilled a b p q k forests)
    (settled : Settled a b trees (Entered a b p q k (b.leaf q) earlier)) :
    RowsFilled a b p q (k + 1) (fillRow a b (a.leaf p) (b.leaf q) q (forests, trees) k).1 ∧
      Settled a b (fillRow a b (a.leaf p) (b.leaf q) q (forests, trees) k).2
        (Entered a b p q (k + 1) (b.leaf q) earlier) := by
  have first : CellsFilled a b p q k (b.leaf q) earlier
      { cells := #[k - a.leaf p + 1], trees } := by
    refine ⟨by simp, ?_, settled⟩
    intro l' least last
    obtain rfl : l' = b.leaf q := le_antisymm last least
    rw [forestDistance_no_columns, Nat.sub_self]
    simp only [List.getElem?_toArray, List.getElem?_cons_zero, Option.getD_some]
    omega
  have filled := fillCells_spec soundA soundB insideP insideQ ready leastK lastK rows first
  refine ⟨rows.push leastK filled.cells, filled.trees.mono ?_⟩
  intro k' l' _ _ entered
  rcases entered with before | ⟨same, place⟩
  · exact .inl before
  · have low := soundB.leaf_le l'
    exact .inr ⟨same, by omega⟩

theorem fillPair_spec {trees : Grid} (keyP : p ∈ a.keyRoots) (keyQ : q ∈ b.keyRoots)
    (ready : Ready a b p q earlier)
    (settled : Settled a b trees earlier) :
    Settled a b (fillPair a b trees p q)
      (fun k l => earlier k l ∨ (a.leaf k = a.leaf p ∧ b.leaf l = b.leaf q)) := by
  have insideP := ((soundA.mem_keyRoots p).mp keyP).1
  have insideQ := ((soundB.mem_keyRoots q).mp keyQ).1
  have lowP := soundA.leaf_le p
  have first : RowsFilled a b p q (a.leaf p) #[Array.range (q + 2 - b.leaf q)] := by
    refine ⟨by simp, ?_⟩
    intro k' l leastK lastK leastL lastL
    obtain rfl : k' = a.leaf p := le_antisymm lastK leastK
    rw [forestDistance_no_rows, Nat.sub_self]
    have inside : l - b.leaf q < q + 2 - b.leaf q := by omega
    simp [Grid.at, inside]
  have all := foldl_split (fillRow a b (a.leaf p) (b.leaf q) q)
    (fun before tables => RowsFilled a b p q (a.leaf p + before.length) tables.1 ∧
      Settled a b tables.2 (Entered a b p q (a.leaf p + before.length) (b.leaf q) earlier))
    (List.range' (a.leaf p) (p + 1 - a.leaf p)) (#[Array.range (q + 2 - b.leaf q)], trees) ?_ ?_
  · rw [List.length_range', show a.leaf p + (p + 1 - a.leaf p) = p + 1 by omega] at all
    refine all.2.mono ?_
    intro k l insideK insideL done
    rcases done with before | same
    · exact .inl before
    · have lastK := soundA.le_keyRoot keyP insideK same.1
      have lastL := soundB.le_keyRoot keyQ insideL same.2
      exact .inr ⟨same, by omega⟩
  · refine ⟨first, settled.mono ?_⟩
    intro k l _ _ entered
    rcases entered with before | ⟨same, place⟩
    · exact before
    · have lowK := soundA.leaf_le k
      have lowL := soundB.leaf_le l
      simp only [List.length_nil] at place
      omega
  · intro before k after tables split filled
    obtain ⟨rfl, inside⟩ := eq_of_range'_split split
    rw [List.length_append, List.length_singleton, ← Nat.add_assoc]
    exact fillRow_spec soundA soundB insideP insideQ ready (by omega) (by omega) filled.1 filled.2

omit [DecidableEq α] in
theorem ready_of_split {beforeP afterP beforeQ afterQ : List Nat}
    (splitP : a.keyRoots = beforeP ++ p :: afterP) (splitQ : b.keyRoots = beforeQ ++ q :: afterQ) :
    Ready a b p q (fun k l => (∃ root ∈ beforeP, a.leaf k = a.leaf root) ∨
      (a.leaf k = a.leaf p ∧ ∃ root ∈ beforeQ, b.leaf l = b.leaf root)) := by
  have insideP := ((soundA.mem_keyRoots p).mp (by simp [splitP])).1
  have insideQ := ((soundB.mem_keyRoots q).mp (by simp [splitQ])).1
  intro k l leastK lastK leastL lastL differ
  by_cases sameK : a.leaf k = a.leaf p
  · have differL : b.leaf l ≠ b.leaf q := fun sameL => differ ⟨sameK, sameL⟩
    obtain ⟨root, key, same⟩ := soundB.exists_keyRoot (lastL.trans_lt insideQ)
    have insideRoot := ((soundB.mem_keyRoots root).mp key).1
    have less := soundB.lt_keyRoot insideQ insideRoot leastL lastL same differL
    exact .inr ⟨sameK, root, mem_before_of_sorted (fun _ _ => Nat.lt_asymm) soundB.keyRoots_sorted
      splitQ key less, same.symm⟩
  · obtain ⟨root, key, same⟩ := soundA.exists_keyRoot (lastK.trans_lt insideP)
    have insideRoot := ((soundA.mem_keyRoots root).mp key).1
    have less := soundA.lt_keyRoot insideP insideRoot leastK lastK same sameK
    exact .inl ⟨root, mem_before_of_sorted (fun _ _ => Nat.lt_asymm) soundA.keyRoots_sorted splitP
      key less, same.symm⟩

theorem fillPairs_spec {beforeP afterP : List Nat} {trees : Grid}
    (splitP : a.keyRoots = beforeP ++ p :: afterP)
    (settled : Settled a b trees fun k _ => ∃ root ∈ beforeP, a.leaf k = a.leaf root) :
    Settled a b (b.keyRoots.foldl (fun trees q => fillPair a b trees p q) trees)
      (fun k _ => ∃ root ∈ beforeP ++ [p], a.leaf k = a.leaf root) := by
  have keyP : p ∈ a.keyRoots := by simp [splitP]
  have all := foldl_split (fun trees q => fillPair a b trees p q)
    (fun beforeQ trees => Settled a b trees fun k l =>
      (∃ root ∈ beforeP, a.leaf k = a.leaf root) ∨
        (a.leaf k = a.leaf p ∧ ∃ root ∈ beforeQ, b.leaf l = b.leaf root))
    b.keyRoots trees (by simpa using settled) ?_
  · refine all.mono ?_
    rintro k l - insideL ⟨root, member, same⟩
    rcases List.mem_append.mp member with before | here
    · exact .inl ⟨root, before, same⟩
    · obtain rfl := List.mem_singleton.mp here
      obtain ⟨rootL, keyL, sameL⟩ := soundB.exists_keyRoot insideL
      exact .inr ⟨same, rootL, keyL, sameL.symm⟩
  · intro beforeQ q afterQ trees splitQ settled
    have keyQ : q ∈ b.keyRoots := by simp [splitQ]
    have ready := ready_of_split soundA soundB splitP splitQ
    refine (fillPair_spec soundA soundB keyP keyQ ready settled).mono ?_
    rintro k l - - (before | ⟨same, root, member, sameL⟩)
    · exact .inl (.inl before)
    · rcases List.mem_append.mp member with before | here
      · exact .inl (.inr ⟨same, root, before, sameL⟩)
      · obtain rfl := List.mem_singleton.mp here
        exact .inr ⟨same, sameL⟩

theorem treeDistances_spec {k l : Nat} (insideK : k < a.size) (insideL : l < b.size) :
    (treeDistances a b).at k l = treeDistance a b k l := by
  have all := foldl_split
    (fun trees p => b.keyRoots.foldl (fun trees q => fillPair a b trees p q) trees)
    (fun beforeP trees => Settled a b trees fun k _ => ∃ root ∈ beforeP, a.leaf k = a.leaf root)
    a.keyRoots (Grid.zeros a.size b.size)
    ⟨Grid.hasShape_zeros _ _, by simp⟩
    (fun beforeP p afterP trees splitP settled => fillPairs_spec soundA soundB splitP settled)
  obtain ⟨root, key, same⟩ := soundA.exists_keyRoot insideK
  exact all.entries k l insideK insideL ⟨root, key, same.symm⟩

theorem editDistance_eq_distance (nonemptyA : 0 < a.size) (nonemptyB : 0 < b.size) :
    editDistance a b = a.layout.distance b.layout := by
  unfold editDistance
  rw [treeDistances_spec soundA soundB (by omega) (by omega), layout_eq_window, layout_eq_window]
  unfold treeDistance forestDistance
  rw [soundA.leaf_last, soundB.leaf_last, Nat.sub_add_cancel nonemptyA,
    Nat.sub_add_cancel nonemptyB]

end PostOrder

end SourceSimilarity.Tree
