import SourceSimilarity.Proofs.Tree.InPlace
import SourceSimilarity.Proofs.Tree.PostOrder

/-!
The cells of the computation in place are visited by their key roots, then by their nodes. The
distance of two trees is entered at the one visit by the key roots that share the leftmost leaves of
the trees. Where it is looked up, one of the key roots is a later one.
-/

namespace SourceSimilarity.Tree

variable {α : Type}

structure Visit where
  p : Nat
  q : Nat
  k : Nat
  l : Nat
deriving DecidableEq, Repr

def Visit.Before (c d : Visit) : Prop :=
  c.p < d.p ∨ c.p = d.p ∧ (c.q < d.q ∨ c.q = d.q ∧ (c.k < d.k ∨ c.k = d.k ∧ c.l < d.l))

theorem Visit.Before.asymm {c d : Visit} (before : c.Before d) : ¬ d.Before c := by
  unfold Before at *
  omega

namespace Access

/-- The row and the column stand in the table, counted from its start. -/
structure Direct (x : Access) : Prop where
  row : 0 ≤ x.row ∧ x.row < x.rows
  column : 0 ≤ x.column ∧ x.column < x.columns

def entersTree (k l : Nat) (x : Access) : Bool :=
  x.writes && x.target = .trees && x.row = k && x.column = l

theorem entersTree_iff {k l : Nat} {x : Access} : x.entersTree k l = true ↔
    x.writes = true ∧ x.target = .trees ∧ x.row = k ∧ x.column = l := by
  simp [entersTree, and_assoc]

end Access

theorem exists_split_of_flatMap {β γ : Type} {f : β → List γ} {items : List β}
    {before after : List γ} {x : γ} (split : items.flatMap f = before ++ x :: after) :
    ∃ early item late front back, items = early ++ item :: late ∧ f item = front ++ x :: back ∧
      before = early.flatMap f ++ front := by
  induction items generalizing before with
  | nil => simp at split
  | cons item items ih =>
      rw [List.flatMap_cons] at split
      rcases List.append_eq_append_iff.mp split with ⟨more, rfl, rest⟩ | ⟨more, here, rest⟩
      · obtain ⟨early, other, late, front, back, rfl, found, rfl⟩ := ih rest
        exact ⟨item :: early, other, late, front, back, rfl, found, by
          rw [List.flatMap_cons, List.append_assoc]⟩
      · cases more with
        | nil =>
            obtain ⟨early, other, late, front, back, rfl, found, nothing⟩ :=
              ih (show items.flatMap f = [] ++ x :: after by simpa using rest.symm)
            refine ⟨item :: early, other, late, front, back, rfl, found, ?_⟩
            rw [List.flatMap_cons, List.append_assoc, ← nothing, here, List.append_nil,
              List.append_nil]
        | cons y back =>
            obtain ⟨rfl, -⟩ := List.cons.inj rest
            exact ⟨[], item, items, before, back, rfl, here, rfl⟩

namespace PostOrder

def visits (a b : PostOrder α) : List Visit :=
  a.keyRoots.flatMap fun p => b.keyRoots.flatMap fun q =>
    (List.range' (a.leaf p) (p + 1 - a.leaf p)).flatMap fun k =>
      (List.range' (b.leaf q) (q + 1 - b.leaf q)).map fun l => ⟨p, q, k, l⟩

def visitAccesses (a b : PostOrder α) (c : Visit) : List Access := cellAccesses a b c.p c.q c.k c.l

variable {a b : PostOrder α}

theorem distanceAccesses_eq (a b : PostOrder α) :
    distanceAccesses a b = (visits a b).flatMap (visitAccesses a b) ++
      [⟨false, .trees, a.size - 1, b.size - 1, a.size, b.size⟩] := by
  simp only [distanceAccesses, pairAccesses, visits, List.flatMap_assoc, List.flatMap_map]
  rfl

theorem mem_visits {c : Visit} : c ∈ visits a b ↔ c.p ∈ a.keyRoots ∧ c.q ∈ b.keyRoots ∧
    (a.leaf c.p ≤ c.k ∧ c.k < a.leaf c.p + (c.p + 1 - a.leaf c.p)) ∧
    b.leaf c.q ≤ c.l ∧ c.l < b.leaf c.q + (c.q + 1 - b.leaf c.q) := by
  obtain ⟨p, q, k, l⟩ := c
  simp only [visits, List.mem_flatMap, List.mem_map, List.mem_range'_1, Visit.mk.injEq]
  constructor
  · rintro ⟨_, keyP, _, keyQ, _, inK, _, inL, rfl, rfl, rfl, rfl⟩
    exact ⟨keyP, keyQ, inK, inL⟩
  · rintro ⟨keyP, keyQ, inK, inL⟩
    exact ⟨p, keyP, q, keyQ, k, inK, l, inL, rfl, rfl, rfl, rfl⟩

section

variable (soundA : a.Sound) (soundB : b.Sound)
include soundA soundB

theorem pairwise_visits : (visits a b).Pairwise Visit.Before := by
  unfold visits
  rw [List.pairwise_flatMap]
  refine ⟨fun p _ => ?_, soundA.keyRoots_sorted.imp fun less x inX y inY => ?_⟩
  · rw [List.pairwise_flatMap]
    refine ⟨fun q _ => ?_, soundB.keyRoots_sorted.imp fun less x inX y inY => ?_⟩
    · rw [List.pairwise_flatMap]
      refine ⟨fun k _ => ?_, (List.pairwise_lt_range' 1).imp fun less x inX y inY => ?_⟩
      · exact List.pairwise_map.mpr ((List.pairwise_lt_range' 1).imp fun less =>
          .inr ⟨rfl, .inr ⟨rfl, .inr ⟨rfl, less⟩⟩⟩)
      · obtain ⟨_, -, rfl⟩ := List.mem_map.mp inX
        obtain ⟨_, -, rfl⟩ := List.mem_map.mp inY
        exact .inr ⟨rfl, .inr ⟨rfl, .inl less⟩⟩
    · simp only [List.mem_flatMap, List.mem_map] at inX inY
      obtain ⟨_, -, _, -, rfl⟩ := inX
      obtain ⟨_, -, _, -, rfl⟩ := inY
      exact .inr ⟨rfl, .inl less⟩
  · simp only [List.mem_flatMap, List.mem_map] at inX inY
    obtain ⟨_, -, _, -, _, -, rfl⟩ := inX
    obtain ⟨_, -, _, -, _, -, rfl⟩ := inY
    exact .inl less

omit soundA soundB in
theorem countP_visitAccesses (c : Visit) (k l : Nat) :
    (visitAccesses a b c).countP (·.entersTree k l) =
      if (c.k = k ∧ c.l = l) ∧ a.leaf k = a.leaf c.p ∧ b.leaf l = b.leaf c.q then 1 else 0 := by
  by_cases here : c.k = k ∧ c.l = l
  · obtain ⟨rfl, rfl⟩ := here
    unfold visitAccesses cellAccesses
    by_cases same : a.leaf c.k = a.leaf c.p ∧ b.leaf c.l = b.leaf c.q
    · simp [same, Access.entersTree]
    · simp [same, Access.entersTree]
  · rw [if_neg fun both => here both.1, List.countP_eq_zero]
    unfold visitAccesses cellAccesses
    by_cases same : a.leaf c.k = a.leaf c.p ∧ b.leaf c.l = b.leaf c.q
    · simpa [same, Access.entersTree, Int.natCast_inj] using here
    · simp [same, Access.entersTree]

theorem existsUnique_entering {k l : Nat} (insideK : k < a.size) (insideL : l < b.size) :
    ∃ c ∈ visits a b, (visitAccesses a b c).countP (·.entersTree k l) = 1 ∧
      ∀ d ∈ visits a b, d ≠ c → (visitAccesses a b d).countP (·.entersTree k l) = 0 := by
  obtain ⟨p, keyP, sameP⟩ := soundA.exists_keyRoot insideK
  obtain ⟨q, keyQ, sameQ⟩ := soundB.exists_keyRoot insideL
  have lastK := soundA.le_keyRoot keyP insideK sameP.symm
  have lastL := soundB.le_keyRoot keyQ insideL sameQ.symm
  have lowK := soundA.leaf_le k
  have lowL := soundB.leaf_le l
  refine ⟨⟨p, q, k, l⟩, mem_visits.mpr ⟨keyP, keyQ, ?_, ?_⟩, ?_, ?_⟩
  · dsimp only
    omega
  · dsimp only
    omega
  · rw [countP_visitAccesses]
    exact if_pos ⟨⟨rfl, rfl⟩, sameP.symm, sameQ.symm⟩
  · intro d member other
    rw [countP_visitAccesses]
    refine if_neg ?_
    rintro ⟨⟨rfl, rfl⟩, sameK, sameL⟩
    obtain ⟨keyP', keyQ', -, -⟩ := mem_visits.mp member
    have equalP := soundA.bijOn_leaf.injOn keyP keyP' (sameP.trans sameK)
    have equalQ := soundB.bijOn_leaf.injOn keyQ keyQ' (sameQ.trans sameL)
    exact other (by rw [equalP, equalQ])

theorem countP_distanceAccesses {k l : Nat} (insideK : k < a.size) (insideL : l < b.size) :
    (distanceAccesses a b).countP (·.entersTree k l) = 1 := by
  obtain ⟨c, member, once, elsewhere⟩ := existsUnique_entering soundA soundB insideK insideL
  have nodup : (visits a b).Nodup := (pairwise_visits soundA soundB).imp fun before same =>
    (same ▸ before).asymm (same ▸ before)
  have sum := List.sum_map_eq_nsmul_single c
    (fun d => (visitAccesses a b d).countP (·.entersTree k l))
    fun d other inVisits => elsewhere d inVisits other
  rw [List.count_eq_one_of_mem nodup member, one_nsmul, once] at sum
  -- the last access of all is a reading
  rw [distanceAccesses_eq, List.countP_append, List.countP_flatMap]
  exact sum

omit soundA soundB in
theorem of_reads {c : Visit} {x : Access} (member : x ∈ visitAccesses a b c)
    (reads : x.writes = false) (trees : x.target = .trees) :
    x.row = c.k ∧ x.column = c.l ∧ ¬ (a.leaf c.k = a.leaf c.p ∧ b.leaf c.l = b.leaf c.q) := by
  unfold visitAccesses cellAccesses at member
  by_cases same : a.leaf c.k = a.leaf c.p ∧ b.leaf c.l = b.leaf c.q
  · simp only [if_pos same, List.mem_cons, List.not_mem_nil, or_false] at member
    rcases member with rfl | rfl | rfl | rfl | rfl <;> simp at reads trees
  · simp only [if_neg same, List.mem_cons, List.not_mem_nil, or_false] at member
    rcases member with rfl | rfl | rfl | rfl | rfl <;> simp at reads trees
    exact ⟨rfl, rfl, same⟩

/-- The key roots at which a distance is entered come before all others at which it is asked for. -/
theorem exists_earlier_visit {c : Visit} {early late : List Visit}
    (split : visits a b = early ++ c :: late)
    (differ : ¬ (a.leaf c.k = a.leaf c.p ∧ b.leaf c.l = b.leaf c.q)) :
    ∃ d ∈ early, ∃ y ∈ visitAccesses a b d, y.entersTree c.k c.l = true := by
  have member : c ∈ visits a b := by simp [split]
  obtain ⟨keyP, keyQ, inK, inL⟩ := mem_visits.mp member
  have insideP := ((soundA.mem_keyRoots c.p).mp keyP).1
  have insideQ := ((soundB.mem_keyRoots c.q).mp keyQ).1
  obtain ⟨d, inVisits, once, -⟩ := existsUnique_entering (k := c.k) (l := c.l) soundA soundB
    (by omega) (by omega)
  refine ⟨d, ?_, List.countP_pos_iff.mp (once ▸ Nat.one_pos)⟩
  obtain ⟨⟨sameK, sameL⟩, leafK, leafL⟩ :
      (d.k = c.k ∧ d.l = c.l) ∧ a.leaf c.k = a.leaf d.p ∧ b.leaf c.l = b.leaf d.q := by
    by_contra other
    rw [countP_visitAccesses, if_neg other] at once
    cases once
  obtain ⟨keyP', keyQ', -, -⟩ := mem_visits.mp inVisits
  have insideP' := ((soundA.mem_keyRoots d.p).mp keyP').1
  have insideQ' := ((soundB.mem_keyRoots d.q).mp keyQ').1
  refine mem_before_of_sorted (fun _ _ before => before.asymm) (pairwise_visits soundA soundB) split
    inVisits ?_
  by_cases same : a.leaf c.k = a.leaf c.p
  · have equal := soundA.bijOn_leaf.injOn keyP' keyP (leafK.symm.trans same)
    have less := soundB.lt_keyRoot insideQ insideQ' inL.1 (by omega) leafL.symm
      fun sameL => differ ⟨same, sameL⟩
    exact .inr ⟨equal, .inl less⟩
  · exact .inl (soundA.lt_keyRoot insideP insideP' inK.1 (by omega) leafK.symm same)

theorem exists_entered_before (nonemptyA : 0 < a.size) (nonemptyB : 0 < b.size)
    {before after : List Access} {x : Access} (split : distanceAccesses a b = before ++ x :: after)
    (reads : x.writes = false) (trees : x.target = .trees) :
    ∃ y ∈ before, y.writes = true ∧ y.target = .trees ∧ y.row = x.row ∧ y.column = x.column := by
  rw [distanceAccesses_eq] at split
  rcases List.eq_nil_or_concat after with rfl | ⟨after, last, rfl⟩
  · obtain ⟨rfl, equal⟩ := List.append_inj' split rfl
    obtain rfl := List.singleton_inj.mp equal
    obtain ⟨c, member, once, -⟩ := existsUnique_entering (k := a.size - 1) (l := b.size - 1) soundA
      soundB (by omega) (by omega)
    obtain ⟨y, inVisit, enters⟩ := List.countP_pos_iff.mp (once ▸ Nat.one_pos)
    obtain ⟨writes, target, row, column⟩ := Access.entersTree_iff.mp enters
    refine ⟨y, List.mem_flatMap.mpr ⟨c, member, inVisit⟩, writes, target, ?_, ?_⟩ <;> dsimp only <;>
      omega
  · rw [List.concat_eq_append, ← List.cons_append, ← List.append_assoc] at split
    obtain ⟨inBody, -⟩ := List.append_inj' split rfl
    obtain ⟨early, c, late, front, back, visited, found, rfl⟩ := exists_split_of_flatMap inBody
    have inVisit : x ∈ visitAccesses a b c := by simp [found]
    obtain ⟨row, column, differ⟩ := of_reads inVisit reads trees
    obtain ⟨d, inEarly, y, inVisit, enters⟩ := exists_earlier_visit soundA soundB visited differ
    obtain ⟨writes, target, row', column'⟩ := Access.entersTree_iff.mp enters
    exact ⟨y, List.mem_append_left _ (List.mem_flatMap.mpr ⟨d, inEarly, inVisit⟩), writes, target,
      row'.trans row.symm, column'.trans column.symm⟩

theorem direct_of_mem_visits {c : Visit} (member : c ∈ visits a b) {x : Access}
    (inside : x ∈ visitAccesses a b c) : x.Direct := by
  obtain ⟨keyP, keyQ, inK, inL⟩ := mem_visits.mp member
  have insideP := ((soundA.mem_keyRoots c.p).mp keyP).1
  have insideQ := ((soundB.mem_keyRoots c.q).mp keyQ).1
  have treesK := soundA.closed c.p insideP c.k inK.1 (by omega)
  have treesL := soundB.closed c.q insideQ c.l inL.1 (by omega)
  have lowK := soundA.leaf_le c.k
  have lowL := soundB.leaf_le c.l
  unfold visitAccesses cellAccesses at inside
  by_cases same : a.leaf c.k = a.leaf c.p ∧ b.leaf c.l = b.leaf c.q
  · simp only [if_pos same, List.mem_cons, List.not_mem_nil, or_false] at inside
    rcases inside with rfl | rfl | rfl | rfl | rfl <;> constructor <;> dsimp only <;> omega
  · simp only [if_neg same, List.mem_cons, List.not_mem_nil, or_false] at inside
    rcases inside with rfl | rfl | rfl | rfl | rfl <;> constructor <;> dsimp only <;> omega

theorem direct_of_mem (nonemptyA : 0 < a.size) (nonemptyB : 0 < b.size) {x : Access}
    (member : x ∈ distanceAccesses a b) : x.Direct := by
  rw [distanceAccesses_eq, List.mem_append, List.mem_singleton, List.mem_flatMap] at member
  rcases member with ⟨c, inVisits, inside⟩ | rfl
  · exact direct_of_mem_visits soundA soundB inVisits inside
  · constructor <;> dsimp only <;> omega

end

theorem exists_ofTable? {table : Table α} (nonempty : 0 < table.size) :
    ∃ view, ofTable? table = some view := by
  suffices assembled : ∀ last below, ∃ tree, table.assemble last below = some tree by
    obtain ⟨tree, found⟩ := assembled (table.size - 1) (Array.replicate table.size [])
    exact ⟨_, by rw [ofTable?, Table.toTree?, found, Option.map_some]⟩
  intro last
  induction last with
  | zero =>
      intro below
      exact ⟨_, by rw [Table.assemble, Array.getElem?_eq_getElem nonempty, Option.map_some]⟩
  | succ last ih =>
      intro below
      rw [Table.assemble]
      split
      · exact ih below
      · exact ih _

theorem Sound.of_leaf_eq {view other : PostOrder α} (sound : view.Sound)
    (leaf : ∀ node, other.leaf node = view.leaf node) (size : other.size = view.size)
    (keyRoots : other.keyRoots = view.keyRoots) : other.Sound where
  leaf_le node := by
    rw [leaf]
    exact sound.leaf_le node
  closed node inside := by
    simpa only [Closed, leaf] using sound.closed node (size ▸ inside)
  leaf_last := by
    rw [leaf, size]
    exact sound.leaf_last
  keyRoots_sorted := by
    rw [keyRoots]
    exact sound.keyRoots_sorted
  mem_keyRoots node := by
    simpa only [leaf, size, keyRoots] using sound.mem_keyRoots node

/-- Leaves of nodes outside the tree, which are entered behind the others, change nothing. -/
theorem sound_of_ofTable? {table : Table α} {view : PostOrder α}
    (found : ofTable? table = some view) : view.Sound ∧ 0 < view.size := by
  obtain ⟨tree, -, rfl⟩ := Option.map_eq_some_iff.mp found
  refine ⟨(sound_ofTree tree).of_leaf_eq (fun node => ?_) rfl rfl,
    (size_ofTree tree).symm ▸ tree.size_pos⟩
  unfold PostOrder.leaf
  by_cases inside : node < (ofTree tree).leftmost.size
  · rw [Array.getElem?_append_left inside]
  · rw [not_lt] at inside
    rw [Array.getElem?_append_right inside, Array.getElem?_replicate, Array.getElem?_eq_none inside]
    split <;> rfl

end PostOrder

/-- The computation in place over two tables with nodes gives their distance. It enters each
distance of two trees once, looks none up that was not entered before, and stays within its tables
without ever counting from their ends. -/
theorem distanceInPlace_orderly [DecidableEq α] {a b : Table α} (nonemptyA : 0 < a.size)
    (nonemptyB : 0 < b.size) :
    ∃ viewA viewB memory, PostOrder.ofTable? a = some viewA ∧ PostOrder.ofTable? b = some viewB ∧
      (distanceInPlace viewA viewB).run {} = some (editDistance viewA viewB, memory) ∧
      memory.tables.trees = treeDistances viewA viewB ∧
      (∀ k < viewA.size, ∀ l < viewB.size, memory.accesses.countP (·.entersTree k l) = 1) ∧
      (∀ before x after, memory.accesses = before ++ x :: after → x.writes = false →
        x.target = .trees → ∃ y ∈ before, y.writes = true ∧ y.target = .trees ∧ y.row = x.row ∧
          y.column = x.column) ∧
      ∀ x ∈ memory.accesses, x.Direct := by
  obtain ⟨viewA, foundA⟩ := PostOrder.exists_ofTable? nonemptyA
  obtain ⟨viewB, foundB⟩ := PostOrder.exists_ofTable? nonemptyB
  obtain ⟨soundA, someA⟩ := PostOrder.sound_of_ofTable? foundA
  obtain ⟨soundB, someB⟩ := PostOrder.sound_of_ofTable? foundB
  obtain ⟨tables, run, trees⟩ := distanceInPlace_gives soundA soundB someA someB {}
  refine ⟨viewA, viewB, ⟨tables, distanceAccesses viewA viewB⟩, foundA, foundB, run [], trees,
    ?_, ?_, ?_⟩
  · exact fun k insideK l insideL =>
      PostOrder.countP_distanceAccesses soundA soundB insideK insideL
  · exact fun before x after split reads target =>
      PostOrder.exists_entered_before soundA soundB someA someB split reads target
  · exact fun x member => PostOrder.direct_of_mem soundA soundB someA someB member

theorem distanceInPlace_orderly_of_moved_level :
    let a : Table String :=
      (((Table.empty.add "d" none).add "a" (some 0)).add "c" (some 0)).add "b" (some 2)
    let b : Table String :=
      (((Table.empty.add "d" none).add "c" (some 0)).add "a" (some 1)).add "b" (some 1)
    0 < a.size ∧ 0 < b.size ∧ ∃ viewA viewB memory, PostOrder.ofTable? a = some viewA ∧
      PostOrder.ofTable? b = some viewB ∧ (distanceInPlace viewA viewB).run {} = some (2, memory) ∧
      memory.accesses.countP (·.entersTree 3 3) = 1 ∧
      (memory.accesses.countP fun x => !x.writes && x.target = .trees) = 15 ∧
      (∀ before x after, memory.accesses = before ++ x :: after → x.writes = false →
        x.target = .trees → ∃ y ∈ before, y.writes = true ∧ y.target = .trees ∧ y.row = x.row ∧
          y.column = x.column) ∧
      ∀ x ∈ memory.accesses, x.Direct := by
  intro a b
  obtain ⟨viewA, viewB, memory, foundA, foundB, run, -, once, entered, direct⟩ :=
    distanceInPlace_orderly (show 0 < a.size by decide) (show 0 < b.size by decide)
  have views : (PostOrder.ofTable? a, PostOrder.ofTable? b) =
      (some ⟨#["a", "b", "c", "d"], #[0, 1, 1, 0], [2, 3]⟩,
        some ⟨#["a", "b", "c", "d"], #[0, 1, 0, 0], [1, 3]⟩) := by decide +kernel
  simp only [foundA, foundB, Prod.mk.injEq, Option.some.injEq] at views
  obtain ⟨rfl, rfl⟩ := views
  have counted := congrArg (Option.map fun result => (result.1,
    result.2.accesses.countP fun x => !x.writes && x.target = .trees)) run
  rw [show Option.map _ _ = some (2, 15) by decide +kernel] at counted
  simp only [Option.map_some, Option.some.injEq, Prod.mk.injEq] at counted
  obtain ⟨two, lookups⟩ := counted
  rw [← two] at run
  exact ⟨by decide, by decide, _, _, memory, foundA, foundB, run, once 3 (by decide) 3 (by decide),
    lookups.symm, entered, direct⟩

end SourceSimilarity.Tree
