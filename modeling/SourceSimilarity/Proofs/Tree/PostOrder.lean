import SourceSimilarity.Proofs.Tree.SameTree
import SourceSimilarity.Proofs.Tree.Traversal
import SourceSimilarity.Proofs.Tree.Walk

namespace SourceSimilarity.Tree

variable {α : Type}

namespace PostOrder

/-- A view lists the nodes of a table in this order, which is a post-order, and tells the nodes
below each of them and the key roots. -/
structure Shows (view : PostOrder α) (table : Table α) (order : List Nat) : Prop where
  each_once : order.Perm (List.range table.size)
  sorted : order.Pairwise fun earlier later =>
    table.Above later earlier ∨ table.LeftOf earlier later
  labels : view.labels.toList.map some = order.map table.labelOf?
  size_leftmost : view.leftmost.size = table.size
  leaf_le : ∀ i < table.size, view.leaf i ≤ i
  subtree_iff : ∀ i j node lower, order[i]? = some node → order[j]? = some lower →
    (table.AtOrAbove node lower ↔ view.leaf i ≤ j ∧ j ≤ i)
  keyRoots_sorted : view.keyRoots.Pairwise (· < ·)
  keyRoots_last : view.keyRoots.getLast? = some (table.size - 1)
  mem_keyRoots : ∀ i, i ∈ view.keyRoots ↔
    i < table.size ∧ ∀ j, i < j → j < table.size → view.leaf j ≠ view.leaf i
  keyRoots_leaves : Set.BijOn view.leaf {i | i ∈ view.keyRoots}
    {i | ∃ node, order[i]? = some node ∧ table.childrenOf node = []}

namespace Sound

variable {view : PostOrder α}

theorem leaf_leaf (sound : view.Sound) {node : Nat} (inside : node < view.size) :
    view.leaf (view.leaf node) = view.leaf node := by
  have low := sound.leaf_le node
  have least := sound.closed node inside (view.leaf node) le_rfl (by omega)
  exact le_antisymm (sound.leaf_le _) least

theorem bijOn_leaf (sound : view.Sound) :
    Set.BijOn view.leaf {i | i ∈ view.keyRoots} {i | i < view.size ∧ view.leaf i = i} := by
  refine ⟨?_, ?_, ?_⟩
  · intro root key
    have inside := ((sound.mem_keyRoots root).mp key).1
    exact ⟨(sound.leaf_le root).trans_lt inside, sound.leaf_leaf inside⟩
  · intro root key other keyOther same
    have inside := ((sound.mem_keyRoots root).mp key).1
    have insideOther := ((sound.mem_keyRoots other).mp keyOther).1
    exact le_antisymm (sound.le_keyRoot keyOther inside same)
      (sound.le_keyRoot key insideOther same.symm)
  · rintro leaf ⟨inside, own⟩
    obtain ⟨root, key, same⟩ := sound.exists_keyRoot inside
    exact ⟨root, key, same.trans own⟩

theorem last_mem_keyRoots (sound : view.Sound) (nonempty : 0 < view.size) :
    view.size - 1 ∈ view.keyRoots :=
  (sound.mem_keyRoots _).mpr ⟨by omega, fun later after inside => by omega⟩

theorem getLast?_keyRoots (sound : view.Sound) (nonempty : 0 < view.size) :
    view.keyRoots.getLast? = some (view.size - 1) := by
  obtain ⟨before, after, split⟩ := List.append_of_mem (sound.last_mem_keyRoots nonempty)
  have sorted := sound.keyRoots_sorted
  rw [split] at sorted
  cases after with
  | nil => rw [split, List.getLast?_concat]
  | cons later after =>
      have less := List.rel_of_pairwise_cons (List.pairwise_append.mp sorted).2.1
        (show later ∈ later :: after by simp)
      have inside := ((sound.mem_keyRoots later).mp (by simp [split])).1
      omega

end Sound

theorem layout_congr {view other : PostOrder α} (labels : view.labels = other.labels)
    (leftmost : view.leftmost = other.leftmost) : view.layout = other.layout := by
  have leaf : view.leaf = other.leaf := by
    funext node
    rw [leaf, leaf, leftmost]
  rw [layout, layout, leaf, labels, PostOrder.size, PostOrder.size, labels]

end PostOrder

namespace Table.Grown

variable {table : Table α} (grown : table.Grown)
include grown

theorem shows {tree : Tree α} (assembled : tree.map some = (table.numbered 0).map table.labelOf?) :
    (PostOrder.ofTree tree).Shows table (table.order 0) := by
  have sound := PostOrder.sound_ofTree tree
  have size : (PostOrder.ofTree tree).size = table.size := by
    rw [PostOrder.size_ofTree, grown.size_eq assembled]
  refine ⟨?_, grown.pairwise_order 0, labels_order assembled, ?_, fun i _ => sound.leaf_le i, ?_,
    sound.keyRoots_sorted, ?_, ?_, ?_⟩
  · exact (List.perm_ext_iff_of_nodup (grown.nodup_order 0) List.nodup_range).mpr fun node => by
      rw [grown.mem_order_root, List.mem_range]
  · simp [PostOrder.ofTree, length_leftmostFrom, grown.size_eq assembled]
  · intro i j node lower found foundLower
    obtain ⟨inside, rfl⟩ := grown.getElem?_order_iff.mp found
    obtain ⟨insideLower, rfl⟩ := grown.getElem?_order_iff.mp foundLower
    exact grown.atOrAbove_iff_places assembled inside insideLower
  · rw [← size]
    exact sound.getLast?_keyRoots (size ▸ grown.size_pos)
  · rw [← size]
    exact sound.mem_keyRoots
  · have leaves : {i | ∃ node, (table.order 0)[i]? = some node ∧ table.childrenOf node = []} =
        {i | i < (PostOrder.ofTree tree).size ∧ (PostOrder.ofTree tree).leaf i = i} := by
      ext i
      constructor
      · rintro ⟨node, found, none⟩
        obtain ⟨inside, rfl⟩ := grown.getElem?_order_iff.mp found
        exact ⟨size ▸ grown.place_lt inside, grown.leaf_of_no_children assembled inside none⟩
      · rintro ⟨bound, own⟩
        obtain ⟨node, found⟩ : ∃ node, (table.order 0)[i]? = some node :=
          ⟨_, List.getElem?_eq_getElem (grown.length_order_root ▸ size ▸ bound)⟩
        obtain ⟨inside, rfl⟩ := grown.getElem?_order_iff.mp found
        exact ⟨node, found, (grown.leaf_eq_place_iff assembled inside).mp own⟩
    rw [leaves]
    exact sound.bijOn_leaf

theorem sameTree_of_views {other : Table α} (grownOther : other.Grown)
    {view viewOther : PostOrder α} (found : PostOrder.ofTable? table = some view)
    (foundOther : PostOrder.ofTable? other = some viewOther) :
    (view.labels = viewOther.labels ∧ view.leftmost = viewOther.leftmost) ↔
      ∃ f, SameTree table other f := by
  obtain ⟨tree, isTree, isView, assembled⟩ := grown.exists_tree_and_view
  obtain ⟨treeOther, isTreeOther, isViewOther, assembledOther⟩ := grownOther.exists_tree_and_view
  obtain rfl := Option.some.inj (isView.symm.trans found)
  obtain rfl := Option.some.inj (isViewOther.symm.trans foundOther)
  constructor
  · rintro ⟨labels, leftmost⟩
    -- both tables have the layout of the one view
    obtain ⟨back, same⟩ := (grownOther.same_layout assembledOther).symm
    rw [← PostOrder.layout_congr labels leftmost] at same
    exact ⟨_, grown.sameTree_of_same_layout grownOther
      ((grown.same_layout assembled).trans same)⟩
  · intro same
    have equal := (grown.toTree?_eq_iff grownOther).mpr same
    rw [isTree, isTreeOther, Option.some.injEq] at equal
    subst equal
    exact ⟨rfl, rfl⟩

/-- The walk over a grown table ends after two steps for each node, and the view that is read off it
shows the table. Two views with the same labels and leaves are those of one tree. -/
theorem view_faithful :
    ∃ view order, PostOrder.ofTable? table = some view ∧
      (Walk.step table)^[2 * table.size] .start = ⟨[], order⟩ ∧
      PostOrder.ofOrder table order = view ∧ view.Shows table order ∧
      ∀ other viewOther, other.Grown → PostOrder.ofTable? other = some viewOther →
        ((view.labels = viewOther.labels ∧ view.leftmost = viewOther.leftmost) ↔
          ∃ f, SameTree table other f) := by
  obtain ⟨tree, found, assembled⟩ := grown.exists_view
  refine ⟨_, _, found, grown.iterate_step_start, grown.ofOrder_eq assembled,
    grown.shows assembled, ?_⟩
  intro other viewOther grownOther foundOther
  exact grown.sameTree_of_views grownOther found foundOther

omit grown in
theorem view_faithful_of_two_entry_orders :
    let a : Table String :=
      ((((empty.add "a" none).add "b" (some 0)).add "c" (some 1)).add "d" (some 1)).add "e" (some 0)
    let b : Table String :=
      ((((empty.add "a" none).add "b" (some 0)).add "e" (some 0)).add "c" (some 1)).add "d" (some 1)
    a.Grown ∧ b.Grown ∧ ∃ view, PostOrder.ofTable? a = some view ∧
      (Walk.step a)^[10] .start = ⟨[], [2, 3, 1, 4, 0]⟩ ∧ view.Shows a [2, 3, 1, 4, 0] ∧
      view = ⟨#["c", "d", "b", "e", "a"], #[0, 1, 0, 3, 0], [1, 3, 4]⟩ ∧ ∃ f, SameTree a b f := by
  intro a b
  have grownA : a.Grown := .child "e" (.child "d" (.child "c" (.child "b" (.root "a")
    (by decide)) (by decide)) (by decide)) (by decide)
  have grownB : b.Grown := .child "d" (.child "c" (.child "e" (.child "b" (.root "a")
    (by decide)) (by decide)) (by decide)) (by decide)
  obtain ⟨view, order, found, walk, -, shows, tells⟩ := view_faithful grownA
  have views : (PostOrder.ofTable? a, PostOrder.ofTable? b) =
      (some ⟨#["c", "d", "b", "e", "a"], #[0, 1, 0, 3, 0], [1, 3, 4]⟩,
        some ⟨#["c", "d", "b", "e", "a"], #[0, 1, 0, 3, 0], [1, 3, 4]⟩) := by decide +kernel
  have walked : (Walk.step a)^[2 * a.size] .start = ⟨[], [2, 3, 1, 4, 0]⟩ := by decide +kernel
  rw [Prod.mk.injEq, found, Option.some.injEq] at views
  rw [walked, Walk.mk.injEq] at walk
  obtain ⟨rfl, foundB⟩ := views
  obtain ⟨-, rfl⟩ := walk
  exact ⟨grownA, grownB, _, found, walked, shows, rfl, (tells b _ grownB foundB).mp ⟨rfl, rfl⟩⟩

end Table.Grown

end SourceSimilarity.Tree
