import SourceSimilarity.Proofs.Tree.Composition
import SourceSimilarity.Proofs.Tree.Isomorphism

namespace SourceSimilarity.Tree

variable {α β : Type}

mutual

theorem map_injective {f : α → β} (injective : Function.Injective f) :
    (tree other : Tree α) → tree.map f = other.map f → tree = other
  | .node label children, .node label' children', equal => by
    rw [map, map, node.injEq] at equal
    rw [injective equal.1, mapAll_injective injective children children' equal.2]

theorem mapAll_injective {f : α → β} (injective : Function.Injective f) :
    (trees others : List (Tree α)) → mapAll f trees = mapAll f others → trees = others
  | [], [], _ => rfl
  | [], _ :: _, equal => by cases equal
  | _ :: _, [], equal => by cases equal
  | tree :: trees, other :: others, equal => by
    rw [mapAll, mapAll, List.cons.injEq] at equal
    rw [map_injective injective tree other equal.1, mapAll_injective injective trees others equal.2]

end

namespace Table

/-- A bijection of the nodes of two tables that keeps the root, all labels and the children of every
node in their order. -/
structure SameTree (first second : Table α) (f : Nat → Nat) : Prop where
  onto : Set.BijOn f (Set.Iio first.size) (Set.Iio second.size)
  root : f 0 = 0
  label : ∀ node < first.size, second.labelOf? (f node) = first.labelOf? node
  children : ∀ node < first.size, second.childrenOf (f node) = (first.childrenOf node).map f

variable {first second : Table α} {f : Nat → Nat}

theorem SameTree.sameShape (same : SameTree first second f) (grown : first.Grown)
    (grownSecond : second.Grown) : SameShape first second f where
  onto := same.onto
  root := same.root
  parent node inside := by
    rcases Nat.eq_zero_or_pos node with rfl | later
    · rw [same.root, grown.parentOf?_root, grownSecond.parentOf?_root, Option.map_none]
    · obtain ⟨parent, rises⟩ := grown.exists_parent later inside
      have insideParent := (grown.parent_lt rises).1.trans inside
      have member := List.mem_map_of_mem (f := f) (grown.mem_childrenOf.mpr rises)
      rw [← same.children parent insideParent, grownSecond.mem_childrenOf] at member
      rw [member, rises, Option.map_some]

namespace Grown

theorem leftOf_asymm (grown : first.Grown) {left right : Nat} (inside : left < first.size)
    (insideRight : right < first.size) (leftOf : first.LeftOf left right) :
    ¬ first.LeftOf right left := by
  intro back
  obtain ⟨tree, -, assembled⟩ := grown.toTree?_eq
  have low := (PostOrder.sound_ofTree tree).leaf_le
  have forth := grown.place_lt_leaf_of_leftOf assembled inside insideRight leftOf
  have back := grown.place_lt_leaf_of_leftOf assembled insideRight inside back
  have := low (first.place left)
  have := low (first.place right)
  omega

theorem lt_of_leftOf (grown : first.Grown) {parent child later : Nat}
    (member : child ∈ first.childrenOf parent) (memberLater : later ∈ first.childrenOf parent)
    (leftOf : first.LeftOf child later) : child < later := by
  have inside := (grown.parent_lt (grown.mem_childrenOf.mp member)).2
  have insideLater := (grown.parent_lt (grown.mem_childrenOf.mp memberLater)).2
  rcases lt_trichotomy child later with less | rfl | greater
  · exact less
  · exact absurd leftOf (grown.leftOf_asymm inside insideLater leftOf)
  · exact absurd (grown.leftOf_of_lt memberLater member greater .refl .refl)
      (grown.leftOf_asymm inside insideLater leftOf)

theorem above_of_root (grown : first.Grown) {node : Nat} (later : 0 < node)
    (inside : node < first.size) : first.Above 0 node :=
  (Relation.reflTransGen_iff_eq_or_transGen.mp (grown.atOrAbove_root inside)).resolve_left later.ne

theorem atOrAbove_parent {node parent upper : Nat} (rises : first.parentOf? node = some parent)
    (above : first.Above upper node) : first.AtOrAbove upper parent := by
  obtain ⟨next, rises', rest⟩ := Relation.TransGen.head'_iff.mp above
  obtain rfl := Option.some.inj (rises.symm.trans rises')
  exact rest

variable (grown : first.Grown) (grownSecond : second.Grown)
include grown grownSecond

theorem root_of_same_layout (same : first.layout.Same second.layout f) : f 0 = 0 := by
  by_contra moved
  obtain ⟨node, member, image⟩ := same.onto.surjOn (Finset.mem_range.mpr grownSecond.size_pos)
  have inside := Finset.mem_range.mp member
  have later : 0 < node := Nat.pos_of_ne_zero fun zero => moved (zero ▸ image)
  have above := (same.above 0 (Finset.mem_range.mpr grown.size_pos) node member).mpr
    (grown.above_of_root later inside)
  rw [image] at above
  exact Nat.not_lt_zero _ (grownSecond.lt_of_above above)

theorem parent_of_same_layout (same : first.layout.Same second.layout f) {node parent : Nat}
    (rises : first.parentOf? node = some parent) : second.parentOf? (f node) = some (f parent) := by
  have inside := grown.parent_lt rises
  have member : node ∈ first.layout.nodes := Finset.mem_range.mpr inside.2
  have memberParent : parent ∈ first.layout.nodes :=
    Finset.mem_range.mpr (inside.1.trans inside.2)
  have insideImage := Finset.mem_range.mp (same.onto.mapsTo member)
  have above : second.Above (f parent) (f node) :=
    (same.above parent memberParent node member).mpr (.single rises)
  obtain ⟨next, risesImage, -⟩ := Relation.TransGen.head'_iff.mp above
  obtain ⟨other, memberOther, rfl⟩ := same.onto.surjOn (Finset.mem_range.mpr
    ((grownSecond.parent_lt risesImage).1.trans insideImage))
  have aboveOther : first.Above other node :=
    (same.above other memberOther node member).mp (.single risesImage)
  -- the parents on both sides lie above each other
  rcases Relation.reflTransGen_iff_eq_or_transGen.mp (atOrAbove_parent rises aboveOther) with
    equal | strict
  · rw [risesImage, equal]
  · have upper := (same.above other memberOther parent memberParent).mpr strict
    have lower := grownSecond.le_of_atOrAbove (atOrAbove_parent risesImage above)
    exact absurd (grownSecond.lt_of_above upper) (not_lt.mpr lower)

theorem sameShape_of_same_layout (same : first.layout.Same second.layout f) :
    SameShape first second f where
  onto := by
    have onto := same.onto
    simpa only [layout, Finset.coe_range] using onto
  root := grown.root_of_same_layout grownSecond same
  parent node inside := by
    rcases Nat.eq_zero_or_pos node with rfl | later
    · rw [grown.root_of_same_layout grownSecond same, grown.parentOf?_root,
        grownSecond.parentOf?_root, Option.map_none]
    · obtain ⟨parent, rises⟩ := grown.exists_parent later inside
      rw [grown.parent_of_same_layout grownSecond same rises, rises, Option.map_some]

theorem sameTree_of_same_layout (same : first.layout.Same second.layout f) :
    SameTree first second f where
  onto := (grown.sameShape_of_same_layout grownSecond same).onto
  root := grown.root_of_same_layout grownSecond same
  label node inside := same.label node (Finset.mem_range.mpr inside)
  children node inside := by
    have shape := grown.sameShape_of_same_layout grownSecond same
    have perm := shape.childrenOf_perm grown grownSecond inside
    -- both lists of children are ascending, so they are equal as they have the same members
    refine (List.Perm.eq_of_pairwise (fun _ _ _ _ less greater => absurd less greater.asymm) ?_
      (grownSecond.childrenOf_sorted (f node)) perm).symm
    refine List.pairwise_map.mpr ((grown.childrenOf_sorted node).imp_of_mem ?_)
    intro child later member memberLater less
    have inChildren := perm.subset (List.mem_map_of_mem member)
    have inChildrenLater := perm.subset (List.mem_map_of_mem memberLater)
    have insideChild := (grown.parent_lt (grown.mem_childrenOf.mp member)).2
    have insideLater := (grown.parent_lt (grown.mem_childrenOf.mp memberLater)).2
    refine grownSecond.lt_of_leftOf inChildren inChildrenLater ?_
    exact (same.leftOf child (Finset.mem_range.mpr insideChild) later
      (Finset.mem_range.mpr insideLater)).mpr
        (grown.leftOf_of_lt member memberLater less .refl .refl)

theorem labelled_eq (same : SameTree first second f) {node : Nat} (inside : node < first.size) :
    (second.numbered (f node)).map second.labelOf? = (first.numbered node).map first.labelOf? := by
  induction node using grown.induction_on_children with
  | step node ih =>
      rw [grown.numbered_eq, grownSecond.numbered_eq, Tree.map, Tree.map, mapAll_eq, mapAll_eq,
        same.label node inside, same.children node inside, List.map_map, List.map_map, List.map_map]
      congr 1
      apply List.map_congr_left
      intro child member
      exact ih child member (grown.parent_lt (grown.mem_childrenOf.mp member)).2

theorem toTree?_eq_of_sameTree (same : SameTree first second f) :
    first.toTree? = second.toTree? := by
  obtain ⟨tree, found, assembled⟩ := grown.toTree?_eq
  obtain ⟨other, foundOther, assembledOther⟩ := grownSecond.toTree?_eq
  have labelled := grown.labelled_eq grownSecond same grown.size_pos
  rw [same.root, ← assembledOther, ← assembled] at labelled
  rw [found, foundOther, map_injective (Option.some_injective α) other tree labelled]

theorem exists_same_layout_of_toTree?_eq (equal : first.toTree? = second.toTree?) :
    ∃ f, first.layout.Same second.layout f := by
  obtain ⟨tree, found, assembled⟩ := grown.toTree?_eq
  obtain ⟨other, foundOther, assembledOther⟩ := grownSecond.toTree?_eq
  obtain rfl := Option.some.inj (found.symm.trans (equal.trans foundOther))
  -- both layouts are that of the post-order view of the one tree
  obtain ⟨back, same⟩ := (grownSecond.same_layout assembledOther).symm
  exact ⟨_, (grown.same_layout assembled).trans same⟩

theorem toTree?_eq_iff : first.toTree? = second.toTree? ↔ ∃ f, SameTree first second f := by
  constructor
  · intro equal
    obtain ⟨f, same⟩ := grown.exists_same_layout_of_toTree?_eq grownSecond equal
    exact ⟨f, grown.sameTree_of_same_layout grownSecond same⟩
  · rintro ⟨f, same⟩
    exact grown.toTree?_eq_of_sameTree grownSecond same

theorem exists_same_layout_iff :
    (∃ f, first.layout.Same second.layout f) ↔ ∃ f, SameTree first second f := by
  constructor
  · rintro ⟨f, same⟩
    exact ⟨f, grown.sameTree_of_same_layout grownSecond same⟩
  · intro same
    exact grown.exists_same_layout_of_toTree?_eq grownSecond
      ((grown.toTree?_eq_iff grownSecond).mpr same)

end Grown

end Table

end SourceSimilarity.Tree
