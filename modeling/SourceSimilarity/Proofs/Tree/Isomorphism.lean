import SourceSimilarity.Scan.Artefact
import SourceSimilarity.Proofs.Tree.Places
import SourceSimilarity.Proofs.Tree.ShapeName

namespace SourceSimilarity.Tree.Table

variable {α β : Type}

/-- A bijection of the nodes of two tables that keeps the root and all parents. -/
structure SameShape (first : Table α) (second : Table β) (f : Nat → Nat) : Prop where
  onto : Set.BijOn f (Set.Iio first.size) (Set.Iio second.size)
  root : f 0 = 0
  parent : ∀ node < first.size, second.parentOf? (f node) = (first.parentOf? node).map f

def Isomorphic (first : Table α) (second : Table β) : Prop := ∃ f, SameShape first second f

namespace SameShape

variable {first : Table α} {second : Table β} {f : Nat → Nat}

theorem childrenOf_perm (same : SameShape first second f) (grown : first.Grown)
    (grownSecond : second.Grown) {node : Nat} (inside : node < first.size) :
    ((first.childrenOf node).map f).Perm (second.childrenOf (f node)) := by
  have nodup : ((first.childrenOf node).map f).Nodup := by
    refine List.Nodup.map_on ?_ ((grown.childrenOf_sorted node).imp Nat.ne_of_lt)
    intro child member other memberOther equal
    have insideChild := (grown.parent_lt (grown.mem_childrenOf.mp member)).2
    have insideOther := (grown.parent_lt (grown.mem_childrenOf.mp memberOther)).2
    exact same.onto.injOn insideChild insideOther equal
  -- neither list has a node twice, so it is enough that they have the same members
  refine (List.perm_ext_iff_of_nodup nodup
    ((grownSecond.childrenOf_sorted (f node)).imp Nat.ne_of_lt)).mpr fun image => ?_
  rw [grownSecond.mem_childrenOf, List.mem_map]
  constructor
  · rintro ⟨child, member, rfl⟩
    have rises := grown.mem_childrenOf.mp member
    rw [same.parent child (grown.parent_lt rises).2, rises, Option.map_some]
  · intro rises
    obtain ⟨child, insideChild, rfl⟩ := same.onto.surjOn (grownSecond.parent_lt rises).2
    rw [same.parent child insideChild] at rises
    obtain ⟨parent, found, equal⟩ := Option.map_eq_some_iff.mp rises
    have less := grown.parent_lt found
    obtain rfl := same.onto.injOn (less.1.trans less.2) inside equal
    exact ⟨child, grown.mem_childrenOf.mpr found, rfl⟩

theorem nameOf_eq (same : SameShape first second f) (grown : first.Grown)
    (grownSecond : second.Grown) {node : Nat} (inside : node < first.size) :
    first.nameOf node = second.nameOf (f node) := by
  induction node using grown.induction_on_children with
  | step node ih =>
      have names : (first.childrenOf node).map first.nameOf =
          ((first.childrenOf node).map f).map second.nameOf := by
        rw [List.map_map]
        apply List.map_congr_left
        intro child member
        exact ih child member (grown.parent_lt (grown.mem_childrenOf.mp member)).2
      rw [grown.nameOf_eq, grownSecond.nameOf_eq, names]
      exact nodeName_of_perm ((same.childrenOf_perm grown grownSecond inside).map second.nameOf)

end SameShape

/-- Pairs that match the nodes at or below two nodes: each node occurs once, the two nodes are
paired, and the parents of every other pair are. -/
structure Pairing (first : Table α) (second : Table β) (node partner : Nat)
    (pairs : List (Nat × Nat)) : Prop where
  left : (pairs.map Prod.fst).Perm (first.order node)
  right : (pairs.map Prod.snd).Perm (second.order partner)
  top : (node, partner) ∈ pairs
  parents : ∀ pair ∈ pairs, pair = (node, partner) ∨ ∃ above ∈ pairs,
    first.parentOf? pair.1 = some above.1 ∧ second.parentOf? pair.2 = some above.2

theorem exists_pairs_below {first : Table α} {second : Table β} {children partners : List Nat}
    (each : List.Forall₂ (fun child partner => ∃ pairs, Pairing first second child partner pairs)
      children partners) :
    ∃ pairs : List (Nat × Nat), (pairs.map Prod.fst).Perm (children.flatMap first.order) ∧
      (pairs.map Prod.snd).Perm (partners.flatMap second.order) ∧
      ∀ pair ∈ pairs, pair.1 ∈ children ∧ pair.2 ∈ partners ∨ ∃ above ∈ pairs,
        first.parentOf? pair.1 = some above.1 ∧ second.parentOf? pair.2 = some above.2 := by
  induction each with
  | nil => exact ⟨[], .nil, .nil, by simp⟩
  | @cons child partner children partners head tail ih =>
      obtain ⟨here, pairing⟩ := head
      obtain ⟨later, left, right, parents⟩ := ih
      refine ⟨here ++ later, ?_, ?_, ?_⟩
      · rw [List.map_append, List.flatMap_cons]
        exact pairing.left.append left
      · rw [List.map_append, List.flatMap_cons]
        exact pairing.right.append right
      · intro pair member
        rcases List.mem_append.mp member with inHere | inLater
        · rcases pairing.parents pair inHere with rfl | ⟨above, inside, rise⟩
          · exact .inl ⟨List.mem_cons_self, List.mem_cons_self⟩
          · exact .inr ⟨above, List.mem_append_left _ inside, rise⟩
        · rcases parents pair inLater with ⟨inChildren, inPartners⟩ | ⟨above, inside, rise⟩
          · exact .inl ⟨List.mem_cons_of_mem _ inChildren, List.mem_cons_of_mem _ inPartners⟩
          · exact .inr ⟨above, List.mem_append_right _ inside, rise⟩

namespace Grown

variable {first : Table α} {second : Table β}

theorem exists_pairing (grown : first.Grown) (grownSecond : second.Grown) {node partner : Nat}
    (equal : first.nameOf node = second.nameOf partner) :
    ∃ pairs, Pairing first second node partner pairs := by
  induction node using grown.induction_on_children generalizing partner with
  | step node ih =>
      obtain ⟨partners, paired, perm⟩ := grown.exists_paired_children grownSecond equal
      have each : List.Forall₂ (fun child other => ∃ pairs, Pairing first second child other pairs)
          (first.childrenOf node) partners := by
        rw [List.forall₂_iff_zip] at paired ⊢
        exact ⟨paired.1, fun member => ih _ (List.of_mem_zip member).1 (paired.2 member)⟩
      obtain ⟨pairs, left, right, parents⟩ := exists_pairs_below each
      refine ⟨pairs ++ [(node, partner)], ?_, ?_, by simp, ?_⟩
      · rw [grown.order_eq, List.map_append, List.map_singleton]
        exact left.append_right [node]
      · rw [grownSecond.order_eq, List.map_append, List.map_singleton]
        exact (right.trans (perm.flatMap_right second.order)).append_right [partner]
      · intro pair member
        rcases List.mem_append.mp member with below | top
        · right
          rcases parents pair below with ⟨inChildren, inPartners⟩ | ⟨above, inside, rise⟩
          · refine ⟨(node, partner), by simp, grown.mem_childrenOf.mp inChildren, ?_⟩
            exact grownSecond.mem_childrenOf.mp (perm.subset inPartners)
          · exact ⟨above, List.mem_append_left _ inside, rise⟩
        · exact .inl (List.mem_singleton.mp top)

theorem isomorphic_of_pairing (grown : first.Grown) (grownSecond : second.Grown)
    {pairs : List (Nat × Nat)} (pairing : Pairing first second 0 0 pairs) :
    Isomorphic first second := by
  have nodupLeft : (pairs.map Prod.fst).Nodup := pairing.left.nodup_iff.mpr (grown.nodup_order 0)
  have nodupRight : (pairs.map Prod.snd).Nodup :=
    pairing.right.nodup_iff.mpr (grownSecond.nodup_order 0)
  have paired : ∀ node, ∃ partner, node < first.size → (node, partner) ∈ pairs := by
    intro node
    by_cases inside : node < first.size
    · have member := pairing.left.mem_iff.mpr ((grown.mem_order_root node).mpr inside)
      obtain ⟨⟨_, partner⟩, found, rfl⟩ := List.mem_map.mp member
      exact ⟨partner, fun _ => found⟩
    · exact ⟨0, fun below => absurd below inside⟩
  choose f image using paired
  -- a node occurs once on the left, so the pairs are the graph of `f`
  have image_eq : ∀ {node partner}, node < first.size → (node, partner) ∈ pairs →
      f node = partner := by
    intro node partner inside member
    exact (Prod.mk.inj (List.inj_on_of_nodup_map nodupLeft (image node inside) member rfl)).2
  refine ⟨f, ⟨?_, ?_, ?_⟩, image_eq grown.size_pos pairing.top, ?_⟩
  · intro node inside
    have member := List.mem_map_of_mem (f := Prod.snd) (image node inside)
    exact (grownSecond.mem_order_root _).mp (pairing.right.mem_iff.mp member)
  · intro node inside other insideOther equal
    have same := List.inj_on_of_nodup_map nodupRight (image node inside) (image other insideOther)
    exact (Prod.mk.inj (same equal)).1
  · intro partner inside
    have member := pairing.right.mem_iff.mpr ((grownSecond.mem_order_root partner).mpr inside)
    obtain ⟨⟨node, _⟩, found, rfl⟩ := List.mem_map.mp member
    have insideNode := (grown.mem_order_root node).mp
      (pairing.left.mem_iff.mp (List.mem_map_of_mem (f := Prod.fst) found))
    exact ⟨node, insideNode, image_eq insideNode found⟩
  · intro node inside
    rcases pairing.parents _ (image node inside) with top | ⟨above, member, rise, riseSecond⟩
    · obtain ⟨rfl, zero⟩ := Prod.mk.inj top
      rw [zero, grown.parentOf?_root, grownSecond.parentOf?_root, Option.map_none]
    · have less := grown.parent_lt rise
      rw [rise, riseSecond, Option.map_some, image_eq (less.1.trans less.2) member]

theorem shapeName_eq_iff (grown : first.Grown) (grownSecond : second.Grown) :
    first.shapeName = second.shapeName ↔ Isomorphic first second := by
  rw [grown.shapeName_eq, grownSecond.shapeName_eq]
  constructor
  · intro equal
    obtain ⟨pairs, pairing⟩ := grown.exists_pairing grownSecond equal
    exact grown.isomorphic_of_pairing grownSecond pairing
  · rintro ⟨f, same⟩
    rw [same.nameOf_eq grown grownSecond grown.size_pos, same.root]

theorem compare_shapeNames (first second : List Char) :
    Artefact.compare .isomorphism (some first : Option (List Char))
      (some second : Option (List Char)) = (if first = second then 0 else 1, none) := rfl

/-- Names are canonical: they are equal just for isomorphic trees, and the comparison of two trees
by shape gives 0 on isomorphic ones and 1 on all others. -/
theorem shapeName_canonical (grown : first.Grown) (grownSecond : second.Grown) :
    (first.shapeName = second.shapeName ↔ Isomorphic first second) ∧
    (Artefact.compare .isomorphism (some first.shapeName : Option (List Char))
      (some second.shapeName : Option (List Char)) = (0, none) ↔ Isomorphic first second) ∧
    (Artefact.compare .isomorphism (some first.shapeName : Option (List Char))
      (some second.shapeName : Option (List Char)) = (1, none) ↔ ¬ Isomorphic first second) := by
  rw [compare_shapeNames, ← grown.shapeName_eq_iff grownSecond]
  by_cases equal : first.shapeName = second.shapeName
  · simp [equal]
  · simp [equal]

theorem shapeName_canonical_of_swapped_siblings :
    Artefact.compare .isomorphism
      (some ((((empty.add 'r' none).add 'a' (some 0)).add 'b' (some 0)).add 'c' (some 1)).shapeName :
        Option (List Char))
      (some ((((empty.add 's' none).add 'a' (some 0)).add 'b' (some 0)).add 'c' (some 2)).shapeName :
        Option (List Char)) = (0, none) := by
  have grown : ((((empty.add 'r' none).add 'a' (some 0)).add 'b' (some 0)).add 'c' (some 1)).Grown :=
    .child _ (.child _ (.child _ (.root _) (by decide)) (by decide)) (by decide)
  have grownSecond :
      ((((empty.add 's' none).add 'a' (some 0)).add 'b' (some 0)).add 'c' (some 2)).Grown :=
    .child _ (.child _ (.child _ (.root _) (by decide)) (by decide)) (by decide)
  exact (grown.shapeName_canonical grownSecond).2.1.mpr
    ⟨Equiv.swap 1 2, Equiv.swap_bijOn_self (by decide), rfl, by decide⟩

end Grown

end SourceSimilarity.Tree.Table
