import Mathlib.Data.Finset.Prod
import Mathlib.Order.Lattice.Nat

namespace SourceSimilarity.Tree

structure Layout (α : Type) where
  nodes : Finset Nat
  label : Nat → Option α
  Above : Nat → Nat → Prop
  LeftOf : Nat → Nat → Prop

namespace Layout

variable {α : Type}

/-- Two pairs of nodes are placed alike on both sides. -/
structure Agree (a b : Layout α) (x y : Nat × Nat) : Prop where
  same : x.1 = y.1 ↔ x.2 = y.2
  above : a.Above x.1 y.1 ↔ b.Above x.2 y.2
  leftOf : a.LeftOf x.1 y.1 ↔ b.LeftOf x.2 y.2

/-- Pairs of nodes, one to one, any two of which are placed alike on both sides. -/
structure EditMapping (a b : Layout α) where
  pairs : Finset (Nat × Nat)
  inside : ∀ x ∈ pairs, x.1 ∈ a.nodes ∧ x.2 ∈ b.nodes
  agree : ∀ x ∈ pairs, ∀ y ∈ pairs, a.Agree b x y

namespace EditMapping

variable [DecidableEq α] {a b : Layout α}

def relabeled (mapping : EditMapping a b) : Nat :=
  (mapping.pairs.filter fun x => a.label x.1 ≠ b.label x.2).card

/-- The number of nodes without a partner and of pairs with different labels. -/
def cost (mapping : EditMapping a b) : Nat :=
  (a.nodes.card - mapping.pairs.card) + (b.nodes.card - mapping.pairs.card) + mapping.relabeled

omit [DecidableEq α] in
theorem card_le_left (mapping : EditMapping a b) : mapping.pairs.card ≤ a.nodes.card := by
  apply Finset.card_le_card_of_injOn Prod.fst
  · intro x member
    exact (mapping.inside x member).1
  · intro x memberX y memberY equal
    exact Prod.ext equal ((mapping.agree x memberX y memberY).same.mp equal)

omit [DecidableEq α] in
theorem card_le_right (mapping : EditMapping a b) : mapping.pairs.card ≤ b.nodes.card := by
  apply Finset.card_le_card_of_injOn Prod.snd
  · intro x member
    exact (mapping.inside x member).2
  · intro x memberX y memberY equal
    exact Prod.ext ((mapping.agree x memberX y memberY).same.mpr equal) equal

theorem cost_add (mapping : EditMapping a b) :
    mapping.cost + 2 * mapping.pairs.card =
      a.nodes.card + b.nodes.card + mapping.relabeled := by
  have left := mapping.card_le_left
  have right := mapping.card_le_right
  unfold cost
  omega

def empty (a b : Layout α) : EditMapping a b where
  pairs := ∅
  inside := by simp
  agree := by simp

variable {c d : Layout α}

def moved (mapping : EditMapping a b) (move : Nat × Nat → Nat × Nat)
    (inside : ∀ x ∈ mapping.pairs, (move x).1 ∈ c.nodes ∧ (move x).2 ∈ d.nodes)
    (agree : ∀ x ∈ mapping.pairs, ∀ y ∈ mapping.pairs, c.Agree d (move x) (move y)) :
    EditMapping c d where
  pairs := mapping.pairs.image move
  inside := by
    intro _ member
    obtain ⟨x, memberX, rfl⟩ := Finset.mem_image.mp member
    exact inside x memberX
  agree := by
    intro _ first _ second
    obtain ⟨x, memberX, rfl⟩ := Finset.mem_image.mp first
    obtain ⟨y, memberY, rfl⟩ := Finset.mem_image.mp second
    exact agree x memberX y memberY

theorem cost_moved (mapping : EditMapping a b) {move : Nat × Nat → Nat × Nat}
    (inside : ∀ x ∈ mapping.pairs, (move x).1 ∈ c.nodes ∧ (move x).2 ∈ d.nodes)
    (agree : ∀ x ∈ mapping.pairs, ∀ y ∈ mapping.pairs, c.Agree d (move x) (move y))
    (injective : Set.InjOn move mapping.pairs)
    (labels : ∀ x ∈ mapping.pairs,
      c.label (move x).1 ≠ d.label (move x).2 ↔ a.label x.1 ≠ b.label x.2)
    (sizes : c.nodes.card + d.nodes.card = a.nodes.card + b.nodes.card) :
    (mapping.moved move inside agree).cost = mapping.cost := by
  have cards : (mapping.moved move inside agree).pairs.card = mapping.pairs.card :=
    Finset.card_image_of_injOn injective
  have relabeled : (mapping.moved move inside agree).relabeled = mapping.relabeled := by
    unfold relabeled moved
    rw [Finset.filter_image, Finset.card_image_of_injOn
      (injective.mono fun x member => (Finset.mem_filter.mp member).1), Finset.filter_congr labels]
  have cost := mapping.cost_add
  have costMoved := (mapping.moved move inside agree).cost_add
  omega

end EditMapping

variable [DecidableEq α]

noncomputable def distance (a b : Layout α) : Nat :=
  sInf (Set.range (EditMapping.cost : EditMapping a b → Nat))

theorem distance_le {a b : Layout α} (mapping : EditMapping a b) : a.distance b ≤ mapping.cost :=
  Nat.sInf_le ⟨mapping, rfl⟩

theorem exists_cost_eq_distance (a b : Layout α) :
    ∃ mapping : EditMapping a b, mapping.cost = a.distance b :=
  Nat.sInf_mem (Set.range_nonempty_iff_nonempty.mpr ⟨EditMapping.empty a b⟩)

theorem distance_isLeast (a b : Layout α) :
    IsLeast (Set.range (EditMapping.cost : EditMapping a b → Nat)) (a.distance b) := by
  refine ⟨exists_cost_eq_distance a b, ?_⟩
  rintro cost ⟨mapping, rfl⟩
  exact distance_le mapping

theorem le_distance {a b : Layout α} {bound : Nat}
    (lower : ∀ mapping : EditMapping a b, bound ≤ mapping.cost) : bound ≤ a.distance b := by
  obtain ⟨mapping, attained⟩ := exists_cost_eq_distance a b
  rw [← attained]
  exact lower mapping

theorem distance_of_left_empty {a b : Layout α} (none : a.nodes = ∅) :
    a.distance b = b.nodes.card := by
  have cost (mapping : EditMapping a b) : mapping.cost = b.nodes.card := by
    have noPair : mapping.pairs = ∅ := by
      have := mapping.card_le_left
      rw [none, Finset.card_empty, Nat.le_zero] at this
      exact Finset.card_eq_zero.mp this
    simp [EditMapping.cost, EditMapping.relabeled, noPair, none]
  obtain ⟨mapping, attained⟩ := exists_cost_eq_distance a b
  rw [← attained, cost]

omit [DecidableEq α] in
theorem Agree.swap {a b : Layout α} {x y : Nat × Nat} (agree : a.Agree b x y) :
    b.Agree a x.swap y.swap :=
  ⟨agree.same.symm, agree.above.symm, agree.leftOf.symm⟩

theorem EditMapping.exists_swapped {a b : Layout α} (mapping : EditMapping a b) :
    ∃ swapped : EditMapping b a, swapped.cost = mapping.cost :=
  ⟨_, mapping.cost_moved (fun x member => (mapping.inside x member).symm)
    (fun x memberX y memberY => (mapping.agree x memberX y memberY).swap)
    Prod.swap_injective.injOn (fun _ _ => ne_comm) (Nat.add_comm _ _)⟩

theorem distance_le_swapped (a b : Layout α) : a.distance b ≤ b.distance a := by
  apply le_distance
  intro mapping
  obtain ⟨swapped, equal⟩ := mapping.exists_swapped
  exact equal ▸ distance_le swapped

theorem distance_comm (a b : Layout α) : a.distance b = b.distance a :=
  le_antisymm (distance_le_swapped a b) (distance_le_swapped b a)

/-- Renumbering the nodes by `f` turns one layout into the other. -/
structure Same (a a' : Layout α) (f : Nat → Nat) : Prop where
  onto : Set.BijOn f a.nodes a'.nodes
  label : ∀ u ∈ a.nodes, a'.label (f u) = a.label u
  above : ∀ u ∈ a.nodes, ∀ v ∈ a.nodes, a'.Above (f u) (f v) ↔ a.Above u v
  leftOf : ∀ u ∈ a.nodes, ∀ v ∈ a.nodes, a'.LeftOf (f u) (f v) ↔ a.LeftOf u v

variable {a a' b b' : Layout α} {f g : Nat → Nat}

omit [DecidableEq α] in
theorem Same.symm (same : a.Same a' f) : ∃ back, a'.Same a back := by
  let back := Function.invFunOn f a.nodes
  have inverse : Set.InvOn back f a.nodes a'.nodes := same.onto.invOn_invFunOn
  have onto : Set.BijOn back a'.nodes a.nodes := inverse.symm.bijOn
    (fun u member => (same.onto.surjOn.mapsTo_invFunOn member)) same.onto.mapsTo
  have target : ∀ u ∈ a'.nodes, back u ∈ a.nodes ∧ f (back u) = u := fun u member =>
    ⟨onto.mapsTo member, inverse.2 member⟩
  refine ⟨back, onto, ?_, ?_, ?_⟩
  · intro u member
    obtain ⟨inside, equal⟩ := target u member
    rw [← same.label _ inside, equal]
  · intro u memberU v memberV
    obtain ⟨insideU, equalU⟩ := target u memberU
    obtain ⟨insideV, equalV⟩ := target v memberV
    rw [← same.above _ insideU _ insideV, equalU, equalV]
  · intro u memberU v memberV
    obtain ⟨insideU, equalU⟩ := target u memberU
    obtain ⟨insideV, equalV⟩ := target v memberV
    rw [← same.leftOf _ insideU _ insideV, equalU, equalV]

omit [DecidableEq α] in
theorem Same.agree (sameA : a.Same a' f) (sameB : b.Same b' g) {x y : Nat × Nat}
    (insideX : x.1 ∈ a.nodes ∧ x.2 ∈ b.nodes) (insideY : y.1 ∈ a.nodes ∧ y.2 ∈ b.nodes)
    (agree : a.Agree b x y) : a'.Agree b' (f x.1, g x.2) (f y.1, g y.2) where
  same := by
    rw [sameA.onto.injOn.eq_iff insideX.1 insideY.1, sameB.onto.injOn.eq_iff insideX.2 insideY.2]
    exact agree.same
  above := by
    rw [sameA.above _ insideX.1 _ insideY.1, sameB.above _ insideX.2 _ insideY.2]
    exact agree.above
  leftOf := by
    rw [sameA.leftOf _ insideX.1 _ insideY.1, sameB.leftOf _ insideX.2 _ insideY.2]
    exact agree.leftOf

theorem Same.exists_mapping (sameA : a.Same a' f) (sameB : b.Same b' g)
    (mapping : EditMapping a b) : ∃ moved : EditMapping a' b', moved.cost = mapping.cost := by
  have injective : Set.InjOn (fun x : Nat × Nat => (f x.1, g x.2)) mapping.pairs := by
    intro x memberX y memberY equal
    have inX := mapping.inside x memberX
    have inY := mapping.inside y memberY
    simp only [Prod.mk.injEq] at equal
    exact Prod.ext (sameA.onto.injOn inX.1 inY.1 equal.1) (sameB.onto.injOn inX.2 inY.2 equal.2)
  refine ⟨_, mapping.cost_moved ?_ ?_ injective ?_ ?_⟩
  · intro x member
    have inX := mapping.inside x member
    exact ⟨sameA.onto.mapsTo inX.1, sameB.onto.mapsTo inX.2⟩
  · intro x memberX y memberY
    exact sameA.agree sameB (mapping.inside x memberX) (mapping.inside y memberY)
      (mapping.agree x memberX y memberY)
  · intro x member
    have inX := mapping.inside x member
    rw [sameA.label _ inX.1, sameB.label _ inX.2]
  · rw [sameA.onto.finsetCard_eq, sameB.onto.finsetCard_eq]

theorem Same.distance_eq (sameA : a.Same a' f) (sameB : b.Same b' g) :
    a'.distance b' = a.distance b := by
  obtain ⟨backA, symmA⟩ := sameA.symm
  obtain ⟨backB, symmB⟩ := sameB.symm
  apply le_antisymm
  · apply le_distance
    intro mapping
    obtain ⟨moved, equal⟩ := sameA.exists_mapping sameB mapping
    exact equal ▸ distance_le moved
  · apply le_distance
    intro mapping
    obtain ⟨moved, equal⟩ := symmA.exists_mapping symmB mapping
    exact equal ▸ distance_le moved

end Layout

end SourceSimilarity.Tree
