import SourceSimilarity.Proofs.Tree.Layout

namespace SourceSimilarity.Tree.Layout

variable {α : Type} {a b c : Layout α}

theorem Agree.trans {u v w u' v' w' : Nat} (first : a.Agree b (u, v) (u', v'))
    (second : b.Agree c (v, w) (v', w')) : a.Agree c (u, w) (u', w') where
  same := first.same.trans second.same
  above := first.above.trans second.above
  leftOf := first.leftOf.trans second.leftOf

namespace EditMapping

theorem card_image_fst (mapping : EditMapping a b) :
    (mapping.pairs.image Prod.fst).card = mapping.pairs.card :=
  Finset.card_image_of_injOn fun x memberX y memberY equal =>
    Prod.ext equal ((mapping.agree x memberX y memberY).same.mp equal)

theorem card_image_snd (mapping : EditMapping a b) :
    (mapping.pairs.image Prod.snd).card = mapping.pairs.card :=
  Finset.card_image_of_injOn fun x memberX y memberY equal =>
    Prod.ext ((mapping.agree x memberX y memberY).same.mpr equal) equal

def joined (first : EditMapping a b) (second : EditMapping b c) :
    Finset ((Nat × Nat) × (Nat × Nat)) :=
  (first.pairs ×ˢ second.pairs).filter fun x => x.1.2 = x.2.1

def outer (x : (Nat × Nat) × (Nat × Nat)) : Nat × Nat := (x.1.1, x.2.2)

variable (first : EditMapping a b) (second : EditMapping b c)

theorem mem_joined {x : (Nat × Nat) × (Nat × Nat)} :
    x ∈ first.joined second ↔ x.1 ∈ first.pairs ∧ x.2 ∈ second.pairs ∧ x.1.2 = x.2.1 := by
  rw [joined, Finset.mem_filter, Finset.mem_product, and_assoc]

theorem agree_outer {x y : (Nat × Nat) × (Nat × Nat)} (memberX : x ∈ first.joined second)
    (memberY : y ∈ first.joined second) : a.Agree c (outer x) (outer y) := by
  obtain ⟨firstX, secondX, meetX⟩ := (first.mem_joined second).mp memberX
  obtain ⟨firstY, secondY, meetY⟩ := (first.mem_joined second).mp memberY
  have agree := second.agree x.2 secondX y.2 secondY
  rw [← Prod.mk.eta (p := x.2), ← Prod.mk.eta (p := y.2), ← meetX, ← meetY] at agree
  exact (first.agree x.1 firstX y.1 firstY).trans agree

theorem eq_of_first_eq {x y : (Nat × Nat) × (Nat × Nat)} (memberX : x ∈ first.joined second)
    (memberY : y ∈ first.joined second) (same : x.1 = y.1) : x = y := by
  obtain ⟨-, secondX, meetX⟩ := (first.mem_joined second).mp memberX
  obtain ⟨-, secondY, meetY⟩ := (first.mem_joined second).mp memberY
  have middle : x.2.1 = y.2.1 := by rw [← meetX, ← meetY, same]
  exact Prod.ext same
    (Prod.ext middle ((second.agree x.2 secondX y.2 secondY).same.mp middle))

theorem eq_of_second_eq {x y : (Nat × Nat) × (Nat × Nat)} (memberX : x ∈ first.joined second)
    (memberY : y ∈ first.joined second) (same : x.2 = y.2) : x = y := by
  obtain ⟨firstX, -, meetX⟩ := (first.mem_joined second).mp memberX
  obtain ⟨firstY, -, meetY⟩ := (first.mem_joined second).mp memberY
  have middle : x.1.2 = y.1.2 := by rw [meetX, meetY, same]
  exact Prod.ext
    (Prod.ext ((first.agree x.1 firstX y.1 firstY).same.mpr middle) middle) same

theorem outer_injOn : Set.InjOn outer (first.joined second) := by
  intro x memberX y memberY equal
  obtain ⟨left, right⟩ := Prod.mk.inj equal
  have firstX := ((first.mem_joined second).mp memberX).1
  have firstY := ((first.mem_joined second).mp memberY).1
  exact first.eq_of_first_eq second memberX memberY
    (Prod.ext left ((first.agree x.1 firstX y.1 firstY).same.mp left))

def comp : EditMapping a c where
  pairs := (first.joined second).image outer
  inside := by
    intro _ member
    obtain ⟨x, inside, rfl⟩ := Finset.mem_image.mp member
    obtain ⟨inFirst, inSecond, -⟩ := (first.mem_joined second).mp inside
    exact ⟨(first.inside _ inFirst).1, (second.inside _ inSecond).2⟩
  agree := by
    intro _ memberX _ memberY
    obtain ⟨x, insideX, rfl⟩ := Finset.mem_image.mp memberX
    obtain ⟨y, insideY, rfl⟩ := Finset.mem_image.mp memberY
    exact first.agree_outer second insideX insideY

theorem card_comp : (first.comp second).pairs.card = (first.joined second).card :=
  Finset.card_image_of_injOn (first.outer_injOn second)

theorem card_add_card_le :
    first.pairs.card + second.pairs.card ≤ b.nodes.card + (first.joined second).card := by
  have fromLeft := first.card_image_snd
  have fromRight := second.card_image_fst
  have inMiddle : first.pairs.image Prod.snd ∪ second.pairs.image Prod.fst ⊆ b.nodes := by
    apply Finset.union_subset
    · exact Finset.image_subset_iff.mpr fun x member => (first.inside x member).2
    · exact Finset.image_subset_iff.mpr fun x member => (second.inside x member).1
  have met : first.pairs.image Prod.snd ∩ second.pairs.image Prod.fst ⊆
      (first.joined second).image fun x => x.1.2 := by
    intro node member
    obtain ⟨left, right⟩ := Finset.mem_inter.mp member
    obtain ⟨x, memberX, rfl⟩ := Finset.mem_image.mp left
    obtain ⟨y, memberY, equal⟩ := Finset.mem_image.mp right
    exact Finset.mem_image.mpr
      ⟨(x, y), (first.mem_joined second).mpr ⟨memberX, memberY, equal.symm⟩, rfl⟩
  have bound := Finset.card_le_card inMiddle
  have bound' := (Finset.card_le_card met).trans Finset.card_image_le
  have split := Finset.card_union_add_card_inter (first.pairs.image Prod.snd)
    (second.pairs.image Prod.fst)
  omega

variable [DecidableEq α]

theorem relabeled_comp_le :
    (first.comp second).relabeled ≤ first.relabeled + second.relabeled := by
  have outside : (first.comp second).relabeled =
      ((first.joined second).filter fun x => a.label x.1.1 ≠ c.label x.2.2).card := by
    unfold relabeled comp
    rw [Finset.filter_image, Finset.card_image_of_injOn
      ((first.outer_injOn second).mono fun x member => (Finset.mem_filter.mp member).1)]
    rfl
  have left : ((first.joined second).filter fun x => a.label x.1.1 ≠ b.label x.1.2).card ≤
      first.relabeled := by
    apply Finset.card_le_card_of_injOn Prod.fst
    · intro x member
      obtain ⟨inside, differ⟩ := Finset.mem_filter.mp member
      exact Finset.mem_filter.mpr ⟨((first.mem_joined second).mp inside).1, differ⟩
    · intro x memberX y memberY
      exact first.eq_of_first_eq second (Finset.mem_filter.mp memberX).1
        (Finset.mem_filter.mp memberY).1
  have right : ((first.joined second).filter fun x => b.label x.2.1 ≠ c.label x.2.2).card ≤
      second.relabeled := by
    apply Finset.card_le_card_of_injOn Prod.snd
    · intro x member
      obtain ⟨inside, differ⟩ := Finset.mem_filter.mp member
      exact Finset.mem_filter.mpr ⟨((first.mem_joined second).mp inside).2.1, differ⟩
    · intro x memberX y memberY
      exact first.eq_of_second_eq second (Finset.mem_filter.mp memberX).1
        (Finset.mem_filter.mp memberY).1
  -- where the outer labels differ, the label in the middle differs from one of them
  have cover : ((first.joined second).filter fun x => a.label x.1.1 ≠ c.label x.2.2) ⊆
      ((first.joined second).filter fun x => a.label x.1.1 ≠ b.label x.1.2) ∪
        (first.joined second).filter fun x => b.label x.2.1 ≠ c.label x.2.2 := by
    intro x member
    obtain ⟨inside, differ⟩ := Finset.mem_filter.mp member
    have meet := ((first.mem_joined second).mp inside).2.2
    by_cases same : a.label x.1.1 = b.label x.1.2
    · refine Finset.mem_union_right _ (Finset.mem_filter.mpr ⟨inside, fun same' => differ ?_⟩)
      rw [same, meet, same']
    · exact Finset.mem_union_left _ (Finset.mem_filter.mpr ⟨inside, same⟩)
  have bound := (Finset.card_le_card cover).trans (Finset.card_union_le _ _)
  omega

theorem cost_comp_le : (first.comp second).cost ≤ first.cost + second.cost := by
  have outside := (first.comp second).cost_add
  have left := first.cost_add
  have right := second.cost_add
  have cards := first.card_add_card_le second
  have labels := first.relabeled_comp_le second
  rw [first.card_comp second] at outside
  omega

end EditMapping

variable [DecidableEq α]

theorem distance_triangle (a b c : Layout α) : a.distance c ≤ a.distance b + b.distance c := by
  obtain ⟨first, costFirst⟩ := exists_cost_eq_distance a b
  obtain ⟨second, costSecond⟩ := exists_cost_eq_distance b c
  rw [← costFirst, ← costSecond]
  exact (distance_le (first.comp second)).trans (first.cost_comp_le second)

omit [DecidableEq α] in
theorem Same.refl (a : Layout α) : a.Same a id where
  onto := Set.bijOn_id _
  label _ _ := rfl
  above _ _ _ _ := Iff.rfl
  leftOf _ _ _ _ := Iff.rfl

omit [DecidableEq α] in
theorem Same.trans {f g : Nat → Nat} (first : a.Same b f) (second : b.Same c g) :
    a.Same c (g ∘ f) where
  onto := second.onto.comp first.onto
  label u member := (second.label _ (first.onto.mapsTo member)).trans (first.label u member)
  above u memberU v memberV :=
    (second.above _ (first.onto.mapsTo memberU) _ (first.onto.mapsTo memberV)).trans
      (first.above u memberU v memberV)
  leftOf u memberU v memberV :=
    (second.leftOf _ (first.onto.mapsTo memberU) _ (first.onto.mapsTo memberV)).trans
      (first.leftOf u memberU v memberV)

theorem distance_self (a : Layout α) : a.distance a = 0 := by
  let diagonal : EditMapping a a := {
    pairs := a.nodes.image fun node => (node, node)
    inside := by
      intro _ member
      obtain ⟨node, inside, rfl⟩ := Finset.mem_image.mp member
      exact ⟨inside, inside⟩
    agree := by
      intro _ first _ second
      obtain ⟨node, -, rfl⟩ := Finset.mem_image.mp first
      obtain ⟨other, -, rfl⟩ := Finset.mem_image.mp second
      exact ⟨Iff.rfl, Iff.rfl, Iff.rfl⟩ }
  have cards : diagonal.pairs.card = a.nodes.card :=
    Finset.card_image_of_injective _ fun _ _ equal => (Prod.mk.inj equal).1
  have relabeled : diagonal.relabeled = 0 := by
    rw [EditMapping.relabeled, Finset.card_eq_zero, Finset.filter_eq_empty_iff]
    intro _ member
    obtain ⟨node, -, rfl⟩ := Finset.mem_image.mp member
    exact not_not_intro rfl
  have free : diagonal.cost = 0 := by
    rw [EditMapping.cost, cards, relabeled, Nat.sub_self]
  exact Nat.le_zero.mp (free ▸ distance_le diagonal)

theorem EditMapping.exists_same_of_cost_eq_zero (mapping : EditMapping a b)
    (free : mapping.cost = 0) : ∃ f, a.Same b f := by
  obtain ⟨alone, relabeled⟩ := Nat.add_eq_zero_iff.mp free
  obtain ⟨left, right⟩ := Nat.add_eq_zero_iff.mp alone
  have fromLeft : mapping.pairs.image Prod.fst = a.nodes := by
    apply Finset.eq_of_subset_of_card_le
    · exact Finset.image_subset_iff.mpr fun x member => (mapping.inside x member).1
    · rw [mapping.card_image_fst]
      exact Nat.sub_eq_zero_iff_le.mp left
  have fromRight : mapping.pairs.image Prod.snd = b.nodes := by
    apply Finset.eq_of_subset_of_card_le
    · exact Finset.image_subset_iff.mpr fun x member => (mapping.inside x member).2
    · rw [mapping.card_image_snd]
      exact Nat.sub_eq_zero_iff_le.mp right
  have labels : ∀ x ∈ mapping.pairs, a.label x.1 = b.label x.2 := by
    rw [EditMapping.relabeled, Finset.card_eq_zero, Finset.filter_eq_empty_iff] at relabeled
    exact fun x member => not_not.mp (relabeled member)
  have paired : ∀ node, ∃ partner, node ∈ a.nodes → (node, partner) ∈ mapping.pairs := by
    intro node
    by_cases inside : node ∈ a.nodes
    · rw [← fromLeft] at inside
      obtain ⟨⟨_, partner⟩, member, rfl⟩ := Finset.mem_image.mp inside
      exact ⟨partner, fun _ => member⟩
    · exact ⟨0, fun member => absurd member inside⟩
  choose f image using paired
  have agree : ∀ u ∈ a.nodes, ∀ v ∈ a.nodes, a.Agree b (u, f u) (v, f v) := fun u memberU v memberV =>
    mapping.agree _ (image u memberU) _ (image v memberV)
  refine ⟨f, ⟨?_, ?_, ?_⟩, ?_, ?_, ?_⟩
  · exact fun u member => (mapping.inside _ (image u member)).2
  · exact fun u memberU v memberV equal => (agree u memberU v memberV).same.mpr equal
  · intro partner member
    rw [← fromRight] at member
    obtain ⟨⟨u, _⟩, inside, rfl⟩ := Finset.mem_image.mp member
    have memberU := (mapping.inside _ inside).1
    exact ⟨u, memberU, (mapping.agree _ (image u memberU) _ inside).same.mp rfl⟩
  · exact fun u member => (labels _ (image u member)).symm
  · exact fun u memberU v memberV => (agree u memberU v memberV).above.symm
  · exact fun u memberU v memberV => (agree u memberU v memberV).leftOf.symm

theorem distance_eq_zero_iff : a.distance b = 0 ↔ ∃ f, a.Same b f := by
  constructor
  · intro none
    obtain ⟨mapping, cost⟩ := exists_cost_eq_distance a b
    exact mapping.exists_same_of_cost_eq_zero (cost.trans none)
  · rintro ⟨f, same⟩
    rw [(Same.refl a).distance_eq same, distance_self]

end SourceSimilarity.Tree.Layout
