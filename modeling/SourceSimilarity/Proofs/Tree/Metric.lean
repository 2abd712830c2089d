import SourceSimilarity.Proofs.Tree.EditDistance
import SourceSimilarity.Proofs.Tree.SameTree

namespace SourceSimilarity.Tree.Table.Grown

theorem compare_views (viewA viewB : PostOrder String) :
    Artefact.compare .treeEdit (some viewA : Option (PostOrder String))
      (some viewB : Option (PostOrder String)) = (editDistance viewA viewB, none) := rfl

variable {a b c : Table String}

theorem editDistance_of_views (grownA : a.Grown) (grownB : b.Grown) {viewA viewB : PostOrder String}
    (foundA : PostOrder.ofTable? a = some viewA) (foundB : PostOrder.ofTable? b = some viewB) :
    editDistance viewA viewB = a.layout.distance b.layout := by
  obtain ⟨_, _, foundA', foundB', equal⟩ := exists_views grownA grownB
  obtain rfl := Option.some.inj (foundA.symm.trans foundA')
  obtain rfl := Option.some.inj (foundB.symm.trans foundB')
  exact equal

theorem layout_agree_root (grownA : a.Grown) (grownB : b.Grown) :
    a.layout.Agree b.layout (0, 0) (0, 0) where
  same := Iff.rfl
  above := ⟨fun above => absurd (grownA.lt_of_above above) (lt_irrefl _),
    fun above => absurd (grownB.lt_of_above above) (lt_irrefl _)⟩
  leftOf := ⟨fun left => absurd left (grownA.leftOf_asymm grownA.size_pos grownA.size_pos left),
    fun left => absurd left (grownB.leftOf_asymm grownB.size_pos grownB.size_pos left)⟩

/-- Mapping only the root to the root leaves one node fewer alone on each side, and costs one at
most. -/
theorem distance_lt_add (grownA : a.Grown) (grownB : b.Grown) :
    a.layout.distance b.layout < a.size + b.size := by
  let mapping : a.layout.EditMapping b.layout := {
    pairs := {(0, 0)}
    inside := by
      intro x member
      obtain rfl := Finset.mem_singleton.mp member
      exact ⟨Finset.mem_range.mpr grownA.size_pos, Finset.mem_range.mpr grownB.size_pos⟩
    agree := by
      intro x member y member'
      obtain rfl := Finset.mem_singleton.mp member
      obtain rfl := Finset.mem_singleton.mp member'
      exact layout_agree_root grownA grownB }
  have cost := mapping.cost_add
  have one : mapping.pairs.card = 1 := Finset.card_singleton _
  have few : mapping.relabeled ≤ 1 := one ▸ Finset.card_filter_le _ _
  have nodesA : a.layout.nodes.card = a.size := Finset.card_range _
  have nodesB : b.layout.nodes.card = b.size := Finset.card_range _
  have least := Layout.distance_le mapping
  omega

theorem size_of_view (grown : a.Grown) {view : PostOrder String}
    (found : PostOrder.ofTable? a = some view) : view.size = a.size := by
  obtain ⟨tree, found', assembled⟩ := grown.exists_view
  obtain rfl := Option.some.inj (found.symm.trans found')
  rw [PostOrder.size_ofTree, grown.size_eq assembled]

theorem distance_eq_zero_iff (grownA : a.Grown) (grownB : b.Grown) :
    a.layout.distance b.layout = 0 ↔ ∃ f, SameTree a b f := by
  rw [Layout.distance_eq_zero_iff, grownA.exists_same_layout_iff grownB]

theorem shapeName_eq_of_sameTree (grownA : a.Grown) (grownB : b.Grown)
    (same : ∃ f, SameTree a b f) : a.shapeName = b.shapeName := by
  obtain ⟨f, same⟩ := same
  exact (grownA.shapeName_eq_iff grownB).mpr ⟨f, same.sameShape grownA grownB⟩

/-- The edit distance is a metric. It is 0 just for two tables of the same labelled ordered tree, so
where the comparison of trees gives 0 the comparison of shapes does so too. -/
theorem editDistance_metric (grownA : a.Grown) (grownB : b.Grown) (grownC : c.Grown) :
    ∃ viewA viewB viewC, PostOrder.ofTable? a = some viewA ∧ PostOrder.ofTable? b = some viewB ∧
      PostOrder.ofTable? c = some viewC ∧
      (editDistance viewA viewB = 0 ↔ ∃ f, SameTree a b f) ∧
      (editDistance viewA viewB = 0 ↔ a.toTree? = b.toTree?) ∧
      editDistance viewA viewB = editDistance viewB viewA ∧
      editDistance viewA viewC ≤ editDistance viewA viewB + editDistance viewB viewC ∧
      (editDistance viewA viewB = 0 → a.shapeName = b.shapeName) ∧
      ((Artefact.compare .treeEdit (some viewA : Option (PostOrder String))
          (some viewB : Option (PostOrder String))).1 = 0 →
        (Artefact.compare .isomorphism (some a.shapeName : Option (List Char))
          (some b.shapeName : Option (List Char))).1 = 0) := by
  obtain ⟨viewA, viewB, foundA, foundB, -⟩ := exists_views grownA grownB
  obtain ⟨viewC, -, foundC, -, -⟩ := exists_views grownC grownC
  have zero := grownA.distance_eq_zero_iff grownB
  have names : a.layout.distance b.layout = 0 → a.shapeName = b.shapeName := fun none =>
    grownA.shapeName_eq_of_sameTree grownB (zero.mp none)
  refine ⟨viewA, viewB, viewC, foundA, foundB, foundC, ?_⟩
  rw [compare_views, compare_shapeNames, grownA.editDistance_of_views grownB foundA foundB,
    grownB.editDistance_of_views grownC foundB foundC,
    grownA.editDistance_of_views grownC foundA foundC,
    grownB.editDistance_of_views grownA foundB foundA]
  refine ⟨zero, zero.trans (grownA.toTree?_eq_iff grownB).symm, Layout.distance_comm _ _,
    Layout.distance_triangle _ _ _, names, fun none => ?_⟩
  rw [if_pos (names none)]

theorem editDistance_metric_of_two_entry_orders :
    let a : Table String :=
      (((empty.add "f" none).add "g" (some 0)).add "x" (some 1)).add "y" (some 0)
    let b : Table String := ((empty.add "f" none).add "x" (some 0)).add "y" (some 0)
    let c : Table String :=
      (((empty.add "f" none).add "g" (some 0)).add "y" (some 0)).add "x" (some 1)
    a.Grown ∧ b.Grown ∧ c.Grown ∧ ∃ viewA viewB viewC,
      PostOrder.ofTable? a = some viewA ∧ PostOrder.ofTable? b = some viewB ∧
        PostOrder.ofTable? c = some viewC ∧ editDistance viewA viewB = 1 ∧
        editDistance viewA viewC = 0 ∧ (∃ f, SameTree a c f) ∧
        editDistance viewA viewB ≤ editDistance viewA viewC + editDistance viewC viewB := by
  intro a b c
  have grownA : a.Grown :=
    .child "y" (.child "x" (.child "g" (.root "f") (by decide)) (by decide)) (by decide)
  have grownB : b.Grown := .child "y" (.child "x" (.root "f") (by decide)) (by decide)
  have grownC : c.Grown :=
    .child "x" (.child "y" (.child "g" (.root "f") (by decide)) (by decide)) (by decide)
  obtain ⟨viewA, viewC, viewB, foundA, foundC, foundB, zero, -, -, triangle, -⟩ :=
    editDistance_metric grownA grownC grownB
  have values : ((PostOrder.ofTable? a).bind fun viewA => (PostOrder.ofTable? b).bind fun viewB =>
      (PostOrder.ofTable? c).map fun viewC =>
        (editDistance viewA viewB, editDistance viewA viewC)) = some (1, 0) := by decide +kernel
  rw [foundA, foundB, foundC, Option.bind_some, Option.bind_some, Option.map_some,
    Option.some.injEq, Prod.mk.injEq] at values
  exact ⟨grownA, grownB, grownC, viewA, viewB, viewC, foundA, foundB, foundC, values.1, values.2,
    zero.mp values.2, triangle⟩

end SourceSimilarity.Tree.Table.Grown
