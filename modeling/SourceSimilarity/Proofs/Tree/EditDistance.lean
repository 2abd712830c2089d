import SourceSimilarity.Proofs.Tree.DistanceTable
import SourceSimilarity.Proofs.Tree.Places

namespace SourceSimilarity.Tree.Table.Grown

variable {α : Type} [DecidableEq α] {a b : Table α}

theorem exists_views (grownA : a.Grown) (grownB : b.Grown) :
    ∃ viewA viewB, PostOrder.ofTable? a = some viewA ∧ PostOrder.ofTable? b = some viewB ∧
      editDistance viewA viewB = a.layout.distance b.layout := by
  obtain ⟨treeA, foundA, assembledA⟩ := grownA.exists_view
  obtain ⟨treeB, foundB, assembledB⟩ := grownB.exists_view
  refine ⟨_, _, foundA, foundB, ?_⟩
  rw [PostOrder.editDistance_eq_distance (PostOrder.sound_ofTree treeA)
    (PostOrder.sound_ofTree treeB)]
  · exact (grownA.same_layout assembledA).distance_eq (grownB.same_layout assembledB)
  · rw [PostOrder.size_ofTree]
    exact treeA.size_pos
  · rw [PostOrder.size_ofTree]
    exact treeB.size_pos

theorem editDistance_isLeast_cost (grownA : a.Grown) (grownB : b.Grown) :
    ∃ viewA viewB, PostOrder.ofTable? a = some viewA ∧ PostOrder.ofTable? b = some viewB ∧
      IsLeast {cost | ∃ mapping : a.layout.EditMapping b.layout, mapping.cost = cost}
        (editDistance viewA viewB) := by
  obtain ⟨viewA, viewB, foundA, foundB, equal⟩ := exists_views grownA grownB
  refine ⟨viewA, viewB, foundA, foundB, ?_⟩
  rw [equal]
  exact Layout.distance_isLeast a.layout b.layout

theorem editDistance_isLeast_cost_of_inner_node :
    let a : Table String := (((empty.add "f" none).add "g" (some 0)).add "x" (some 1)).add "y" (some 1)
    let b : Table String := ((empty.add "f" none).add "x" (some 0)).add "z" (some 0)
    a.Grown ∧ b.Grown ∧ ∃ viewA viewB,
      PostOrder.ofTable? a = some viewA ∧ PostOrder.ofTable? b = some viewB ∧
        editDistance viewA viewB = 2 ∧
        IsLeast {cost | ∃ mapping : a.layout.EditMapping b.layout, mapping.cost = cost} 2 := by
  intro a b
  have grownA : a.Grown :=
    .child "y" (.child "x" (.child "g" (.root "f") (by decide)) (by decide)) (by decide)
  have grownB : b.Grown := .child "z" (.child "x" (.root "f") (by decide)) (by decide)
  obtain ⟨viewA, viewB, foundA, foundB, least⟩ := editDistance_isLeast_cost grownA grownB
  have value : ((PostOrder.ofTable? a).bind fun viewA => (PostOrder.ofTable? b).map fun viewB =>
      editDistance viewA viewB) = some 2 := by decide +kernel
  rw [foundA, foundB, Option.bind_some, Option.map_some, Option.some.injEq] at value
  exact ⟨grownA, grownB, viewA, viewB, foundA, foundB, value, value ▸ least⟩

end SourceSimilarity.Tree.Table.Grown
