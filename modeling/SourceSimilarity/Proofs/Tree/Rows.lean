import SourceSimilarity.Tree.Basic

namespace SourceSimilarity.Tree

variable {α : Type}

mutual

def rowsFrom (number : Nat) (parent : Option Nat) : Tree α → List (α × Option Nat)
  | .node label children => (label, parent) :: rowsAll (number + 1) number children

def rowsAll (number parent : Nat) : List (Tree α) → List (α × Option Nat)
  | [] => []
  | tree :: trees =>
    rowsFrom number (some parent) tree ++ rowsAll (number + tree.size) parent trees

end

def rows (tree : Tree α) : List (α × Option Nat) := tree.rowsFrom 0 none

def Leaves (parent : Nat) (rest : List (α × Option Nat)) : Prop :=
  ∀ row ∈ rest.head?, ∀ upper, row.2 = some upper → upper < parent

theorem Leaves.nil (parent : Nat) : Leaves parent ([] : List (α × Option Nat)) := by
  simp [Leaves]

theorem Leaves.rowsAll {number parent inner : Nat} {rest : List (α × Option Nat)}
    (leaves : Leaves parent rest) (less : parent < inner) (trees : List (Tree α)) :
    Leaves inner (Tree.rowsAll number parent trees ++ rest) := by
  cases trees with
  | nil => exact fun row member upper below => Nat.lt_trans (leaves row member upper below) less
  | cons tree trees =>
      obtain ⟨label, children⟩ := tree
      intro row member upper below
      obtain rfl := Option.some.inj member
      obtain rfl := Option.some.inj below
      exact less

theorem not_leaves (label : α) (parent : Nat) (rest : List (α × Option Nat)) :
    ¬ Leaves parent ((label, some parent) :: rest) := fun leaves =>
  absurd (leaves _ rfl parent rfl) (Nat.lt_irrefl parent)

theorem rowsAll_append_inj {number parent : Nat} (before : parent < number)
    {trees others : List (Tree α)} {rest rest' : List (α × Option Nat)}
    (leaves : Leaves parent rest) (leaves' : Leaves parent rest')
    (equal : rowsAll number parent trees ++ rest = rowsAll number parent others ++ rest') :
    trees = others ∧ rest = rest' := by
  induction count : sizeAll trees using Nat.strongRecOn
    generalizing number parent trees others rest rest' with
  | _ count ih =>
      match trees, others with
      | [], [] => exact ⟨rfl, equal⟩
      | [], .node label children :: others =>
          rw [rowsAll, List.nil_append, rowsAll, rowsFrom, List.cons_append, List.cons_append]
            at equal
          exact absurd (equal ▸ leaves) (not_leaves _ _ _)
      | .node label children :: trees, [] =>
          rw [rowsAll, rowsAll, rowsFrom, List.nil_append, List.cons_append, List.cons_append]
            at equal
          exact absurd (equal ▸ leaves') (not_leaves _ _ _)
      | .node label children :: trees, .node label' children' :: others =>
          rw [rowsAll, rowsAll, rowsFrom, rowsFrom, List.append_assoc, List.append_assoc,
            List.cons_append, List.cons_append, List.cons.injEq, Prod.mk.injEq] at equal
          obtain ⟨⟨rfl, -⟩, below⟩ := equal
          rw [sizeAll, size] at count
          -- first the children, whose rows end where those of the next trees or the rest begin
          obtain ⟨rfl, later⟩ := ih (sizeAll children) (by omega) (Nat.lt_succ_self number)
            (leaves.rowsAll before trees) (leaves'.rowsAll before others) below rfl
          obtain ⟨rfl, same⟩ := ih (sizeAll trees) (by omega)
            (Nat.lt_of_lt_of_le before (Nat.le_add_right _ _)) leaves leaves' later rfl
          exact ⟨rfl, same⟩

theorem rows_inj {tree other : Tree α} (equal : tree.rows = other.rows) : tree = other := by
  obtain ⟨label, children⟩ := tree
  obtain ⟨label', children'⟩ := other
  rw [rows, rows, rowsFrom, rowsFrom, List.cons.injEq, Prod.mk.injEq] at equal
  obtain ⟨⟨rfl, -⟩, below⟩ := equal
  have closed : rowsAll (0 + 1) 0 children ++ [] = rowsAll (0 + 1) 0 children' ++ [] := by
    rw [below]
  obtain ⟨rfl, -⟩ := rowsAll_append_inj (Nat.lt_succ_self 0) (.nil 0) (.nil 0) closed
  rfl

end SourceSimilarity.Tree
