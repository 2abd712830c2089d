namespace SourceSimilarity

/-- The position that an index names in a list of this length. A negative index counts from the end,
so that -1 names the last item. -/
def position? (length : Nat) (index : Int) : Option (Fin length) :=
  let place := if index < 0 then index + length else index
  if inside : 0 ≤ place ∧ place < length then some ⟨place.toNat, by omega⟩ else none

theorem position?_ofNat (length : Nat) (index : Fin length) :
    position? length (index.val : Int) = some index := by
  have small := index.isLt
  have notNegative : ¬ (index.val : Int) < 0 := by omega
  have inside : 0 ≤ (index.val : Int) ∧ (index.val : Int) < length := by omega
  simp [position?, notNegative, inside]

def itemAt? {α : Type} (items : List α) (index : Int) : Option α :=
  (position? items.length index).map fun place => items[place]

end SourceSimilarity
