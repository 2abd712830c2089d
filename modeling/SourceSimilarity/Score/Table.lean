import SourceSimilarity.Comparator
import SourceSimilarity.EditDistance
import SourceSimilarity.Position

namespace SourceSimilarity

abbrev Score := Int32

namespace Score

/-- The score of a pair that could not be compared. -/
def infinite : Score := Int32.ofNat incomparable

def ofInt? (n : Int) : Option Score :=
  if n < -2147483648 ∨ 2147483648 ≤ n then none else some (Int32.ofInt n)

def textOf (n : Int) : String := if n = incomparable then "inf" else toString n

def text (score : Score) : String := textOf score.toInt

end Score

/-- The scores of a number of pairs. A comparator that was not used has none. -/
structure ScoreTable (pairs : Nat) where
  moss : Option (Vector Score pairs) := none
  tokenEdit : Option (Vector Score pairs) := none
  isomorphism : Option (Vector Score pairs) := none
  byteEdit : Option (Vector Score pairs) := none
  treeEdit : Option (Vector Score pairs) := none
deriving DecidableEq

inductive ScoreError where
  | noScores (comparator : Comparator)
  | noPair (index : Int)
  | notAScore (value : Int)
deriving DecidableEq, Repr

namespace ScoreTable

variable {pairs : Nat}

def empty : ScoreTable pairs := {}

def get? (table : ScoreTable pairs) : Comparator → Option (Vector Score pairs)
  | .moss => table.moss
  | .tokenEdit => table.tokenEdit
  | .isomorphism => table.isomorphism
  | .byteEdit => table.byteEdit
  | .treeEdit => table.treeEdit

def insert (table : ScoreTable pairs) (comparator : Comparator) (scores : Vector Score pairs) :
    ScoreTable pairs :=
  match comparator with
  | .moss => { table with moss := some scores }
  | .tokenEdit => { table with tokenEdit := some scores }
  | .isomorphism => { table with isomorphism := some scores }
  | .byteEdit => { table with byteEdit := some scores }
  | .treeEdit => { table with treeEdit := some scores }

@[simp] theorem get?_empty (comparator : Comparator) :
    (empty : ScoreTable pairs).get? comparator = none := by
  cases comparator <;> rfl

@[simp] theorem get?_insert_self (table : ScoreTable pairs) (comparator : Comparator)
    (scores : Vector Score pairs) :
    (table.insert comparator scores).get? comparator = some scores := by
  cases comparator <;> rfl

theorem get?_insert_of_ne (table : ScoreTable pairs) {comparator other : Comparator}
    (scores : Vector Score pairs) (differ : other ≠ comparator) :
    (table.insert comparator scores).get? other = table.get? other := by
  cases comparator <;> cases other <;> first | rfl | exact absurd rfl differ

theorem ext_get? {table other : ScoreTable pairs}
    (same : ∀ comparator, table.get? comparator = other.get? comparator) : table = other := by
  cases table
  cases other
  have onMoss := same .moss
  have onTokens := same .tokenEdit
  have onShapes := same .isomorphism
  have onBytes := same .byteEdit
  have onTrees := same .treeEdit
  simp only [get?] at onMoss onTokens onShapes onBytes onTrees
  subst onMoss onTokens onShapes onBytes onTrees
  rfl

def contains (table : ScoreTable pairs) (comparator : Comparator) : Bool :=
  (table.get? comparator).isSome

def comparators (table : ScoreTable pairs) : List Comparator :=
  Comparator.inOrder.filter table.contains

/-- Gives a comparator without scores the score zero for every pair. -/
def enable (table : ScoreTable pairs) (comparator : Comparator) : ScoreTable pairs :=
  if table.contains comparator then table
  else table.insert comparator (Vector.replicate pairs 0)

def zero (pairs : Nat) (comparators : List Comparator) : ScoreTable pairs :=
  comparators.foldl enable empty

def vector (table : ScoreTable pairs) (comparator : Comparator) :
    Except ScoreError (Vector Score pairs) :=
  match table.get? comparator with
  | some scores => .ok scores
  | none => .error (.noScores comparator)

def score (table : ScoreTable pairs) (comparator : Comparator) (index : Int) :
    Except ScoreError Score := do
  let scores ← table.vector comparator
  match position? pairs index with
  | some pair => pure scores[pair]
  | none => throw (.noPair index)

def setScore (table : ScoreTable pairs) (comparator : Comparator) (index value : Int) :
    Except ScoreError (ScoreTable pairs) := do
  let scores ← table.vector comparator
  let some pair := position? pairs index | throw (.noPair index)
  let some score := Score.ofInt? value | throw (.notAScore value)
  pure (table.insert comparator (scores.set pair score))

def same {others : Nat} (table : ScoreTable pairs) (other : ScoreTable others) : Bool :=
  if equal : others = pairs then table = equal ▸ other else false

def describe (table : ScoreTable pairs) : String :=
  let names := ", ".intercalate (table.comparators.map (·.name))
  s!"ScoreTable(pairs={pairs}, comparators=[{names}])"

end ScoreTable

end SourceSimilarity
