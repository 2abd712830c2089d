namespace SourceSimilarity

inductive Tree (α : Type) where
  | node (label : α) (children : List (Tree α))
deriving Repr

namespace Tree

variable {α : Type}

def label : Tree α → α
  | .node label _ => label

def children : Tree α → List (Tree α)
  | .node _ children => children

mutual

def size : Tree α → Nat
  | .node _ children => 1 + sizeAll children

def sizeAll : List (Tree α) → Nat
  | [] => 0
  | tree :: trees => tree.size + sizeAll trees

end

mutual

def preOrder : Tree α → List α
  | .node label children => label :: preOrderAll children

def preOrderAll : List (Tree α) → List α
  | [] => []
  | tree :: trees => tree.preOrder ++ preOrderAll trees

end

mutual

def postOrder : Tree α → List α
  | .node label children => postOrderAll children ++ [label]

def postOrderAll : List (Tree α) → List α
  | [] => []
  | tree :: trees => tree.postOrder ++ postOrderAll trees

end

theorem sizeAll_append (trees more : List (Tree α)) :
    sizeAll (trees ++ more) = sizeAll trees + sizeAll more := by
  induction trees with
  | nil => simp [sizeAll]
  | cons tree trees ih =>
    simp only [List.cons_append, sizeAll, ih]
    omega

theorem size_pos (tree : Tree α) : 0 < tree.size := by
  cases tree
  simp only [size]
  omega

end Tree

end SourceSimilarity
