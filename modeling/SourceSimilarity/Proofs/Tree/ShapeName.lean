import SourceSimilarity.Tree.Shape
import SourceSimilarity.Proofs.Result
import SourceSimilarity.Proofs.Tree.Numbering
import Mathlib.Data.List.Sort

/-!
A name opens with a `1` and closes with the `0` that belongs to it, so names that stand one behind
the other can be told apart again. Hence two nodes have the same name just if the names of their
children are the same up to order.
-/

namespace SourceSimilarity.Tree

variable {α β : Type}

mutual

def shapeName : Tree α → List Char
  | .node _ children => nodeName (shapeNames children)

def shapeNames : List (Tree α) → List (List Char)
  | [] => []
  | tree :: trees => tree.shapeName :: shapeNames trees

end

theorem shapeNames_eq (trees : List (Tree α)) : shapeNames trees = trees.map shapeName := by
  induction trees with
  | nil => rfl
  | cons tree trees ih => rw [shapeNames, ih, List.map_cons]

theorem shapeName_node (label : α) (children : List (Tree α)) :
    (node label children).shapeName = nodeName (children.map shapeName) := by
  rw [shapeName, shapeNames_eq]

theorem pairwise_sorted (names : List (List Char)) :
    (names.mergeSort (fun s t => !decide (t < s))).Pairwise (fun s t => ¬ t < s) := by
  refine (List.pairwise_mergeSort ?_ ?_ names).imp fun {s t} ordered => by simpa using ordered
  · intro s t u first second
    simp only [Bool.not_eq_true', decide_eq_false_iff_not, List.not_lt] at first second ⊢
    exact List.le_trans first second
  · intro s t
    simp only [Bool.or_eq_true, Bool.not_eq_true', decide_eq_false_iff_not, List.not_lt]
    exact List.le_total s t

theorem nodeName_of_perm {names others : List (List Char)} (same : names.Perm others) :
    nodeName names = nodeName others := by
  have sorted : names.mergeSort (fun s t => !decide (t < s)) =
      others.mergeSort (fun s t => !decide (t < s)) :=
    List.Perm.eq_of_pairwise
      (fun _ _ _ _ first second => List.le_antisymm (List.not_lt.mp first) (List.not_lt.mp second))
      (pairwise_sorted names) (pairwise_sorted others)
      ((List.mergeSort_perm names _).trans (same.trans (List.mergeSort_perm others _).symm))
  rw [nodeName, nodeName, sorted]

/-- The names a node can have: those of any children between a `1` and a `0`. -/
inductive IsName : List Char → Prop
  | node {names : List (List Char)} (each : ∀ name ∈ names, IsName name) :
      IsName ('1' :: names.flatten ++ ['0'])

theorem IsName.exists_cons {name : List Char} (isName : IsName name) :
    ∃ rest, name = '1' :: rest := by
  cases isName with
  | node each => exact ⟨_, rfl⟩

/-- Two rows of names with a `0` behind them are split up in one way, if each name of the first row
is. -/
theorem flatten_append_inj {names others : List (List Char)} {x y : List Char}
    (split : ∀ name ∈ names, ∀ other, IsName other → ∀ x y, name ++ x = other ++ y →
      name = other ∧ x = y)
    (each : ∀ name ∈ names, IsName name) (eachOther : ∀ other ∈ others, IsName other)
    (equal : names.flatten ++ '0' :: x = others.flatten ++ '0' :: y) : names = others ∧ x = y := by
  induction names generalizing others with
  | nil =>
      cases others with
      | nil => exact ⟨rfl, (List.cons.inj equal).2⟩
      | cons other others =>
          obtain ⟨rest, rfl⟩ := (eachOther other List.mem_cons_self).exists_cons
          cases (List.cons.inj equal).1
  | cons name names ih =>
      cases others with
      | nil =>
          obtain ⟨rest, rfl⟩ := (each name List.mem_cons_self).exists_cons
          cases (List.cons.inj equal).1
      | cons other others =>
          rw [List.flatten_cons, List.flatten_cons, List.append_assoc, List.append_assoc] at equal
          obtain ⟨rfl, more⟩ := split name List.mem_cons_self other
            (eachOther other List.mem_cons_self) _ _ equal
          obtain ⟨rfl, rfl⟩ := ih
            (fun name member => split name (List.mem_cons_of_mem _ member))
            (fun name member => each name (List.mem_cons_of_mem _ member))
            (fun other member => eachOther other (List.mem_cons_of_mem _ member)) more
          exact ⟨rfl, rfl⟩

theorem IsName.append_inj {name other x y : List Char} (isName : IsName name)
    (isOther : IsName other) (equal : name ++ x = other ++ y) : name = other ∧ x = y := by
  induction isName generalizing other x y with
  | @node names each ih =>
      cases isOther with
      | @node others eachOther =>
          simp only [List.cons_append, List.append_assoc, List.nil_append, List.cons.injEq,
            true_and] at equal
          have split : ∀ name ∈ names, ∀ other, IsName other → ∀ x y, name ++ x = other ++ y →
              name = other ∧ x = y :=
            fun name member other isOther x y equal => ih name member isOther equal
          obtain ⟨rfl, rfl⟩ := flatten_append_inj split each eachOther equal
          exact ⟨rfl, rfl⟩

theorem isName_nodeName {names : List (List Char)} (each : ∀ name ∈ names, IsName name) :
    IsName (nodeName names) :=
  .node fun name member => each name (List.mem_mergeSort.mp member)

theorem nodeName_inj {names others : List (List Char)} (each : ∀ name ∈ names, IsName name)
    (eachOther : ∀ other ∈ others, IsName other) (equal : nodeName names = nodeName others) :
    names.Perm others := by
  -- the sorted names are recovered from the row, and sorting only permutes them
  have rows := (List.cons.inj equal).2
  have sorted : names.mergeSort (fun s t => !decide (t < s)) =
      others.mergeSort (fun s t => !decide (t < s)) :=
    (flatten_append_inj (fun name member other isOther x y =>
        (each name (List.mem_mergeSort.mp member)).append_inj isOther)
      (fun name member => each name (List.mem_mergeSort.mp member))
      (fun other member => eachOther other (List.mem_mergeSort.mp member)) rows).1
  have perm := List.mergeSort_perm names (fun s t => !decide (t < s))
  rw [sorted] at perm
  exact perm.symm.trans (List.mergeSort_perm others _)

namespace Table

variable {table : Table α}

def nameOf (table : Table α) (node : Nat) : List Char := (table.numbered node).shapeName

namespace Grown

theorem nameOf_eq (grown : table.Grown) (node : Nat) :
    table.nameOf node = nodeName ((table.childrenOf node).map table.nameOf) := by
  rw [nameOf, grown.numbered_eq, shapeName_node, List.map_map]
  rfl

theorem isName_nameOf (grown : table.Grown) (node : Nat) : IsName (table.nameOf node) := by
  induction node using grown.induction_on_children with
  | step node ih =>
      rw [grown.nameOf_eq]
      apply isName_nodeName
      intro name member
      obtain ⟨child, inside, rfl⟩ := List.mem_map.mp member
      exact ih child inside

/-- The nodes from a number on are named, but for those whose name went into that of a parent. -/
structure NamedFrom (table : Table α) (first : Nat) (names : Array (Option (List Char))) : Prop where
  size : names.size = table.size
  named : ∀ node, first ≤ node → node < table.size →
    (∀ parent, table.parentOf? node = some parent → parent < first) →
      names[node]? = some (some (table.nameOf node))

theorem getElem?_eraseNames (children : List Nat) (names : Array (Option (List Char))) {node : Nat}
    (other : node ∉ children) : (eraseNames children names)[node]? = names[node]? := by
  induction children generalizing names with
  | nil => rfl
  | cons child children ih =>
      obtain ⟨differ, others⟩ := not_or.mp (List.mem_cons.not.mp other)
      rw [eraseNames, List.foldl_cons, ← eraseNames, ih _ others,
        Array.getElem?_setIfInBounds_ne (Ne.symm differ)]

theorem size_eraseNames (children : List Nat) (names : Array (Option (List Char))) :
    (eraseNames children names).size = names.size := by
  induction children generalizing names with
  | nil => rfl
  | cons child children ih =>
      rw [eraseNames, List.foldl_cons, ← eraseNames, ih, Array.size_setIfInBounds]

theorem nameNode?_eq (grown : table.Grown) {node : Nat} (inside : node < table.size)
    {names : Array (Option (List Char))} (known : NamedFrom table (node + 1) names) :
    ∃ next, table.nameNode? names node = some next ∧ NamedFrom table node next := by
  have children : ∀ child ∈ table.childrenOf node,
      names[child]?.join = some (table.nameOf child) := by
    intro child member
    have rises := grown.mem_childrenOf.mp member
    obtain ⟨below, bound⟩ := grown.parent_lt rises
    rw [known.named child below bound fun parent rises' => by
      obtain rfl := Option.some.inj (rises.symm.trans rises')
      exact Nat.lt_succ_self node]
    rfl
  have parts : ((table.childrenOf node).mapM fun child => names[child]?.join) =
      some ((table.childrenOf node).map table.nameOf) := mapM_eq_some_map children
  refine ⟨_, by rw [nameNode?, parts]; rfl, ?_, fun other first bound free => ?_⟩
  · rw [Array.size_setIfInBounds, size_eraseNames, known.size]
  · by_cases same : node = other
    · subst same
      have here : node < (eraseNames (table.childrenOf node) names).size := by
        rw [size_eraseNames, known.size]
        exact inside
      rw [Array.getElem?_setIfInBounds_self_of_lt here, ← grown.nameOf_eq]
    · -- a node with a parent before this one is no child of it, so its name is not erased
      have apart : other ∉ table.childrenOf node := fun member =>
        absurd (free node (grown.mem_childrenOf.mp member)) (Nat.lt_irrefl node)
      rw [Array.getElem?_setIfInBounds_ne same, getElem?_eraseNames _ _ apart]
      exact known.named other (by omega) bound fun parent rises => (free parent rises).le.trans_lt
        (Nat.lt_succ_self node)

theorem nameNodes?_eq (grown : table.Grown) {first : Nat} (inside : first ≤ table.size)
    {names : Array (Option (List Char))} (known : NamedFrom table first names) :
    ∃ final, table.nameNodes? first names = some final ∧ NamedFrom table 0 final := by
  induction first generalizing names with
  | zero => exact ⟨names, rfl, known⟩
  | succ node ih =>
      obtain ⟨next, named, knownNext⟩ := grown.nameNode?_eq inside known
      obtain ⟨final, done, all⟩ := ih (Nat.le_of_succ_le inside) knownNext
      exact ⟨final, by rw [nameNodes?, named]; exact done, all⟩

theorem shapeName_eq (grown : table.Grown) : table.shapeName = table.nameOf 0 := by
  have start : NamedFrom table table.size (Array.replicate table.size none) :=
    ⟨Array.size_replicate, fun node first bound => absurd bound (Nat.not_lt.mpr first)⟩
  obtain ⟨names, done, all⟩ := grown.nameNodes?_eq le_rfl start
  have root := all.named 0 le_rfl grown.size_pos fun parent rises => by
    rw [grown.parentOf?_root] at rises
    cases rises
  rw [shapeName, done, Option.bind_some, root]
  rfl

theorem exists_paired_children {other : Table β} (grown : table.Grown) (grownOther : other.Grown)
    {node partner : Nat} (equal : table.nameOf node = other.nameOf partner) :
    ∃ children, List.Forall₂ (fun child paired => table.nameOf child = other.nameOf paired)
        (table.childrenOf node) children ∧ children.Perm (other.childrenOf partner) := by
  rw [grown.nameOf_eq, grownOther.nameOf_eq] at equal
  have perm : ((table.childrenOf node).map table.nameOf).Perm
      ((other.childrenOf partner).map other.nameOf) := by
    refine nodeName_inj ?_ ?_ equal
    · intro name member
      obtain ⟨child, -, rfl⟩ := List.mem_map.mp member
      exact grown.isName_nameOf child
    · intro name member
      obtain ⟨child, -, rfl⟩ := List.mem_map.mp member
      exact grownOther.isName_nameOf child
  have names : List.Forall₂ (fun name child => name = other.nameOf child)
      ((other.childrenOf partner).map other.nameOf) (other.childrenOf partner) := by
    rw [List.forall₂_map_left_iff, List.forall₂_same]
    exact fun _ _ => rfl
  obtain ⟨children, paired, same⟩ := List.perm_comp_forall₂ perm names
  exact ⟨children, List.forall₂_map_left_iff.mp paired, same⟩

end Grown

end Table

end SourceSimilarity.Tree
