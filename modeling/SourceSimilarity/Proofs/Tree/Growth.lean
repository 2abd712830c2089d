import SourceSimilarity.Tree.Table
import Mathlib.Logic.Relation
import Mathlib.Order.Lattice.Nat

namespace SourceSimilarity.Tree.Table

variable {α : Type}

def parentOf? (table : Table α) (node : Nat) : Option Nat := table.entries[node]?.bind (·.parent)

def labelOf? (table : Table α) (node : Nat) : Option α := table.entries[node]?.map (·.label)

/-- Tables entered node by node, the first node without a parent, every later one below a node that
was entered before. -/
inductive Grown : Table α → Prop
  | root (label : α) : Grown (empty.add label none)
  | child {table : Table α} {parent : Nat} (label : α) (grown : Grown table)
      (inside : parent < table.size) : Grown (table.add label (some parent))

def Above (table : Table α) (upper lower : Nat) : Prop :=
  Relation.TransGen (fun child parent => table.parentOf? child = some parent) lower upper

def AtOrAbove (table : Table α) (upper lower : Nat) : Prop :=
  Relation.ReflTransGen (fun child parent => table.parentOf? child = some parent) lower upper

/-- A node lies to the left of another: they lie at or below two children of one node, of which the
first comes before the second. -/
def LeftOf (table : Table α) (left right : Nat) : Prop :=
  ∃ parent child later, [child, later].Sublist (table.childrenOf parent) ∧
    table.AtOrAbove child left ∧ table.AtOrAbove later right

theorem entries_add (table : Table α) (label : α) (parent : Option Nat) (node : Nat) :
    (table.add label parent).entries[node]? =
      if node = table.size then some { label, parent }
      else table.entries[node]?.map fun entry =>
        if parent = some node then { entry with children := entry.children.push table.size }
        else entry := by
  cases parent with
  | none =>
      simp only [add, Array.getElem?_push]
      split
      · simp_all [size]
      · simp_all [size]
  | some parent =>
      simp only [add, Array.getElem?_push, Array.size_modify, Array.getElem?_modify,
        Option.some.injEq]
      split
      · simp_all [size]
      · by_cases same : parent = node
        · simp_all [size]
        · simp_all [size]

theorem parentOf?_add (table : Table α) (label : α) (parent : Option Nat) (node : Nat) :
    (table.add label parent).parentOf? node =
      if node = table.size then parent else table.parentOf? node := by
  unfold parentOf?
  rw [entries_add]
  split
  · rfl
  · cases table.entries[node]? with
    | none => rfl
    | some entry =>
        simp only [Option.map_some, Option.bind_some]
        split <;> rfl

theorem childrenOf_of_size_le {table : Table α} {node : Nat} (outside : table.size ≤ node) :
    table.childrenOf node = [] := by
  have none : table.entries[node]? = none := Array.getElem?_eq_none outside
  rw [childrenOf, none]

theorem childrenOf_add {table : Table α} {label : α} {parent : Option Nat}
    (inside : ∀ node, parent = some node → node < table.size) (node : Nat) :
    (table.add label parent).childrenOf node =
      if parent = some node then table.childrenOf node ++ [table.size]
      else table.childrenOf node := by
  rw [childrenOf, entries_add]
  by_cases new : node = table.size
  · subst new
    have other : parent ≠ some table.size := fun same => (inside _ same).ne rfl
    rw [if_pos rfl, if_neg other, childrenOf_of_size_le le_rfl]
  · rw [if_neg new]
    by_cases same : parent = some node
    · have known : node < table.entries.size := inside node same
      simp [childrenOf, same, known]
    · cases found : table.entries[node]? with
      | none => simp [childrenOf, found, same]
      | some entry => simp [childrenOf, found, same]

theorem atOrAbove_total {table : Table α} {first second lower : Nat}
    (above : table.AtOrAbove first lower) (above' : table.AtOrAbove second lower) :
    table.AtOrAbove first second ∨ table.AtOrAbove second first := by
  refine (Relation.ReflTransGen.total_of_right_unique ?_ above above').symm
  intro child parent other rises rises'
  exact Option.some.inj (rises.symm.trans rises')

namespace Grown

variable {table : Table α}

theorem size_pos (grown : table.Grown) : 0 < table.size := by
  cases grown <;> simp

theorem parentOf?_root (grown : table.Grown) : table.parentOf? 0 = none := by
  induction grown with
  | root label => simp [parentOf?_add]
  | child label grown inside ih => rw [parentOf?_add, if_neg grown.size_pos.ne, ih]

theorem parent_lt (grown : table.Grown) {node parent : Nat}
    (rises : table.parentOf? node = some parent) : parent < node ∧ node < table.size := by
  induction grown with
  | root label =>
      rw [parentOf?_add] at rises
      split at rises <;> simp [parentOf?, empty] at rises
  | child label grown inside ih =>
      rw [parentOf?_add] at rises
      rw [size_add]
      split at rises
      · obtain rfl := Option.some.inj rises
        omega
      · have := ih rises
        omega

theorem exists_parent (grown : table.Grown) {node : Nat} (later : 0 < node)
    (inside : node < table.size) : ∃ parent, table.parentOf? node = some parent := by
  induction grown with
  | root label =>
      rw [size_add, size_empty] at inside
      omega
  | child label grown insideParent ih =>
      rw [size_add] at inside
      rw [parentOf?_add]
      split
      · exact ⟨_, rfl⟩
      · exact ih (by omega)

theorem childrenOf_eq (grown : table.Grown) (node : Nat) :
    table.childrenOf node =
      (List.range table.size).filter fun child => table.parentOf? child = some node := by
  induction grown with
  | root label =>
      rw [childrenOf_add (by simp), size_add, size_empty]
      simp [parentOf?_add, childrenOf, empty, size]
  | @child table parent label grown inside ih =>
      have older : ((List.range table.size).filter fun child =>
          (table.add label (some parent)).parentOf? child = some node) =
            (List.range table.size).filter fun child => table.parentOf? child = some node := by
        apply List.filter_congr
        intro child member
        rw [parentOf?_add, if_neg (List.mem_range.mp member).ne]
      rw [childrenOf_add (by rintro _ ⟨⟩; exact inside), size_add, List.range_succ,
        List.filter_append, older, ← ih]
      by_cases same : parent = node <;> simp [parentOf?_add, same]

theorem mem_childrenOf (grown : table.Grown) {node child : Nat} :
    child ∈ table.childrenOf node ↔ table.parentOf? child = some node := by
  rw [grown.childrenOf_eq, List.mem_filter, List.mem_range, decide_eq_true_iff]
  exact ⟨fun both => both.2, fun rises => ⟨(grown.parent_lt rises).2, rises⟩⟩

theorem childrenOf_sorted (grown : table.Grown) (node : Nat) :
    (table.childrenOf node).Pairwise (· < ·) := by
  rw [grown.childrenOf_eq]
  exact List.pairwise_lt_range.filter _

theorem le_of_atOrAbove (grown : table.Grown) {upper lower : Nat}
    (above : table.AtOrAbove upper lower) : upper ≤ lower := by
  induction above with
  | refl => exact le_rfl
  | tail _ rises ih => exact (grown.parent_lt rises).1.le.trans ih

theorem lt_of_above (grown : table.Grown) {upper lower : Nat} (above : table.Above upper lower) :
    upper < lower := by
  obtain ⟨parent, rises, rest⟩ := Relation.TransGen.head'_iff.mp above
  exact (grown.le_of_atOrAbove rest).trans_lt (grown.parent_lt rises).1

theorem atOrAbove_root (grown : table.Grown) {node : Nat} (inside : node < table.size) :
    table.AtOrAbove 0 node := by
  induction node using Nat.strong_induction_on with
  | _ node ih =>
      by_cases first : node = 0
      · exact first ▸ .refl
      · obtain ⟨parent, rises⟩ := grown.exists_parent (Nat.pos_of_ne_zero first) inside
        have less := (grown.parent_lt rises).1
        exact .head rises (ih parent less (less.trans inside))

theorem above_iff (grown : table.Grown) {upper lower : Nat} :
    table.Above upper lower ↔ ∃ child ∈ table.childrenOf upper, table.AtOrAbove child lower := by
  unfold Above
  rw [Relation.TransGen.tail'_iff]
  constructor
  · rintro ⟨child, below, rises⟩
    exact ⟨child, grown.mem_childrenOf.mpr rises, below⟩
  · rintro ⟨child, member, below⟩
    exact ⟨child, below, grown.mem_childrenOf.mp member⟩

theorem eq_of_siblings (grown : table.Grown) {parent first second lower : Nat}
    (memberFirst : first ∈ table.childrenOf parent) (memberSecond : second ∈ table.childrenOf parent)
    (above : table.AtOrAbove first lower) (above' : table.AtOrAbove second lower) :
    first = second := by
  have apart {upper other : Nat} (memberUpper : upper ∈ table.childrenOf parent)
      (memberOther : other ∈ table.childrenOf parent) (below : table.AtOrAbove upper other) :
      upper = other := by
    rcases Relation.ReflTransGen.cases_head below with same | ⟨next, rises, rest⟩
    · exact same.symm
    · have rises' := grown.mem_childrenOf.mp memberOther
      obtain rfl : next = parent := Option.some.inj (rises.symm.trans rises')
      have := grown.le_of_atOrAbove rest
      have := (grown.parent_lt (grown.mem_childrenOf.mp memberUpper)).1
      omega
  rcases atOrAbove_total above above' with below | below
  · exact apart memberFirst memberSecond below
  · exact (apart memberSecond memberFirst below).symm

theorem sublist_childrenOf_iff (grown : table.Grown) {parent child later : Nat} :
    [child, later].Sublist (table.childrenOf parent) ↔
      child ∈ table.childrenOf parent ∧ later ∈ table.childrenOf parent ∧ child < later := by
  have sorted := grown.childrenOf_sorted parent
  constructor
  · intro sub
    have pair := sorted.sublist sub
    refine ⟨sub.subset (by simp), sub.subset (by simp), ?_⟩
    simpa using pair
  · rintro ⟨member, memberLater, less⟩
    obtain ⟨before, after, split⟩ := List.append_of_mem member
    rw [split] at sorted memberLater ⊢
    obtain ⟨-, -, early⟩ := List.pairwise_append.mp sorted
    have inAfter : later ∈ after := by
      rcases List.mem_append.mp memberLater with inside | inside
      · have := early later inside child (by simp)
        omega
      · exact (List.mem_cons.mp inside).resolve_left less.ne'
    exact ((List.singleton_sublist.mpr inAfter).cons_cons child).trans
      (List.sublist_append_right before _)

theorem leftOf_of_lt (grown : table.Grown) {parent child later left right : Nat}
    (member : child ∈ table.childrenOf parent) (memberLater : later ∈ table.childrenOf parent)
    (less : child < later) (below : table.AtOrAbove child left)
    (belowLater : table.AtOrAbove later right) : table.LeftOf left right :=
  ⟨parent, child, later, grown.sublist_childrenOf_iff.mpr ⟨member, memberLater, less⟩, below,
    belowLater⟩

theorem related_below (grown : table.Grown) {upper node other : Nat}
    (above : table.AtOrAbove upper node) (above' : table.AtOrAbove upper other) :
    table.AtOrAbove node other ∨ table.Above other node ∨ table.LeftOf node other ∨
      table.LeftOf other node := by
  induction above using Relation.ReflTransGen.head_induction_on with
  | refl => exact .inl above'
  | @head node parent rises rest ih =>
      rcases ih with below | below | ⟨top, child, later, sub, belowChild, belowLater⟩ |
        ⟨top, child, later, sub, belowChild, belowLater⟩
      · rcases Relation.reflTransGen_iff_eq_or_transGen.mp below with rfl | strict
        · exact .inr (.inl (.single rises))
        · obtain ⟨child, member, belowChild⟩ := grown.above_iff.mp strict
          have memberNode := grown.mem_childrenOf.mpr rises
          rcases lt_trichotomy node child with less | rfl | greater
          · exact .inr (.inr (.inl (grown.leftOf_of_lt memberNode member less .refl belowChild)))
          · exact .inl belowChild
          · exact .inr (.inr (.inr (grown.leftOf_of_lt member memberNode greater belowChild .refl)))
      · exact .inr (.inl (.head rises below))
      · exact .inr (.inr (.inl ⟨top, child, later, sub, .head rises belowChild, belowLater⟩))
      · exact .inr (.inr (.inr ⟨top, child, later, sub, belowChild, .head rises belowLater⟩))

theorem related (grown : table.Grown) {node other : Nat} (inside : node < table.size)
    (insideOther : other < table.size) :
    table.AtOrAbove node other ∨ table.Above other node ∨ table.LeftOf node other ∨
      table.LeftOf other node :=
  grown.related_below (grown.atOrAbove_root inside) (grown.atOrAbove_root insideOther)

end Grown

end SourceSimilarity.Tree.Table
