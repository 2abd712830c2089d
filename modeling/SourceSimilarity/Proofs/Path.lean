import Mathlib.Data.List.Basic
import SourceSimilarity.Path
import SourceSimilarity.Proofs.Text.Parts

/-!
An absolute path in its normal form is a list of names: there is one such path for each list, and
its components are these names. All paths are brought into this form except those that start with
exactly two slashes.
-/

namespace SourceSimilarity.Path

structure IsName (name : List Char) : Prop where
  nonempty : name ≠ []
  noSlash : '/' ∉ name
  notSelf : name ≠ ['.']
  notParent : name ≠ ['.', '.']

instance (name : List Char) : Decidable (IsName name) :=
  decidable_of_iff (name ≠ [] ∧ '/' ∉ name ∧ name ≠ ['.'] ∧ name ≠ ['.', '.'])
    ⟨fun ⟨nonempty, noSlash, notSelf, notParent⟩ => ⟨nonempty, noSlash, notSelf, notParent⟩,
      fun plain => ⟨plain.nonempty, plain.noSlash, plain.notSelf, plain.notParent⟩⟩

def ofNames (names : List (List Char)) : List Char := '/' :: ['/'].intercalate names

def HasTwoSlashes (path : List Char) : Prop :=
  ['/', '/'] <+: path ∧ ¬['/', '/', '/'] <+: path

instance (path : List Char) : Decidable (HasTwoSlashes path) :=
  inferInstanceAs (Decidable (_ ∧ _))

variable {names : List (List Char)} {directory path : List Char}

theorem components_slash (path : List Char) : components ('/' :: path) = components path := by
  simp [components, List.splitOn_cons_eq_if_modifyHead]

theorem components_append_slash (directory path : List Char) :
    components (directory ++ '/' :: path) = components directory ++ components path := by
  rw [components, List.splitOn_append_cons_self, List.filter_append, ← components, ← components]

theorem components_intercalate (plain : ∀ name ∈ names, IsName name) :
    components (['/'].intercalate names) = names := by
  cases names with
  | nil => rfl
  | cons name others =>
      rw [components, List.splitOn_intercalate '/' (fun part member => (plain part member).noSlash)
        (List.cons_ne_nil _ _), List.filter_eq_self]
      exact fun part member => by simpa using (plain part member).nonempty

theorem components_ofNames (plain : ∀ name ∈ names, IsName name) :
    components (ofNames names) = names := by
  rw [ofNames, components_slash, components_intercalate plain]

theorem ofNames_injective {others : List (List Char)} (plain : ∀ name ∈ names, IsName name)
    (otherPlain : ∀ name ∈ others, IsName name) (same : ofNames names = ofNames others) :
    names = others := by
  rw [← components_ofNames plain, same, components_ofNames otherPlain]

theorem components_join (relative : isAbsolute path = false) :
    components (join directory path) = components directory ++ components path := by
  rw [join, relative, if_neg Bool.false_ne_true]
  split
  · rename_i ends
    rcases ends with ends | empty
    · obtain ⟨front, rfl⟩ := List.getLast?_eq_some_iff.mp ends
      rw [List.append_assoc, List.singleton_append, components_append_slash,
        components_append_slash]
      simp [components]
    · rw [List.isEmpty_iff.mp empty]
      rfl
  · exact components_append_slash directory path

theorem follow_name {name : List Char} (plain : IsName name) (inner : List (List Char)) :
    follow inner name = name :: inner := by
  rw [follow, if_neg plain.notSelf, if_neg plain.notParent]

theorem foldl_follow_names (plain : ∀ name ∈ names, IsName name) (inner : List (List Char)) :
    names.foldl follow inner = names.reverse ++ inner := by
  induction names generalizing inner with
  | nil => rfl
  | cons name names ih =>
      rw [List.foldl_cons, follow_name (plain name List.mem_cons_self),
        ih fun other member => plain other (.tail _ member), List.reverse_cons, List.append_assoc,
        List.singleton_append]

theorem leadingSlashes_of_not_hasTwoSlashes (single : ¬HasTwoSlashes path) :
    leadingSlashes path = ['/'] := by
  unfold leadingSlashes
  split
  · rfl
  · rename_i rest notThree
    refine absurd ⟨⟨_, rfl⟩, fun three => ?_⟩ single
    obtain ⟨others, more⟩ := three
    exact notThree others (by simpa using more.symm)
  · rfl

theorem isAbsolute_intercalate (plain : ∀ name ∈ names, IsName name) :
    isAbsolute (['/'].intercalate names) = false := by
  cases names with
  | nil => rfl
  | cons name others =>
      obtain ⟨first, rest, rfl⟩ :=
        List.exists_cons_of_ne_nil (plain name List.mem_cons_self).nonempty
      have notSlash : first ≠ '/' := fun same =>
        (plain _ List.mem_cons_self).noSlash (same ▸ List.mem_cons_self)
      cases others <;> simpa [isAbsolute] using notSlash

theorem not_hasTwoSlashes_ofNames (plain : ∀ name ∈ names, IsName name) :
    ¬HasTwoSlashes (ofNames names) := by
  rintro ⟨two, -⟩
  have relative := isAbsolute_intercalate plain
  rw [ofNames, List.cons_prefix_cons] at two
  obtain ⟨rest, second⟩ := two.2
  rw [← second] at relative
  exact Bool.false_ne_true relative.symm

theorem not_hasTwoSlashes_join (single : ¬HasTwoSlashes directory)
    (relative : isAbsolute path = false) : ¬HasTwoSlashes (join directory path) := by
  have other : ¬['/'] <+: path := by
    rintro ⟨rest, rfl⟩
    exact Bool.false_ne_true relative.symm
  rw [join, relative, if_neg Bool.false_ne_true]
  -- what is put behind the directory reaches the first two characters only if it has fewer
  rcases directory with _ | ⟨a, _ | ⟨b, _ | ⟨c, rest⟩⟩⟩
  · rintro ⟨two, -⟩
    exact other ((List.prefix_append ['/'] ['/']).trans two)
  · rintro ⟨two, -⟩
    split at two
    · exact other (List.cons_prefix_cons.mp two).2
    · rename_i noSlash
      exact noSlash (.inl (by rw [← (List.cons_prefix_cons.mp two).1]; rfl))
  · split <;> simp_all [HasTwoSlashes]
  · split <;> simpa [HasTwoSlashes] using single

theorem isAbsolute_join (relative : isAbsolute path = false) :
    isAbsolute (join directory path) = isAbsolute directory := by
  rw [join, relative, if_neg Bool.false_ne_true]
  cases directory with
  | nil => simpa [isAbsolute] using relative
  | cons first rest => split <;> rfl

theorem absolute_eq_ofNames {place : List (List Char)} (plain : ∀ name ∈ place, IsName name)
    (single : ¬HasTwoSlashes path) :
    absolute (ofNames place) path = ofNames (normalComponents (join (ofNames place) path)) := by
  have joined : ¬HasTwoSlashes (join (ofNames place) path) := by
    cases starts : isAbsolute path with
    | true => rwa [join, starts, if_pos rfl]
    | false => exact not_hasTwoSlashes_join (not_hasTwoSlashes_ofNames plain) starts
  rw [absolute, normalize, leadingSlashes_of_not_hasTwoSlashes joined]
  rfl

end SourceSimilarity.Path
