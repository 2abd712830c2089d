import Mathlib.Algebra.Order.Ring.Int
import Mathlib.Data.Prod.Lex
import SourceSimilarity.Proofs.Pairing
import SourceSimilarity.Scan.Task

namespace SourceSimilarity

namespace FilePair

/-- The files of a pair by their code points. Pairs are ordered by the first file first. -/
def key (pair : FilePair) : List Nat ×ₗ List Nat :=
  toLex (Text.codes pair.first, Text.codes pair.second)

theorem key_injective : key.Injective := by
  rintro ⟨first, second, ordered⟩ ⟨otherFirst, otherSecond, otherOrdered⟩ same
  obtain ⟨firsts, seconds⟩ := Prod.mk.inj (toLex.injective same)
  obtain rfl : first = otherFirst := Text.codes_injective firsts
  obtain rfl : second = otherSecond := Text.codes_injective seconds
  rfl

theorem notAfter_iff (a b : FilePair) : a.notAfter b = true ↔ ¬b.key < a.key := by
  rw [key, key, Prod.Lex.toLex_lt_toLex, notAfter]
  split
  · rename_i before
    exact iff_of_true rfl (not_or.mpr ⟨before.asymm, fun same => LT.lt.ne' before same.1⟩)
  · rename_i notBefore
    split
    · rename_i behind
      exact iff_of_false Bool.false_ne_true (not_not_intro (.inl behind))
    · rename_i notBehind
      have same : Text.codes b.first = Text.codes a.first :=
        le_antisymm (not_lt.mp notBefore) (not_lt.mp notBehind)
      rw [Bool.not_eq_true', decide_eq_false_iff_not, same]
      simp only [lt_irrefl, false_or, true_and, Text.Before]

end FilePair

namespace Inputs

variable {pairs others : List FilePair}

theorem pairwise_arranged (pairs : List FilePair) :
    (arranged pairs).Pairwise fun a b => a.key < b.key :=
  pairwise_dropRepeats _ FilePair.key_injective (pairwise_mergeSort _ FilePair.notAfter_iff pairs)

theorem mem_arranged {pair : FilePair} : pair ∈ arranged pairs ↔ pair ∈ pairs := by
  rw [arranged, mem_dropRepeats, List.mem_mergeSort]

theorem arranged_congr (same : ∀ pair, pair ∈ others ↔ pair ∈ pairs) :
    arranged others = arranged pairs := by
  have nodup (pairs : List FilePair) : (arranged pairs).Nodup :=
    (pairwise_arranged pairs).imp fun before equal => before.ne (congrArg FilePair.key equal)
  refine List.Perm.eq_of_pairwise (fun _ _ _ _ before behind => absurd behind before.asymm)
    (pairwise_arranged others) (pairwise_arranged pairs) ?_
  refine (List.perm_ext_iff_of_nodup (nodup others) (nodup pairs)).mpr fun pair => ?_
  rw [mem_arranged, mem_arranged, same]

def filesOf (pairs : List FilePair) : List String :=
  ascending (pairs.map (·.first) ++ pairs.map (·.second))

theorem mem_filesOf {path : String} :
    path ∈ filesOf pairs ↔ ∃ pair ∈ pairs, path = pair.first ∨ path = pair.second := by
  simp only [filesOf, mem_ascending, List.mem_append, List.mem_map, and_or_left, exists_or,
    eq_comm (a := path)]

theorem idxOf_lt_idxOf {files : List String} (ascends : files.Pairwise Text.Before)
    {a b : String} (hereA : a ∈ files) (hereB : b ∈ files) (before : Text.Before a b) :
    files.idxOf a < files.idxOf b := by
  have insideA := List.idxOf_lt_length_iff.mpr hereA
  have insideB := List.idxOf_lt_length_iff.mpr hereB
  have later := List.pairwise_iff_getElem.mp ascends (files.idxOf b) (files.idxOf a) insideB insideA
  rw [List.getElem_idxOf, List.getElem_idxOf] at later
  rcases Nat.lt_trichotomy (files.idxOf a) (files.idxOf b) with less | same | more
  · exact less
  · exact absurd ((List.idxOf_inj hereA).mp same) before.ne
  · exact absurd (later more) before.asymm

theorem itemAt?_ofNat {α : Type} (items : List α) (index : Nat) (inside : index < items.length) :
    itemAt? items (index : Int) = some items[index] := by
  rw [itemAt?, position?_ofNat items.length ⟨index, inside⟩]
  rfl

theorem indexOf?_getElem {inputs : Inputs} (nodup : inputs.files.Nodup) (index : Nat)
    (inside : index < inputs.files.length) :
    inputs.indexOf? inputs.files[index] = some index := by
  have fromEnd : inputs.files.reverse.idxOf? inputs.files[index] =
      some (inputs.files.length - 1 - index) := by
    refine List.idxOf?_eq_some_iff.mpr ⟨by rw [List.length_reverse]; omega, ?_, ?_⟩
    · rw [List.getElem_reverse]
      congr 1
      omega
    · intro other before same
      rw [List.getElem_reverse] at same
      have equal := (List.Nodup.getElem_inj_iff nodup).mp same
      omega
  rw [indexOf?, fromEnd, Option.map_some]
  congr 1
  omega

/-- Files and pairs are numbered by the order of paths, without gaps and repeats. -/
structure Numbers (inputs : Inputs) (pairs : List FilePair) : Prop where
  files_ascend : inputs.files.Pairwise Text.Before
  mem_files : ∀ path, path ∈ inputs.files ↔ ∃ pair ∈ pairs, path = pair.first ∨ path = pair.second
  pairs_ascend : inputs.pairs.Pairwise fun a b => toLex a < toLex b
  inside : ∀ pair ∈ inputs.pairs, 0 ≤ pair.1 ∧ pair.1 < pair.2 ∧ pair.2 < inputs.fileCount
  enumerates : ∃ listed : List FilePair, listed.Pairwise (fun a b => a.key < b.key) ∧
    (∀ pair, pair ∈ listed ↔ pair ∈ pairs) ∧
    (List.range inputs.pairCount).map (fun number : Nat => inputs.filePair number) =
      listed.map .ok
  indexOf?_files : ∀ (index : Nat) (inside : index < inputs.files.length),
    inputs.indexOf? inputs.files[index] = some index

def numbersOf (files : List String) (pair : FilePair) : Int × Int :=
  ((files.idxOf pair.first : Int), (files.idxOf pair.second : Int))

theorem numbersOf_inside {pair : FilePair} (member : pair ∈ pairs) :
    0 ≤ (numbersOf (filesOf pairs) pair).1 ∧
      (numbersOf (filesOf pairs) pair).1 < (numbersOf (filesOf pairs) pair).2 ∧
      (numbersOf (filesOf pairs) pair).2 < (filesOf pairs).length := by
  have first := mem_filesOf.mpr ⟨pair, member, .inl rfl⟩
  have second := mem_filesOf.mpr ⟨pair, member, .inr rfl⟩
  refine ⟨Int.natCast_nonneg _, Int.ofNat_lt.mpr ?_, Int.ofNat_lt.mpr ?_⟩
  · exact idxOf_lt_idxOf (pairwise_ascending _) first second pair.ordered
  · exact List.idxOf_lt_length_iff.mpr second

theorem numbersOf_lt_numbersOf {a b : FilePair} (memberA : a ∈ pairs) (memberB : b ∈ pairs)
    (before : a.key < b.key) :
    toLex (numbersOf (filesOf pairs) a) < toLex (numbersOf (filesOf pairs) b) := by
  have number {path other : String} (here : path ∈ filesOf pairs) (there : other ∈ filesOf pairs)
      (less : Text.Before path other) :
      ((filesOf pairs).idxOf path : Int) < ((filesOf pairs).idxOf other : Int) :=
    Int.ofNat_lt.mpr (idxOf_lt_idxOf (pairwise_ascending _) here there less)
  rw [FilePair.key, FilePair.key, Prod.Lex.toLex_lt_toLex] at before
  rw [Prod.Lex.toLex_lt_toLex]
  rcases before with before | ⟨same, before⟩
  · exact .inl (number (mem_filesOf.mpr ⟨a, memberA, .inl rfl⟩)
      (mem_filesOf.mpr ⟨b, memberB, .inl rfl⟩) before)
  · have first : a.first = b.first := Text.codes_injective same
    exact .inr ⟨congrArg (fun path => ((filesOf pairs).idxOf path : Int)) first,
      number (mem_filesOf.mpr ⟨a, memberA, .inr rfl⟩) (mem_filesOf.mpr ⟨b, memberB, .inr rfl⟩)
        before⟩

theorem ofPairs_eq (pairs : List FilePair) : ofPairs pairs =
    ⟨filesOf (arranged pairs), (arranged pairs).map (numbersOf (filesOf (arranged pairs)))⟩ := rfl

theorem itemAt?_idxOf {files : List String} {path : String} (here : path ∈ files) :
    itemAt? files (files.idxOf path : Int) = some path := by
  rw [itemAt?_ofNat _ _ (List.idxOf_lt_length_iff.mpr here), List.getElem_idxOf]

theorem filePair_ofPairs (number : Nat) (inside : number < (arranged pairs).length) :
    (ofPairs pairs).filePair number = .ok (arranged pairs)[number] := by
  have member := List.getElem_mem inside
  have first := itemAt?_idxOf (mem_filesOf.mpr ⟨_, member, .inl rfl⟩)
  have second := itemAt?_idxOf (mem_filesOf.mpr ⟨_, member, .inr rfl⟩)
  have paths : (ofPairs pairs).paths? number =
      some ((arranged pairs)[number].first, (arranged pairs)[number].second) := by
    rw [ofPairs_eq, paths?, itemAt?_ofNat _ number (by rwa [List.length_map]), List.getElem_map]
    simp only [numbersOf, Option.bind_eq_bind, Option.bind_some, first, second, Option.pure_def]
  simp only [filePair, paths, FilePair.of_files, Except.mapError]

theorem numbers_ofPairs (pairs : List FilePair) : (ofPairs pairs).Numbers pairs where
  files_ascend := pairwise_ascending _
  mem_files path := by simp only [ofPairs_eq, mem_filesOf, mem_arranged]
  pairs_ascend := by
    rw [ofPairs_eq, List.pairwise_map]
    exact (pairwise_arranged pairs).imp_of_mem numbersOf_lt_numbersOf
  inside numbers member := by
    obtain ⟨pair, here, rfl⟩ := List.mem_map.mp member
    exact numbersOf_inside here
  enumerates := by
    refine ⟨arranged pairs, pairwise_arranged pairs, fun pair => mem_arranged, ?_⟩
    refine List.ext_getElem (by simp [pairCount, ofPairs_eq]) fun number _ inside => ?_
    rw [List.getElem_map, List.getElem_map, List.getElem_range]
    exact filePair_ofPairs number (by rwa [List.length_map] at inside)
  indexOf?_files := indexOf?_getElem ((pairwise_ascending _).imp fun before => before.ne)

theorem checkPair_eq_ok {count number : Nat} {pair : Int × Int} (least : 0 ≤ pair.1)
    (ordered : pair.1 < pair.2) (most : pair.2 < count) :
    ∃ files, Task.checkPair count number pair = .ok files := by
  have first : 0 ≤ pair.1 ∧ pair.1 < count := ⟨least, by omega⟩
  have second : 0 ≤ pair.2 ∧ pair.2 < count := ⟨by omega, most⟩
  have differ : (⟨pair.1.toNat, by omega⟩ : Fin count) ≠ ⟨pair.2.toNat, by omega⟩ := by
    rw [ne_eq, Fin.mk.injEq]
    omega
  refine ⟨(⟨pair.1.toNat, by omega⟩, ⟨pair.2.toNat, by omega⟩), ?_⟩
  simp only [Task.checkPair, Task.fileOf?, dif_pos first, dif_pos second, if_neg differ]

theorem Numbers.exists_task {inputs : Inputs} (numbers : inputs.Numbers pairs) :
    ∃ task, Task.ofInputs inputs = .ok task := by
  have each : ∀ numbered ∈ inputs.pairs.zipIdx, ∃ files,
      Task.checkPair inputs.files.toArray.size numbered.2 numbered.1 = .ok files := by
    intro numbered member
    obtain ⟨least, ordered, most⟩ := numbers.inside _ (List.fst_mem_of_mem_zipIdx member)
    exact checkPair_eq_ok least ordered (by rwa [List.size_toArray])
  obtain ⟨checked, all⟩ := exists_mapM_eq_ok each
  exact ⟨_, by rw [Task.ofInputs, all]; rfl⟩

def Named (given : List (String × String)) (a b : String) : Prop :=
  (a, b) ∈ given ∨ (b, a) ∈ given

def Forms : List (String × String) → List FilePair → Prop :=
  List.Forall₂ fun files pair => FilePair.of files.1 files.2 = .ok pair

theorem Forms.mem_iff_named {given : List (String × String)} (forms : Forms given pairs)
    {pair : FilePair} : pair ∈ pairs ↔ Named given pair.first pair.second := by
  induction forms with
  | nil => simp [Named]
  | @cons files formed given pairs own others ih =>
      have same : pair = formed ↔
          (pair.first, pair.second) = files ∨ (pair.second, pair.first) = files := by
        have decided : FilePair.of files.1 files.2 = .ok pair ↔ _ := FilePair.of_eq_ok_iff
        rw [own, Except.ok.injEq] at decided
        rw [eq_comm, decided, Prod.ext_iff, Prod.ext_iff, and_comm (a := pair.second = files.1)]
      rw [List.mem_cons, ih, same]
      simp only [Named, List.mem_cons]
      tauto

/-- The files of some pairs are numbered in the order of their paths, and the pairs in that of their
files. They make a task, and depend only on which files are paired: not on the order in which pairs
are given, nor on how often they are, nor on which of the two files is named first. -/
theorem ofPairs_dense (pairs : List FilePair) :
    (ofPairs pairs).Numbers pairs ∧ (∃ task, Task.ofInputs (ofPairs pairs) = .ok task) ∧
    ∀ (given others : List (String × String)) (otherPairs : List FilePair), Forms given pairs →
      Forms others otherPairs → (∀ a b, Named others a b ↔ Named given a b) →
        ofPairs otherPairs = ofPairs pairs := by
  refine ⟨numbers_ofPairs pairs, (numbers_ofPairs pairs).exists_task,
    fun given others otherPairs forms otherForms same => ?_⟩
  have members : ∀ pair, pair ∈ otherPairs ↔ pair ∈ pairs := fun pair => by
    rw [otherForms.mem_iff_named, forms.mem_iff_named, same]
  rw [ofPairs_eq, ofPairs_eq, arranged_congr members]

def triangle : List FilePair :=
  [⟨"a", "c", by decide⟩, ⟨"b", "c", by decide⟩, ⟨"a", "b", by decide⟩]

def triangleAgain : List FilePair :=
  [⟨"a", "b", by decide⟩, ⟨"b", "c", by decide⟩, ⟨"a", "b", by decide⟩, ⟨"a", "c", by decide⟩]

theorem ofPairs_dense_of_triangle :
    let given := [("c", "a"), ("b", "c"), ("a", "b")]
    let others := [("b", "a"), ("c", "b"), ("a", "b"), ("a", "c")]
    Forms given triangle ∧ Forms others triangleAgain ∧
    (∀ a b, Named others a b ↔ Named given a b) ∧ ofPairs triangleAgain = ofPairs triangle ∧
    (ofPairs triangle).Numbers triangle := by
  intro given others
  have forms : Forms given triangle := by
    refine .cons ?_ (.cons ?_ (.cons ?_ .nil)) <;> decide
  have otherForms : Forms others triangleAgain := by
    refine .cons ?_ (.cons ?_ (.cons ?_ (.cons ?_ .nil))) <;> decide
  have same : ∀ a b, Named others a b ↔ Named given a b := by
    intro a b
    simp only [Named, given, others, List.mem_cons, List.not_mem_nil, or_false, Prod.mk.injEq]
    tauto
  obtain ⟨numbers, -, unchanged⟩ := ofPairs_dense triangle
  exact ⟨forms, otherForms, same, unchanged given others triangleAgain forms otherForms same,
    numbers⟩

end Inputs

end SourceSimilarity
