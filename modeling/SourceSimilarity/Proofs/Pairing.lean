import Mathlib.Data.Finset.Dedup
import Mathlib.Data.Finset.Insert
import SourceSimilarity.Discovery
import SourceSimilarity.Proofs.Inputs
import SourceSimilarity.Proofs.Result

namespace SourceSimilarity

namespace FilePair

theorem of_eq_ok_iff {a b : String} {pair : FilePair} :
    FilePair.of a b = .ok pair ↔
      pair.first = a ∧ pair.second = b ∨ pair.first = b ∧ pair.second = a := by
  obtain ⟨first, second, ordered⟩ := pair
  rw [FilePair.of]
  split
  · rename_i forward
    simp only [Except.ok.injEq, mk.injEq]
    refine ⟨fun same => .inl ⟨same.1.symm, same.2.symm⟩, ?_⟩
    rintro (⟨rfl, rfl⟩ | ⟨rfl, rfl⟩)
    · exact ⟨rfl, rfl⟩
    · exact absurd ordered forward.asymm
  · rename_i notForward
    split
    · rename_i backward
      simp only [Except.ok.injEq, mk.injEq]
      refine ⟨fun same => .inr ⟨same.1.symm, same.2.symm⟩, ?_⟩
      rintro (⟨rfl, rfl⟩ | ⟨rfl, rfl⟩)
      · exact absurd ordered backward.asymm
      · exact ⟨rfl, rfl⟩
    · rename_i notBackward
      simp only [reduceCtorEq, false_iff]
      rintro (⟨rfl, rfl⟩ | ⟨rfl, rfl⟩)
      · exact notForward ordered
      · exact notBackward ordered

theorem of_files (pair : FilePair) : FilePair.of pair.first pair.second = .ok pair :=
  of_eq_ok_iff.mpr (.inl ⟨rfl, rfl⟩)

theorem exists_of {a b : String} (differ : a ≠ b) : ∃ pair, FilePair.of a b = .ok pair := by
  rcases Text.before_or_before differ with forward | backward
  · exact ⟨⟨a, b, forward⟩, of_eq_ok_iff.mpr (.inl ⟨rfl, rfl⟩)⟩
  · exact ⟨⟨b, a, backward⟩, of_eq_ok_iff.mpr (.inr ⟨rfl, rfl⟩)⟩

theorem ne_of_of {a b : String} {pair : FilePair} (formed : FilePair.of a b = .ok pair) :
    a ≠ b := by
  rcases of_eq_ok_iff.mp formed with ⟨rfl, rfl⟩ | ⟨rfl, rfl⟩
  · exact pair.ordered.ne
  · exact pair.ordered.ne.symm

theorem of_comm {a b : String} {pair : FilePair} :
    FilePair.of a b = .ok pair ↔ FilePair.of b a = .ok pair := by
  rw [of_eq_ok_iff, of_eq_ok_iff, or_comm]

end FilePair

def FoundBy (kinds : Set EntryKind) (found : List (EntryKind × List String)) (path : String) :
    Prop :=
  ∃ entry ∈ found, entry.1 ∈ kinds ∧ path ∈ entry.2

/-- Findings that differ at most in the order of the entries, in the order of their files, and in
how often an entry or a file is listed. -/
def SameFindings (found other : List (EntryKind × List String)) : Prop :=
  (found.map fun entry => (entry.1, entry.2.toFinset)).toFinset =
    (other.map fun entry => (entry.1, entry.2.toFinset)).toFinset

variable {found other : List (EntryKind × List String)} {kinds : Set EntryKind} {path : String}

theorem FoundBy.mono {more : Set EntryKind} (here : FoundBy kinds found path)
    (subset : kinds ⊆ more) : FoundBy more found path := by
  obtain ⟨entry, member, kind, inside⟩ := here
  exact ⟨entry, member, subset kind, inside⟩

theorem foundBy_iff_toFinset : FoundBy kinds found path ↔
    ∃ finding ∈ (found.map fun entry => (entry.1, entry.2.toFinset)).toFinset,
      finding.1 ∈ kinds ∧ path ∈ finding.2 := by
  simp [FoundBy]

theorem SameFindings.foundBy_iff (same : SameFindings found other) :
    FoundBy kinds found path ↔ FoundBy kinds other path := by
  rw [foundBy_iff_toFinset, foundBy_iff_toFinset, same]

theorem mem_pairsAmong {pair : FilePair} : pair ∈ pairsAmong found ↔
    ∃ a b, FoundBy .univ found a ∧ FoundBy {.normal, .single} found b ∧
      FilePair.of a b = .ok pair := by
  have fresh (kind : EntryKind) : kind ≠ .old ↔ kind ∈ ({.normal, .single} : Set EntryKind) := by
    cases kind <;> simp
  have kept {a b : String} : pair ∈ (FilePair.of a b).toOption ↔ FilePair.of a b = .ok pair := by
    cases FilePair.of a b <;> simp [Except.toOption]
  simp only [pairsAmong, List.mem_flatMap, List.mem_filterMap, List.mem_filter, decide_eq_true_eq,
    fresh, FoundBy, Set.mem_univ, true_and, ← Option.mem_def, kept]
  constructor
  · rintro ⟨a, hereA, b, ⟨entry, ⟨member, kind⟩, hereB⟩, formed⟩
    exact ⟨a, b, hereA, ⟨entry, member, kind, hereB⟩, formed⟩
  · rintro ⟨a, b, hereA, ⟨entry, member, kind, hereB⟩, formed⟩
    exact ⟨a, hereA, b, ⟨entry, ⟨member, kind⟩, hereB⟩, formed⟩

theorem exists_pair_among_iff {a b : String} :
    (∃ pair ∈ pairsAmong found, FilePair.of a b = .ok pair) ↔
      a ≠ b ∧ FoundBy .univ found a ∧ FoundBy .univ found b ∧
        (FoundBy {.normal, .single} found a ∨ FoundBy {.normal, .single} found b) := by
  simp only [mem_pairsAmong]
  constructor
  · rintro ⟨pair, ⟨c, d, hereC, freshD, formed⟩, formedAB⟩
    refine ⟨FilePair.ne_of_of formedAB, ?_⟩
    have hereD : FoundBy .univ found d := freshD.mono (Set.subset_univ _)
    rcases FilePair.of_eq_ok_iff.mp formed with ⟨rfl, rfl⟩ | ⟨rfl, rfl⟩ <;>
      rcases FilePair.of_eq_ok_iff.mp formedAB with ⟨rfl, rfl⟩ | ⟨rfl, rfl⟩
    · exact ⟨hereC, hereD, .inr freshD⟩
    · exact ⟨hereD, hereC, .inl freshD⟩
    · exact ⟨hereD, hereC, .inl freshD⟩
    · exact ⟨hereC, hereD, .inr freshD⟩
  · rintro ⟨differ, hereA, hereB, fresh⟩
    obtain ⟨pair, formed⟩ := FilePair.exists_of differ
    rcases fresh with freshA | freshB
    · exact ⟨pair, ⟨b, a, hereB, freshA, FilePair.of_comm.mp formed⟩, formed⟩
    · exact ⟨pair, ⟨a, b, hereA, freshB, formed⟩, formed⟩

theorem SameFindings.pairsAmong (same : SameFindings found other) :
    (pairsAmong other).toFinset = (pairsAmong found).toFinset := by
  ext pair
  simp only [List.mem_toFinset, mem_pairsAmong, same.foundBy_iff]

/-- What an entry finds in a file system. -/
def Entry.Finds (files : FileTree) (limits : Limits) (entry : Entry)
    (finding : EntryKind × List String) : Prop :=
  finding.1 = entry.kind ∧ entry.files files limits = .ok finding.2

theorem pairsOfEntries_eq_ok_iff {entries : List Entry} {files : FileTree} {limits : Limits}
    {pairs : List FilePair} : pairsOfEntries entries files limits = .ok pairs ↔
      ∃ found, List.Forall₂ (Entry.Finds files limits) entries found ∧
        pairs = pairsAmong found := by
  have finds (entry : Entry) (finding : EntryKind × List String) :
      (do pure (entry.kind, ← entry.files files limits) : Except DiscoveryError _) = .ok finding ↔
        Entry.Finds files limits entry finding := by
    simp only [bind_eq_ok, pure_eq_ok, Entry.Finds, Prod.ext_iff]
    grind
  simp only [pairsOfEntries, bind_eq_ok, pure_eq_ok, mapM_eq_ok_iff, finds,
    eq_comm (a := pairs)]

/-- The pairs of what some entries have found are those of two different files of which at least one
is not found by old entries only. They do not depend on the order of the entries or files, nor on
how often these are listed, and they are the pairs of all entries that find these files. -/
theorem pairsAmong_exact (found : List (EntryKind × List String)) :
    (∀ a b, (∃ pair ∈ pairsAmong found, FilePair.of a b = .ok pair) ↔
      a ≠ b ∧ FoundBy .univ found a ∧ FoundBy .univ found b ∧
        (FoundBy {.normal, .single} found a ∨ FoundBy {.normal, .single} found b)) ∧
    (∀ pair ∈ pairsAmong found, ¬∀ entry ∈ found,
      pair.first ∈ entry.2 ∨ pair.second ∈ entry.2 → entry.1 = .old) ∧
    (∀ other, SameFindings found other →
      (pairsAmong other).toFinset = (pairsAmong found).toFinset) ∧
    ∀ (entries : List Entry) (files : FileTree) (limits : Limits),
      List.Forall₂ (Entry.Finds files limits) entries found →
        pairsOfEntries entries files limits = .ok (pairsAmong found) := by
  refine ⟨fun a b => exists_pair_among_iff, fun pair member onlyOld => ?_,
    fun other same => same.pairsAmong, fun entries files limits finds =>
      pairsOfEntries_eq_ok_iff.mpr ⟨found, finds, rfl⟩⟩
  obtain ⟨-, -, -, fresh⟩ := exists_pair_among_iff.mp ⟨pair, member, pair.of_files⟩
  rcases fresh with ⟨entry, listed, kind, inside⟩ | ⟨entry, listed, kind, inside⟩
  · rw [onlyOld entry listed (.inl inside)] at kind
    simp at kind
  · rw [onlyOld entry listed (.inr inside)] at kind
    simp at kind

def threeTerms : FileTree where
  root := .directory [("fall", .directory [("a.c", .file [])]),
    ("spring", .directory [("b.c", .file [])]), ("winter", .directory [("c.c", .file [])])]
  workingDirectory := []

theorem pairsAmong_exact_of_threeTerms :
    let entries : List Entry := [⟨"fall", some "*.c", .normal, false⟩,
      ⟨"spring", some "*.c", .old, false⟩, ⟨"winter", some "*.c", .old, false⟩]
    let found := [(EntryKind.normal, ["/fall/a.c"]), (.old, ["/spring/b.c"]),
      (.old, ["/winter/c.c"])]
    let other := [(EntryKind.old, ["/winter/c.c", "/winter/c.c"]), (.normal, ["/fall/a.c"]),
      (.old, ["/spring/b.c"]), (.normal, ["/fall/a.c"])]
    List.Forall₂ (Entry.Finds threeTerms {}) entries found ∧ SameFindings found other ∧
    pairsOfEntries entries threeTerms = .ok (pairsAmong found) ∧
    (pairsAmong other).toFinset = (pairsAmong found).toFinset ∧
    (∃ pair ∈ pairsAmong found, FilePair.of "/winter/c.c" "/fall/a.c" = .ok pair) ∧
    ¬∃ pair ∈ pairsAmong found, FilePair.of "/spring/b.c" "/winter/c.c" = .ok pair := by
  intro entries found other
  have finds : List.Forall₂ (Entry.Finds threeTerms {}) entries found := by
    refine .cons ⟨rfl, ?_⟩ (.cons ⟨rfl, ?_⟩ (.cons ⟨rfl, ?_⟩ .nil))
    · decide +kernel
    · decide +kernel
    · decide +kernel
  have same : SameFindings found other := by
    unfold SameFindings
    decide
  obtain ⟨pairedIff, -, unchanged, ofEntries⟩ := pairsAmong_exact found
  refine ⟨finds, same, ofEntries entries threeTerms {} finds, unchanged other same, ?_, ?_⟩
  · exact (pairedIff _ _).mpr ⟨by decide, by simp [FoundBy, found], by simp [FoundBy, found],
      by simp [FoundBy, found]⟩
  · intro paired
    have fresh := ((pairedIff _ _).mp paired).2.2.2
    simp [FoundBy, found] at fresh

end SourceSimilarity
