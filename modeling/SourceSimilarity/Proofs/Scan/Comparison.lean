import SourceSimilarity.Score.Table
import SourceSimilarity.Proofs.EditDistance
import SourceSimilarity.Proofs.Scan.Snapshot
import SourceSimilarity.Proofs.Source.Conversion
import SourceSimilarity.Proofs.Tree.Metric

namespace SourceSimilarity

namespace Cache

/-- The caches to which taking artefacts leads, whatever the files, the parsers and the options are
each time. -/
inductive Reached : Cache → Prop
  | empty : Reached .empty
  | taken {cache : Cache} (reached : Reached cache) (sources : Sources) (config : Config)
      (path : String) (comparator : Comparator) :
      Reached (Artefact.take cache sources config path comparator).cache

def Sound (cache : Cache) : Prop :=
  ∀ path source, cache.parsed.lookup path = some (some source) → source.Sound

variable {cache : Cache}

theorem parsed_read (cache : Cache) (sources : Sources) (path : String) :
    (cache.read sources path).cache.parsed = cache.parsed := by
  unfold read
  split
  · rfl
  · split <;> rfl

theorem Sound.read (sound : cache.Sound) (sources : Sources) (path : String) :
    (cache.read sources path).cache.Sound := by
  rw [Sound, parsed_read]
  exact sound

theorem Sound.keepParsed (sound : cache.Sound) {path : String} {source : Option ParsedSource}
    (kept : ∀ parsed ∈ source, parsed.Sound) : (cache.keepParsed path source).Sound := by
  intro other parsed found
  rcases Snapshot.lookup_cons found with ⟨-, rfl⟩ | known
  · exact kept parsed rfl
  · exact sound other parsed known

theorem Sound.parse (sound : cache.Sound) (sources : Sources) (path : String) :
    (cache.parse sources path).cache.Sound ∧
      ∀ source, (cache.parse sources path).value = .ok (some source) → source.Sound := by
  unfold Cache.parse
  cases known : cache.parsed.lookup path with
  | some source =>
      refine ⟨sound, fun parsed value => sound path parsed ?_⟩
      rw [known, Except.ok.inj value]
  | none =>
      have access := sound.read sources path
      dsimp only
      split
      · exact ⟨access, fun source value => nomatch value⟩
      · exact ⟨access.keepParsed (fun parsed member => nomatch member),
          fun source value => nomatch value⟩
      · exact ⟨access.keepParsed (fun parsed member => nomatch member),
          fun source value => nomatch value⟩
      · split
        · rename_i source outcome
          have parsed := ParsedSource.sound_of_parsePrepared outcome
          refine ⟨access.keepParsed fun _ member => ?_, fun _ value => ?_⟩
          · obtain rfl := Option.some.inj member
            exact parsed
          · obtain rfl := Option.some.inj (Except.ok.inj value)
            exact parsed
        · exact ⟨access.keepParsed (fun parsed member => nomatch member),
            fun source value => nomatch value⟩
        · exact ⟨access, fun source value => nomatch value⟩

theorem Sound.normalized (sound : cache.Sound) (sources : Sources) (normalizer : Normalizer)
    (path : String) : (cache.normalized sources normalizer path).cache.Sound := by
  have access := sound.read sources path
  unfold Cache.normalized
  dsimp only
  split
  · exact access
  · exact access
  · exact (access.parse sources path).1
  · exact access

theorem Sound.take (sound : cache.Sound) (sources : Sources) (config : Config) (path : String)
    (comparator : Comparator) : (Artefact.take cache sources config path comparator).cache.Sound := by
  cases comparator with
  | byteEdit => exact sound.normalized sources config.normalizer path
  | tokenEdit => exact (sound.parse sources path).1
  | moss => exact sound.normalized sources config.normalizer path
  | treeEdit => exact (sound.parse sources path).1
  | isomorphism => exact (sound.parse sources path).1

theorem Reached.sound (reached : cache.Reached) : cache.Sound := by
  induction reached with
  | empty => exact fun path source found => nomatch found
  | taken _ sources config path comparator ih => exact ih.take sources config path comparator

end Cache

namespace Artefact

/-- The artefacts that a comparator takes from some file, with whatever was taken before. -/
def IsTaken (comparator : Comparator) (artefact : Artefact comparator) : Prop :=
  ∃ cache sources config path, Cache.Reached cache ∧
    (take cache sources config path comparator).value = .ok artefact

theorem afterAccess_eq_ok {α β : Type} {access : Access (Except Breakdown α)}
    {f : α → Except UnitError β} {result : β} (taken : (afterAccess access f).value = .ok result) :
    ∃ value, access.value = .ok value ∧ f value = .ok result := by
  unfold afterAccess at taken
  cases outcome : access.value with
  | ok value =>
      rw [outcome] at taken
      exact ⟨value, rfl, taken⟩
  | error breakdown =>
      rw [outcome] at taken
      cases taken

theorem exists_grown_of_isTaken {view : Tree.PostOrder String}
    (taken : IsTaken .treeEdit (some view : Option (Tree.PostOrder String))) :
    ∃ table : Tree.Table String, table.Grown ∧ Tree.PostOrder.ofTable? table = some view := by
  obtain ⟨cache, sources, config, path, reached, value⟩ := taken
  obtain ⟨parsed, found, tree⟩ := afterAccess_eq_ok value
  cases parsed with
  | none => cases tree
  | some source =>
      rw [treeOf] at tree
      split at tree
      · rename_i view' viewed
        obtain rfl := Option.some.inj (Except.ok.inj tree)
        rcases (reached.sound.parse sources path).2 source found with empty | grown
        · rw [empty] at viewed
          cases viewed
        · exact ⟨source.tree, grown, viewed⟩
      · cases tree

def isPresent : (comparator : Comparator) → Artefact comparator → Bool
  | .byteEdit, _ => true
  | .moss, _ => true
  | .tokenEdit, (a : Option (List Int)) => a.isSome
  | .treeEdit, (a : Option (Tree.PostOrder String)) => a.isSome
  | .isomorphism, (a : Option (List Char)) => a.isSome

def itemCount : (comparator : Comparator) → Artefact comparator → Nat
  | .byteEdit, (a : Bytes) => a.length
  | .moss, (a : List Int) => a.length
  | .tokenEdit, (a : Option (List Int)) => (a.getD []).length
  | .treeEdit, (a : Option (Tree.PostOrder String)) => (a.map Tree.PostOrder.size).getD 0
  | .isomorphism, (a : Option (List Char)) => (a.getD []).length

/-- Trees that are compared have fewer than 2 ^ 31 nodes together. -/
def TreesFit : (comparator : Comparator) → Artefact comparator → Artefact comparator → Prop
  | .treeEdit, (a : Option (Tree.PostOrder String)), (b : Option (Tree.PostOrder String)) =>
    ∀ viewA ∈ a, ∀ viewB ∈ b, viewA.size + viewB.size < 2147483648
  | _, _, _ => True

theorem compare_missing {comparator : Comparator} {a b : Artefact comparator}
    (missing : ¬ (isPresent comparator a = true ∧ isPresent comparator b = true)) :
    compare comparator a b = (incomparable, none) := by
  cases comparator with
  | byteEdit => exact absurd ⟨rfl, rfl⟩ missing
  | moss => exact absurd ⟨rfl, rfl⟩ missing
  | tokenEdit =>
      match a, b with
      | none, _ => rfl
      | some _, none => rfl
      | some _, some _ => exact absurd ⟨rfl, rfl⟩ missing
  | treeEdit =>
      match a, b with
      | none, _ => rfl
      | some _, none => rfl
      | some _, some _ => exact absurd ⟨rfl, rfl⟩ missing
  | isomorphism =>
      match a, b with
      | none, _ => rfl
      | some _, none => rfl
      | some _, some _ => exact absurd ⟨rfl, rfl⟩ missing

theorem compare_lt_incomparable {comparator : Comparator} {a b : Artefact comparator}
    (takenA : IsTaken comparator a) (takenB : IsTaken comparator b)
    (presentA : isPresent comparator a = true) (presentB : isPresent comparator b = true)
    (fit : TreesFit comparator a b) : (compare comparator a b).1 < incomparable := by
  cases comparator with
  | byteEdit => exact EditDistance.limited_lt_incomparable a b
  | moss => exact EditDistance.limited_lt_incomparable a b
  | tokenEdit =>
      obtain ⟨a, rfl⟩ := Option.isSome_iff_exists.mp presentA
      obtain ⟨b, rfl⟩ := Option.isSome_iff_exists.mp presentB
      exact EditDistance.limited_lt_incomparable a b
  | treeEdit =>
      obtain ⟨viewA, rfl⟩ := Option.isSome_iff_exists.mp presentA
      obtain ⟨viewB, rfl⟩ := Option.isSome_iff_exists.mp presentB
      obtain ⟨tableA, grownA, foundA⟩ := exists_grown_of_isTaken takenA
      obtain ⟨tableB, grownB, foundB⟩ := exists_grown_of_isTaken takenB
      have bound := grownA.distance_lt_add grownB
      have sizes : viewA.size + viewB.size < 2147483648 := fit viewA rfl viewB rfl
      rw [grownA.size_of_view foundA, grownB.size_of_view foundB] at sizes
      rw [Tree.Table.Grown.compare_views, grownA.editDistance_of_views grownB foundA foundB]
      show tableA.layout.distance tableB.layout < incomparable
      rw [incomparable]
      omega
  | isomorphism =>
      obtain ⟨a, rfl⟩ := Option.isSome_iff_exists.mp presentA
      obtain ⟨b, rfl⟩ := Option.isSome_iff_exists.mp presentB
      show (if a = b then 0 else 1) < incomparable
      split <;> decide

theorem compare_comm {comparator : Comparator} {a b : Artefact comparator}
    (takenA : IsTaken comparator a) (takenB : IsTaken comparator b) :
    compare comparator a b = compare comparator b a := by
  cases comparator with
  | byteEdit => exact EditDistance.limited_comm a b
  | moss => exact EditDistance.limited_comm a b
  | tokenEdit =>
      match a, b with
      | none, none => rfl
      | none, some _ => rfl
      | some _, none => rfl
      | some a, some b => exact EditDistance.limited_comm a b
  | treeEdit =>
      match a, b with
      | none, none => rfl
      | none, some _ => rfl
      | some _, none => rfl
      | some viewA, some viewB =>
          obtain ⟨tableA, grownA, foundA⟩ := exists_grown_of_isTaken takenA
          obtain ⟨tableB, grownB, foundB⟩ := exists_grown_of_isTaken takenB
          rw [Tree.Table.Grown.compare_views, Tree.Table.Grown.compare_views,
            grownA.editDistance_of_views grownB foundA foundB,
            grownB.editDistance_of_views grownA foundB foundA, Tree.Layout.distance_comm]
  | isomorphism =>
      match a, b with
      | none, none => rfl
      | none, some _ => rfl
      | some _, none => rfl
      | some a, some b =>
          show (if a = b then 0 else 1, none) = (if b = a then 0 else 1, none)
          simp only [eq_comm]

/-- Only the comparison of sequences depends on their lengths. -/
theorem compare_self {comparator : Comparator} {a : Artefact comparator}
    (taken : IsTaken comparator a) (present : isPresent comparator a = true)
    (short : comparator ∈ [Comparator.byteEdit, .tokenEdit, .moss] →
      itemCount comparator a < saturated) : compare comparator a a = (0, none) := by
  cases comparator with
  | byteEdit => exact EditDistance.limited_self (short (by decide))
  | moss => exact EditDistance.limited_self (short (by decide))
  | tokenEdit =>
      obtain ⟨a, rfl⟩ := Option.isSome_iff_exists.mp present
      exact EditDistance.limited_self (short (by decide))
  | treeEdit =>
      obtain ⟨view, rfl⟩ := Option.isSome_iff_exists.mp present
      obtain ⟨table, grown, found⟩ := exists_grown_of_isTaken taken
      rw [Tree.Table.Grown.compare_views, grown.editDistance_of_views grown found found,
        Tree.Layout.distance_self]
  | isomorphism =>
      obtain ⟨a, rfl⟩ := Option.isSome_iff_exists.mp present
      show (if a = a then 0 else 1, none) = (0, none)
      rw [if_pos rfl]

theorem isPresent_of_notMem {comparator : Comparator} (a : Artefact comparator)
    (plain : comparator ∉ [Comparator.tokenEdit, .treeEdit, .isomorphism]) :
    isPresent comparator a = true := by
  cases comparator <;> first | rfl | exact absurd (by decide) plain

theorem exists_score {n : Nat} (bound : n ≤ incomparable) :
    ∃ score : Score, Score.ofInt? n = some score ∧ score.toInt = n := by
  rw [incomparable] at bound
  refine ⟨Int32.ofInt n, ?_, Int32.toInt_ofInt_of_le (by omega) (by omega)⟩
  rw [Score.ofInt?, if_neg (by omega)]

/-- The laws of the comparators: the order of the artefacts does not matter, every comparison has a
score, which is the largest one just for a pair with a missing artefact, and an artefact differs in
nothing from itself. -/
theorem compare_laws (comparator : Comparator) :
    (∀ a b : Artefact comparator, IsTaken comparator a → IsTaken comparator b →
      TreesFit comparator a b →
        compare comparator a b = compare comparator b a ∧
        (compare comparator a b).1 ≤ incomparable ∧
        (∃ score : Score, Score.ofInt? (compare comparator a b).1 = some score ∧
          score.toInt = (compare comparator a b).1) ∧
        ((compare comparator a b).1 = incomparable ↔
          comparator ∈ [Comparator.tokenEdit, .treeEdit, .isomorphism] ∧
            (isPresent comparator a = false ∨ isPresent comparator b = false))) ∧
    ∀ a : Artefact comparator, IsTaken comparator a → isPresent comparator a = true →
      itemCount comparator a < saturated → (compare comparator a a).1 = 0 := by
  refine ⟨fun a b takenA takenB fit => ?_, fun a taken present short => ?_⟩
  · have bound : (compare comparator a b).1 ≤ incomparable := by
      by_cases both : isPresent comparator a = true ∧ isPresent comparator b = true
      · exact (compare_lt_incomparable takenA takenB both.1 both.2 fit).le
      · rw [compare_missing both]
    refine ⟨compare_comm takenA takenB, bound, exists_score bound, ?_, ?_⟩
    · intro largest
      have missing : ¬ (isPresent comparator a = true ∧ isPresent comparator b = true) :=
        fun both => (compare_lt_incomparable takenA takenB both.1 both.2 fit).ne largest
      refine ⟨by_contra fun plain => missing ⟨isPresent_of_notMem a plain,
        isPresent_of_notMem b plain⟩, ?_⟩
      rw [not_and_or, Bool.not_eq_true, Bool.not_eq_true] at missing
      exact missing
    · rintro ⟨-, missing⟩
      rw [compare_missing]
      rw [not_and_or, Bool.not_eq_true, Bool.not_eq_true]
      exact missing
  · rw [compare_self taken present fun _ => short]

def twoTrees : Sources where
  files := {
    root := .directory [("a.java", .file [97]), ("b.java", .file [98])], workingDirectory := [] }
  parser _ source :=
    let leaf : Tree SyntaxNode := .node ⟨"x", 1, 0, 1, (0, 0), false, false, false⟩ []
    .tree (.node ⟨"f", 2, 0, 1, (0, 0), false, false, false⟩
      (if source = "a" then [leaf] else [leaf, leaf]))

def treesOnly : Config where
  threads := 1
  enabled := [.treeEdit]
  normalizer := .variables
  k := 1
  w := 1
  unreadableShare := .whole 0

theorem compare_laws_of_twoTrees :
    let first : Artefact .treeEdit :=
      (some ⟨#["x", "f"], #[0, 0], [1]⟩ : Option (Tree.PostOrder String))
    let second : Artefact .treeEdit :=
      (some ⟨#["x", "x", "f"], #[0, 1, 0], [1, 2]⟩ : Option (Tree.PostOrder String))
    IsTaken .treeEdit first ∧ IsTaken .treeEdit second ∧ TreesFit .treeEdit first second ∧
      compare .treeEdit first second = (1, none) ∧ compare .treeEdit second first = (1, none) ∧
      (compare .treeEdit first second).1 ≠ incomparable ∧ (compare .treeEdit first first).1 = 0 := by
  intro first second
  -- the artefacts are read off as plain values, which can be evaluated
  have takenOf : ∀ (path : String) {view : Tree.PostOrder String},
      (match (take .empty twoTrees treesOnly path .treeEdit).value with
        | .ok (artefact : Option (Tree.PostOrder String)) => artefact
        | .error _ => none) = some view →
      IsTaken .treeEdit (some view : Option (Tree.PostOrder String)) := by
    intro path view computed
    refine ⟨.empty, twoTrees, treesOnly, path, .empty, ?_⟩
    split at computed
    · rename_i artefact value
      rw [value, computed]
    · cases computed
  have takenFirst : IsTaken .treeEdit first := takenOf "a.java" (by decide +kernel)
  have takenSecond : IsTaken .treeEdit second := takenOf "b.java" (by decide +kernel)
  have fit : TreesFit .treeEdit first second := by
    intro viewA memberA viewB memberB
    obtain rfl := Option.some.inj memberA
    obtain rfl := Option.some.inj memberB
    decide
  have one : compare .treeEdit first second = (1, none) := by decide +kernel
  obtain ⟨laws, self⟩ := compare_laws .treeEdit
  obtain ⟨comm, -, -, largest⟩ := laws first second takenFirst takenSecond fit
  refine ⟨takenFirst, takenSecond, fit, one, comm ▸ one, fun equal => ?_,
    self first takenFirst rfl (by decide)⟩
  rcases (largest.mp equal).2 with missing | missing <;> cases missing

end Artefact

end SourceSimilarity
