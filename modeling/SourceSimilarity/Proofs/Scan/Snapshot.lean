import SourceSimilarity.Scan.Artefact

namespace SourceSimilarity

namespace Plain

def content : Except OpenError Bytes → Except Breakdown (Option Bytes)
  | .ok bytes => .ok (some bytes)
  | .error (.unfit fault) => .error (.unfitPath fault)
  | .error (.refused _) => .ok none

def parsed (parser : Parser) (path : String) :
    Except Breakdown (Option Bytes) → Except Breakdown (Option ParsedSource)
  | .error breakdown => .error breakdown
  | .ok none => .ok none
  | .ok (some bytes) =>
    match Language.ofPath? path with
    | none => .ok none
    | some language =>
      match ParsedSource.parseContent parser path language bytes with
      | .ok source => .ok (some source)
      | .error (.refused _) => .ok none
      | .error (.broken breakdown) => .error breakdown

def normalized (parser : Parser) (normalizer : Normalizer) (path : String) :
    Except Breakdown (Option Bytes) → Except Breakdown Bytes
  | .error breakdown => .error breakdown
  | .ok none => .ok []
  | .ok (some bytes) =>
    match normalizer with
    | .variables => (parsed parser path (.ok (some bytes))).map fun parsed => match parsed with
      | some parsed => Text.encode parsed.normalizedText
      | none => Normalizer.whitespaceOnly.applyToBytes bytes
    | other => .ok (other.applyToBytes bytes)

def after {α β : Type} (value : Except Breakdown α) (f : α → Except UnitError β) :
    Except UnitError β :=
  match value with
  | .ok value => f value
  | .error breakdown => .error (.broken breakdown)

def artefact (parser : Parser) (normalizer : Normalizer) (k w : Nat) (path : String)
    (content : Except Breakdown (Option Bytes)) :
    (comparator : Comparator) → Except UnitError (Artefact comparator)
  | .byteEdit =>
    after (normalized parser normalizer path content) fun (bytes : Bytes) => Except.ok bytes
  | .moss => after (normalized parser normalizer path content) fun (bytes : Bytes) =>
      Except.ok (Fingerprint.ofText k w ((Text.decodeReplacing bytes).map .char))
  | .tokenEdit => after (parsed parser path content) fun (source : Option ParsedSource) =>
      Except.ok (source.map ParsedSource.tokenKinds)
  | .treeEdit => after (parsed parser path content) Artefact.treeOf
  | .isomorphism => after (parsed parser path content) fun (source : Option ParsedSource) =>
      Except.ok (source.map fun source => source.tree.shapeName)

end Plain

def Sources.content (sources : Sources) (path : String) : Except Breakdown (Option Bytes) :=
  Plain.content (sources.files.read path)

namespace Cache

/-- That a cache holds the plain values of the files that it knows. -/
structure Snapshot (cache : Cache) (sources : Sources) : Prop where
  contents : ∀ path content, cache.contents.lookup path = some content →
    sources.content path = .ok content
  parsed : ∀ path source, cache.parsed.lookup path = some source →
    Plain.parsed sources.parser path (sources.content path) = .ok source

namespace Snapshot

variable {cache : Cache} {sources : Sources}

theorem empty (sources : Sources) : Cache.empty.Snapshot sources where
  contents _ _ found := by cases found
  parsed _ _ found := by cases found

theorem lookup_cons {α : Type} {entries : List (String × α)} {path other : String} {value found : α}
    (here : ((path, value) :: entries).lookup other = some found) :
    (other = path ∧ found = value) ∨ entries.lookup other = some found := by
  rw [List.lookup_cons] at here
  by_cases same : other = path
  · rw [beq_iff_eq.mpr same] at here
    exact .inl ⟨same, (Option.some.inj here).symm⟩
  · rw [beq_eq_false_iff_ne.mpr same] at here
    exact .inr here

theorem keepContent (snapshot : cache.Snapshot sources) {path : String} {content : Option Bytes}
    (plain : sources.content path = .ok content) (unreadable : List (String × String)) :
    ({ cache with contents := (path, content) :: cache.contents, unreadable } : Cache).Snapshot
      sources where
  contents other found here := by
    rcases lookup_cons here with ⟨rfl, rfl⟩ | known
    · exact plain
    · exact snapshot.contents other found known
  parsed := snapshot.parsed

theorem keepParsed (snapshot : cache.Snapshot sources) {path : String}
    {source : Option ParsedSource}
    (plain : Plain.parsed sources.parser path (sources.content path) = .ok source) :
    (cache.keepParsed path source).Snapshot sources where
  contents := snapshot.contents
  parsed other found here := by
    rcases lookup_cons here with ⟨rfl, rfl⟩ | known
    · exact plain
    · exact snapshot.parsed other found known

theorem keepUnparsed (snapshot : cache.Snapshot sources) (path reason : String) :
    (cache.keepUnparsed path reason).Snapshot sources :=
  ⟨snapshot.contents, snapshot.parsed⟩

end Snapshot

end Cache

/-- That an access gives a value and leaves a snapshot. -/
structure Access.Gives {α : Type} (access : Access α) (sources : Sources) (value : α) : Prop where
  value_eq : access.value = value
  snapshot : access.cache.Snapshot sources

namespace Cache.Snapshot

variable {cache : Cache} {sources : Sources}

theorem read (snapshot : cache.Snapshot sources) (path : String) :
    (cache.read sources path).Gives sources (sources.content path) := by
  unfold Cache.read
  cases known : cache.contents.lookup path with
  | some content => exact ⟨(snapshot.contents path content known).symm, snapshot⟩
  | none =>
      cases reply : sources.files.read path with
      | ok bytes =>
          have plain : sources.content path = .ok (some bytes) := by
            rw [Sources.content, reply, Plain.content]
          exact ⟨plain.symm, snapshot.keepContent plain _⟩
      | error e =>
          cases e with
          | unfit fault =>
              refine ⟨?_, snapshot⟩
              rw [Sources.content, reply, Plain.content]
          | refused e =>
              have plain : sources.content path = .ok none := by
                rw [Sources.content, reply, Plain.content]
              exact ⟨plain.symm, snapshot.keepContent plain _⟩

theorem parse (snapshot : cache.Snapshot sources) (path : String) :
    (cache.parse sources path).Gives sources
      (Plain.parsed sources.parser path (sources.content path)) := by
  unfold Cache.parse
  cases known : cache.parsed.lookup path with
  | some source => exact ⟨(snapshot.parsed path source known).symm, snapshot⟩
  | none =>
      have access := snapshot.read path
      have plain := access.value_eq
      dsimp only
      split
      · rename_i breakdown content
        refine ⟨?_, access.snapshot⟩
        rw [← plain, content, Plain.parsed]
      · rename_i bytes content language
        have nothing : Plain.parsed sources.parser path (sources.content path) = .ok none := by
          rw [← plain, content]
          cases bytes with
          | none => rfl
          | some bytes => simp only [Plain.parsed, language]
        exact ⟨nothing.symm, (access.snapshot.keepUnparsed path _).keepParsed nothing⟩
      · rename_i content language
        have nothing : Plain.parsed sources.parser path (sources.content path) = .ok none := by
          rw [← plain, content, Plain.parsed]
        exact ⟨nothing.symm, access.snapshot.keepParsed nothing⟩
      · rename_i bytes name content language
        split
        · rename_i source outcome
          have parsed : Plain.parsed sources.parser path (sources.content path) =
              .ok (some source) := by
            simp only [← plain, content, Plain.parsed, language, outcome]
          exact ⟨parsed.symm, access.snapshot.keepParsed parsed⟩
        · rename_i e outcome
          have nothing : Plain.parsed sources.parser path (sources.content path) = .ok none := by
            simp only [← plain, content, Plain.parsed, language, outcome]
          exact ⟨nothing.symm, (access.snapshot.keepUnparsed path _).keepParsed nothing⟩
        · rename_i breakdown outcome
          refine ⟨?_, access.snapshot⟩
          simp only [← plain, content, Plain.parsed, language, outcome]

theorem normalized (snapshot : cache.Snapshot sources) (normalizer : Normalizer) (path : String) :
    (cache.normalized sources normalizer path).Gives sources
      (Plain.normalized sources.parser normalizer path (sources.content path)) := by
  have access := snapshot.read path
  have source := access.snapshot.parse path
  rw [← access.value_eq] at source ⊢
  unfold Cache.normalized
  generalize cache.read sources path = fetched at *
  obtain ⟨value, held, lines⟩ := fetched
  cases value with
  | error breakdown => exact ⟨rfl, access.snapshot⟩
  | ok content =>
      cases content with
      | none => exact ⟨rfl, access.snapshot⟩
      | some bytes =>
          match normalizer with
          | .unchanged => exact ⟨rfl, access.snapshot⟩
          | .whitespaceOnly => exact ⟨rfl, access.snapshot⟩
          | .variables =>
              refine ⟨?_, source.snapshot⟩
              dsimp only at source ⊢
              rw [source.value_eq]
              rfl

theorem afterAccess {α β : Type} {access : Access (Except Breakdown α)} {value : Except Breakdown α}
    (gives : access.Gives sources value) (f : α → Except UnitError β) :
    (Artefact.afterAccess access f).Gives sources (Plain.after value f) := by
  refine ⟨?_, gives.snapshot⟩
  rw [← gives.value_eq]
  rfl

theorem take (snapshot : cache.Snapshot sources) (config : Config) (path : String)
    (comparator : Comparator) :
    (Artefact.take cache sources config path comparator).Gives sources
      (Plain.artefact sources.parser config.normalizer config.k config.w path
        (sources.content path) comparator) := by
  cases comparator with
  | byteEdit => exact afterAccess (snapshot.normalized config.normalizer path) _
  | tokenEdit => exact afterAccess (snapshot.parse path) _
  | moss => exact afterAccess (snapshot.normalized config.normalizer path) _
  | treeEdit => exact afterAccess (snapshot.parse path) _
  | isomorphism => exact afterAccess (snapshot.parse path) _

end Cache.Snapshot

end SourceSimilarity
