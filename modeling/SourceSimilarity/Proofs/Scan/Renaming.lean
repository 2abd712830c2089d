import SourceSimilarity.Proofs.Fingerprint.Text
import SourceSimilarity.Proofs.Scan.Comparison
import SourceSimilarity.Proofs.Source.Outline
import SourceSimilarity.Proofs.Text.Utf16

namespace SourceSimilarity

namespace ParsedSource

def preparedText (language : Language) (content : Bytes) : List Char :=
  parserText language (Text.decodeReplacing content)

def preparedBytes (language : Language) (content : Bytes) : Array UInt8 :=
  (Text.encode (preparedText language content)).toArray

def ofRoot (language : Language) (content : Bytes) (root : Tree SyntaxNode) : ParsedSource :=
  let converted := convert language (preparedBytes language content) .empty [⟨root, none⟩]
  { language, text := String.ofList (preparedText language content)
    tree := converted.1, tokens := converted.2 }

/-- Parsed forms with equal trees, tokens of equal kinds and equal normal texts. -/
structure Alike (source other : ParsedSource) : Prop where
  tree : source.tree = other.tree
  tokenKinds : source.tokenKinds = other.tokenKinds
  normalizedText : source.normalizedText = other.normalizedText

variable {language : Language} {content content' : Bytes} {root root' : Tree SyntaxNode}

theorem alike_of_outline_eq (plain : root.label.isExtra = false)
    (plain' : root'.label.isExtra = false)
    (same : outline language (preparedBytes language content) root =
      outline language (preparedBytes language content') root') :
    (ofRoot language content root).Alike (ofRoot language content' root') := by
  have cores := core_eq_of_outline_eq (Bool.eq_false_iff.mp plain) (Bool.eq_false_iff.mp plain') same
  have waiting : Pending.cores language (preparedBytes language content) [⟨root, none⟩] =
      Pending.cores language (preparedBytes language content') [⟨root', none⟩] := by
    rw [Pending.cores_cons, Pending.cores_cons]
    dsimp only [Option.map_none]
    rw [cores]
    rfl
  obtain ⟨trees, tokens⟩ := convert_congr waiting .empty
  refine ⟨trees, ?_, ?_⟩
  · rw [tokenKinds_eq, tokenKinds_eq]
    exact congrArg (List.map Prod.fst) tokens
  · rw [normalizedText_eq, normalizedText_eq]
    exact congrArg (List.flatMap fun token => token.2.getD sentinel) tokens

end ParsedSource

open ParsedSource (ofRoot outline preparedBytes preparedText)

structure Sources.Parses (sources : Sources) (path : String) (language : Language) (content : Bytes)
    (root : Tree SyntaxNode) : Prop where
  named : Language.ofPath? path = some language
  readable : sources.files.read path = .ok content
  answered : sources.parser language (String.ofList (preparedText language content)) = .tree root
  clean : root.label.hasError = false
  plain : root.label.isExtra = false

namespace Sources.Parses

variable {sources : Sources} {path : String} {language : Language} {content : Bytes}
  {root : Tree SyntaxNode}

theorem content_eq (parses : sources.Parses path language content root) :
    sources.content path = .ok (some content) := by
  rw [Sources.content, parses.readable, Plain.content]

theorem parsed (parses : sources.Parses path language content root) :
    Plain.parsed sources.parser path (sources.content path) =
      .ok (some (ofRoot language content root)) := by
  have outcome : ParsedSource.parseContent sources.parser path language content =
      .ok (ofRoot language content root) :=
    ParsedSource.parsePrepared_eq_ok_iff.mpr ⟨root, parses.answered, parses.clean, rfl⟩
  rw [parses.content_eq]
  simp only [Plain.parsed, parses.named, outcome]

theorem normalized (parses : sources.Parses path language content root) :
    Plain.normalized sources.parser .variables path (sources.content path) =
      .ok (Text.encode (ofRoot language content root).normalizedText) := by
  have parsed := parses.parsed
  rw [parses.content_eq] at parsed ⊢
  simp only [Plain.normalized, parsed]
  rfl

theorem grown (parses : sources.Parses path language content root) :
    (ofRoot language content root).tree.Grown :=
  ParsedSource.convert_root (Bool.eq_false_iff.mp parses.plain)

end Sources.Parses

namespace Artefact

variable {sources : Sources} {config : Config} {language : Language} {first second : String}
  {firstContent secondContent : Bytes} {firstRoot secondRoot : Tree SyntaxNode}

def ofSource (k w : Nat) (source : ParsedSource) :
    (comparator : Comparator) → Except UnitError (Artefact comparator)
  | .byteEdit => .ok (Text.encode source.normalizedText)
  | .moss =>
    .ok (Fingerprint.ofText k w
      ((Text.decodeReplacing (Text.encode source.normalizedText)).map .char))
  | .tokenEdit => .ok (some source.tokenKinds : Option (List Int))
  | .treeEdit => treeOf (some source)
  | .isomorphism => .ok (some source.tree.shapeName : Option (List Char))

theorem artefact_eq_ofSource {path : String} {content : Bytes} {root : Tree SyntaxNode}
    (parses : sources.Parses path language content root) (k w : Nat) (comparator : Comparator) :
    Plain.artefact sources.parser .variables k w path (sources.content path) comparator =
      ofSource k w (ofRoot language content root) comparator := by
  cases comparator with
  | byteEdit => rw [Plain.artefact, parses.normalized]; rfl
  | tokenEdit => rw [Plain.artefact, parses.parsed]; rfl
  | moss => rw [Plain.artefact, parses.normalized]; rfl
  | treeEdit => rw [Plain.artefact, parses.parsed]; rfl
  | isomorphism => rw [Plain.artefact, parses.parsed]; rfl

theorem treeOf_eq_of_alike {source other : ParsedSource} (alike : source.Alike other) :
    treeOf (some source) = treeOf (some other) := by
  simp only [treeOf, alike.tree]

theorem ofSource_eq_of_alike {source other : ParsedSource} (alike : source.Alike other) (k w : Nat)
    (comparator : Comparator) : ofSource k w source comparator = ofSource k w other comparator := by
  cases comparator with
  | byteEdit => rw [ofSource, ofSource, alike.normalizedText]
  | tokenEdit => rw [ofSource, ofSource, alike.tokenKinds]
  | moss => rw [ofSource, ofSource, alike.normalizedText]
  | treeEdit => exact treeOf_eq_of_alike alike
  | isomorphism => rw [ofSource, ofSource, alike.tree]

theorem exists_ofSource {k : Nat} (positive : 1 ≤ k) (w : Nat) {source : ParsedSource}
    (grown : source.tree.Grown) (fewTokens : source.tokens.length < saturated)
    (shortText : (Text.encode source.normalizedText).length < saturated) (comparator : Comparator) :
    ∃ artefact, ofSource k w source comparator = .ok artefact ∧
      isPresent comparator artefact = true ∧
      (comparator ∈ [Comparator.byteEdit, .tokenEdit, .moss] →
        itemCount comparator artefact < saturated) := by
  cases comparator with
  | byteEdit => exact ⟨_, rfl, rfl, fun _ => shortText⟩
  | tokenEdit =>
      refine ⟨_, rfl, rfl, fun _ => ?_⟩
      show source.tokenKinds.length < saturated
      rw [ParsedSource.tokenKinds, List.length_map]
      exact fewTokens
  | moss =>
      refine ⟨_, rfl, rfl, fun _ => ?_⟩
      show (Fingerprint.ofText k w
        ((Text.decodeReplacing (Text.encode source.normalizedText)).map .char)).length < saturated
      have hashes := Fingerprint.length_ofText_le positive w
        ((Text.decodeReplacing (Text.encode source.normalizedText)).map .char)
      have units := Text.length_units16_decodeReplacing_le (Text.encode source.normalizedText)
      rw [Fingerprint.unitsOf, List.length_map] at hashes
      have one : 1 < saturated := by decide
      omega
  | treeEdit =>
      obtain ⟨tree, found, -⟩ := grown.exists_view
      have taken : treeOf (some source) = .ok (some (.ofTree tree)) := by simp only [treeOf, found]
      exact ⟨_, taken, rfl, fun sequence => absurd sequence (by decide)⟩
  | isomorphism => exact ⟨_, rfl, rfl, fun sequence => absurd sequence (by decide)⟩

/-- Files whose syntax trees have the same outline have the same artefacts. -/
theorem renaming_invisible (normalizer : config.normalizer = .variables) (positive : 1 ≤ config.k)
    (parsesFirst : sources.Parses first language firstContent firstRoot)
    (parsesSecond : sources.Parses second language secondContent secondRoot)
    (same : outline language (preparedBytes language firstContent) firstRoot =
      outline language (preparedBytes language secondContent) secondRoot)
    (fewTokens : (ofRoot language firstContent firstRoot).tokens.length < saturated)
    (shortText : (Text.encode (ofRoot language firstContent firstRoot).normalizedText).length <
      saturated)
    (comparator : Comparator) {cache cache' : Cache} (snapshot : cache.Snapshot sources)
    (snapshot' : cache'.Snapshot sources) :
    ∃ artefact, (take cache sources config first comparator).value = .ok artefact ∧
      (take cache' sources config second comparator).value = .ok artefact ∧
      compare comparator artefact artefact = (0, none) := by
  obtain ⟨artefact, found, present, short⟩ :=
    exists_ofSource positive config.w parsesFirst.grown fewTokens shortText comparator
  have alike := ParsedSource.alike_of_outline_eq parsesFirst.plain parsesSecond.plain same
  have value : ∀ {cache : Cache}, cache.Snapshot sources →
      (take cache sources config first comparator).value = .ok artefact := by
    intro cache snapshot
    rw [(snapshot.take config first comparator).value_eq, normalizer,
      artefact_eq_ofSource parsesFirst, found]
  refine ⟨artefact, value snapshot, ?_, ?_⟩
  · rw [(snapshot'.take config second comparator).value_eq, normalizer,
      artefact_eq_ofSource parsesSecond, ← ofSource_eq_of_alike alike, found]
  · exact compare_self ⟨.empty, sources, config, first, .empty, value (.empty sources)⟩ present short

def renamedRoot (source : String) : Tree SyntaxNode :=
  let name : Tree SyntaxNode := .node ⟨"identifier", 1, 0, 1, (0, 0), false, false, false⟩ []
  let number (start : Nat) : Tree SyntaxNode :=
    .node ⟨"decimal_integer_literal", 2, start, start + 1, (0, start), false, false, false⟩ []
  let comment : Tree SyntaxNode := .node ⟨"block_comment", 3, 1, 5, (0, 1), true, false, false⟩ []
  .node ⟨"program", 0, 0, source.length, (0, 0), false, false, false⟩
    (if source = "x1" then [name, number 1] else [name, comment, number 5])

def renamedFiles : Sources where
  files := {
    root := .directory [
      ("a.java", .file [120, 49]), ("b.java", .file [121, 47, 42, 42, 47, 49])]
    workingDirectory := [] }
  parser _ source := .tree (renamedRoot source)

theorem renaming_invisible_of_renamedFiles :
    renamedFiles.Parses "a.java" .java [120, 49] (renamedRoot "x1") ∧
      renamedFiles.Parses "b.java" .java [121, 47, 42, 42, 47, 49] (renamedRoot "y/**/1") ∧
      ∃ bytes : Bytes,
        (take .empty renamedFiles treesOnly "a.java" .byteEdit).value = .ok bytes ∧
        (take .empty renamedFiles treesOnly "b.java" .byteEdit).value = .ok bytes ∧
        compare .byteEdit bytes bytes = (0, none) := by
  have prepared : String.ofList (preparedText .java [120, 49]) = "x1" := by decide +kernel
  have prepared' : String.ofList (preparedText .java [121, 47, 42, 42, 47, 49]) = "y/**/1" := by
    decide +kernel
  have first : renamedFiles.Parses "a.java" .java [120, 49] (renamedRoot "x1") :=
    ⟨by decide +kernel, rfl, by rw [prepared]; rfl, rfl, rfl⟩
  have second :
      renamedFiles.Parses "b.java" .java [121, 47, 42, 42, 47, 49] (renamedRoot "y/**/1") :=
    ⟨by decide +kernel, rfl, by rw [prepared']; rfl, rfl, rfl⟩
  exact ⟨first, second, renaming_invisible rfl (by decide) first second (by decide +kernel)
    (by decide +kernel) (by decide +kernel) .byteEdit (.empty _) (.empty _)⟩

end Artefact

end SourceSimilarity
