import SourceSimilarity.Proofs.Inputs
import SourceSimilarity.Proofs.Scan.Session

/-!
Between two clears a cache is a snapshot, whatever happens to the files and to the parser meanwhile:
it gives what was seen, and what it tells and logs about a file follows from that.
-/

namespace SourceSimilarity

namespace Cache

/-! ## What a cache holds -/

structure Describes (cache : Cache) (calls : List Call) : Prop where
  contents : ∀ path, cache.contents.lookup path = contentKnown calls path
  parsed : ∀ path, cache.parsed.lookup path = (verdictSeen calls path).map Verdict.source?
  unreadable : ∀ path, path ∈ cache.unreadable.map (·.1) ↔ contentKnown calls path = some none
  unparsed : ∀ path reason, (path, reason) ∈ cache.unparsed ↔
    (verdictSeen calls path).bind Verdict.reason? = some reason
  once : (cache.unparsed.map (·.1)).Nodup

theorem describes_empty : empty.Describes [] where
  contents _ := rfl
  parsed _ := rfl
  unreadable _ := by simp [empty, contentKnown, contentSeen, replySeen]
  unparsed _ _ := by simp [empty, verdictSeen, contentKnown, contentSeen, replySeen]
  once := List.nodup_nil

theorem Describes.congr {cache : Cache} {calls others : List Call}
    (describes : cache.Describes calls)
    (contents : ∀ path, contentKnown others path = contentKnown calls path)
    (verdicts : ∀ path, verdictSeen others path = verdictSeen calls path) :
    cache.Describes others where
  contents path := by rw [describes.contents, contents]
  parsed path := by rw [describes.parsed, verdicts]
  unreadable path := by rw [describes.unreadable, contents]
  unparsed path reason := by rw [describes.unparsed, verdicts]
  once := describes.once

structure Follows (calls : List Call) (call : Call) (cache : Cache) (lines : List LogLine) :
    Prop where
  describes : cache.Describes (calls ++ [call])
  warnings : ∀ path, warningsSeen (calls ++ [call]) path = warningsSeen calls path ++
    if call.request.path? = some path then lines.filter (·.level = .warning) else []

theorem Follows.of_path {calls : List Call} {call : Call} {cache : Cache} {lines : List LogLine}
    {path : String} (accesses : call.request.path? = some path)
    (describes : cache.Describes (calls ++ [call]))
    (warnings : warningsSeen (calls ++ [call]) path =
      warningsSeen calls path ++ lines.filter (·.level = .warning)) :
    Follows calls call cache lines := by
  refine ⟨describes, fun other => ?_⟩
  by_cases here : other = path
  · rw [here, if_pos accesses, warnings]
  · have elsewhere := path?_ne accesses here
    rw [if_neg elsewhere, List.append_nil, warningsSeen, replySeen_concat_other elsewhere,
      verdictSeen_concat_other elsewhere, warningsSeen]

theorem Follows.warnings_path {calls : List Call} {call : Call} {cache : Cache}
    {lines : List LogLine} {path : String} (follows : Follows calls call cache lines)
    (accesses : call.request.path? = some path) :
    warningsSeen (calls ++ [call]) path =
      warningsSeen calls path ++ lines.filter (·.level = .warning) := by
  rw [follows.warnings, if_pos accesses]

/-! ## Reading -/

theorem read_of_unfit {files : FileTree} {path : String} {fault : Path.Fault}
    (unfit : files.read path = .error (.unfit fault)) (others : FileTree) :
    others.read path = .error (.unfit fault) := by
  rw [FileTree.read] at unfit ⊢
  cases fits : Path.fault? path.toList with
  | some found =>
      rw [fits] at unfit
      exact unfit
  | none =>
      rw [fits] at unfit
      dsimp only at unfit
      cases content : files.content path with
      | ok bytes =>
          rw [content] at unfit
          cases unfit
      | error e =>
          rw [content] at unfit
          cases unfit

namespace Describes

variable {cache : Cache} {calls : List Call}

theorem read_of_seen (describes : cache.Describes calls) {path : String}
    {reply : Except OpenError Bytes} (seen : replySeen calls path = some reply)
    (sources : Sources) :
    cache.read sources path = { value := Plain.content reply, cache } := by
  have held := describes.contents path
  rw [contentKnown, contentSeen, seen] at held
  unfold Cache.read
  rw [held]
  cases reply with
  | ok bytes => rfl
  | error e =>
      cases e with
      | refused e => rfl
      | unfit fault =>
          -- nothing is kept of an unfit path, but it is as unfit for any other files
          obtain ⟨first, -, reply⟩ := Option.map_eq_some_iff.mp seen
          simp only [Option.map_some, Plain.content, Option.bind_some, Except.toOption,
            read_of_unfit reply sources.files]

theorem keepContent (describes : cache.Describes calls) {call : Call} {path : String}
    {content : Option Bytes} {unreadable : List (String × String)}
    (accesses : call.request.path? = some path)
    (unknown : contentKnown calls path = none)
    (known : contentKnown (calls ++ [call]) path = some content)
    (verdicts : ∀ path, verdictSeen (calls ++ [call]) path = verdictSeen calls path)
    (refused : ∀ other, other ∈ unreadable.map (·.1) ↔
      other = path ∧ content = none ∨ other ∈ cache.unreadable.map (·.1)) :
    ({ cache with contents := (path, content) :: cache.contents, unreadable } : Cache).Describes
      (calls ++ [call]) where
  contents other := by
    by_cases same : other = path
    · rw [same, known, List.lookup_cons_self]
    · rw [contentKnown_concat_other (path?_ne accesses same), List.lookup_cons,
        beq_eq_false_iff_ne.mpr same]
      exact describes.contents other
  parsed other := by rw [verdicts, describes.parsed]
  unreadable other := by
    rw [refused, describes.unreadable]
    by_cases same : other = path
    · simp [same, known, unknown]
    · simp [same, contentKnown_concat_other (path?_ne accesses same)]
  unparsed other reason := by rw [verdicts, describes.unparsed]
  once := describes.once

theorem read (describes : cache.Describes calls) (sources : Sources) (path : String) :
    Follows calls ⟨sources, .read path⟩ (cache.read sources path).cache
        (cache.read sources path).lines ∧
      contentSeen (calls ++ [⟨sources, .read path⟩]) path =
        some (cache.read sources path).value := by
  have verdicts := verdictSeen_read calls sources path
  have reply : replySeen (calls ++ [⟨sources, .read path⟩]) path =
      some ((replySeen calls path).getD (sources.files.read path)) := replySeen_concat_self rfl
  have elsewhere : ∀ other, other ≠ path →
      contentKnown (calls ++ [⟨sources, .read path⟩]) other = contentKnown calls other :=
    fun other differ => contentKnown_concat_other (path?_ne rfl differ)
  cases first : replySeen calls path with
  | some known =>
      rw [first, Option.getD_some] at reply
      rw [describes.read_of_seen first sources]
      refine ⟨.of_path rfl (describes.congr (fun other => ?_) verdicts) ?_, ?_⟩
      · by_cases here : other = path
        · rw [here, contentKnown_concat_of_seen first]
        · exact elsewhere other here
      · rw [warningsSeen, reply, verdicts, warningsSeen, first]
        exact (List.append_nil _).symm
      · rw [contentSeen, reply]
        rfl
  | none =>
      rw [first, Option.getD_none] at reply
      have unknown := contentKnown_of_unseen first
      have warnings : warningsSeen (calls ++ [⟨sources, .read path⟩]) path =
          warningsSeen calls path ++ (readWarning? path (sources.files.read path)).toList := by
        rw [warningsSeen, warningsSeen, reply, first, verdicts, verdictSeen_of_unseen first]
        exact List.append_nil _
      have seen : contentSeen (calls ++ [⟨sources, .read path⟩]) path =
          some (Plain.content (sources.files.read path)) := by
        rw [contentSeen, reply]
        rfl
      have known : contentKnown (calls ++ [⟨sources, .read path⟩]) path =
          (Plain.content (sources.files.read path)).toOption := by
        rw [contentKnown, seen]
        rfl
      unfold Cache.read
      rw [describes.contents, unknown]
      dsimp only
      cases opened : sources.files.read path with
      | ok bytes =>
          rw [opened] at seen known warnings
          refine ⟨.of_path rfl (describes.keepContent rfl unknown known verdicts ?_) warnings, seen⟩
          simp
      | error e =>
          rw [opened] at seen known warnings
          cases e with
          | refused e =>
              refine ⟨.of_path rfl (describes.keepContent rfl unknown known verdicts ?_) warnings,
                seen⟩
              simp
          | unfit fault =>
              refine ⟨.of_path rfl (describes.congr (fun other => ?_) verdicts) warnings, seen⟩
              by_cases here : other = path
              · rw [here, known, unknown]
                rfl
              · exact elsewhere other here

end Describes

/-! ## Parsing -/

def keepVerdict (cache : Cache) (path : String) (verdict : Verdict) : Cache :=
  (match verdict.reason? with
    | some reason => cache.keepUnparsed path reason
    | none => cache).keepParsed path verdict.source?

theorem parse_broken {cache : Cache} {sources : Sources} {path : String} {breakdown : Breakdown}
    (new : cache.parsed.lookup path = none)
    (broken : (cache.read sources path).value = .error breakdown) :
    cache.parse sources path =
      { cache.read sources path with value := .error breakdown } := by
  unfold parse
  rw [new]
  dsimp only
  rw [broken]

theorem parse_eq_verdict {cache : Cache} {sources : Sources} {path : String}
    {content : Option Bytes} (new : cache.parsed.lookup path = none)
    (read : (cache.read sources path).value = .ok content) :
    (cache.parse sources path).value =
        (Plain.verdict sources.parser path content).map Verdict.source? ∧
      (cache.parse sources path).cache =
        (match Plain.verdict sources.parser path content with
          | .ok verdict => (cache.read sources path).cache.keepVerdict path verdict
          | .error _ => (cache.read sources path).cache) ∧
      (cache.parse sources path).lines.filter (·.level = .warning) =
        (cache.read sources path).lines.filter (·.level = .warning) ++
          ((Plain.verdict sources.parser path content).toOption.bind Verdict.warning?).toList := by
  unfold parse Plain.verdict
  rw [new]
  dsimp only
  rw [read]
  cases content with
  | none =>
      cases Language.ofPath? path with
      | none => exact ⟨rfl, rfl, List.filter_append ..⟩
      | some language => exact ⟨rfl, rfl, (List.append_nil _).symm⟩
  | some bytes =>
      cases Language.ofPath? path with
      | none => exact ⟨rfl, rfl, List.filter_append ..⟩
      | some language =>
          dsimp only
          cases ParsedSource.parseContent sources.parser path language bytes with
          | ok source => exact ⟨rfl, rfl, (List.append_nil _).symm⟩
          | error failure =>
              cases failure with
              | refused error => exact ⟨rfl, rfl, List.filter_append ..⟩
              | broken breakdown => exact ⟨rfl, rfl, (List.append_nil _).symm⟩

structure KeepsVerdict (cache kept : Cache) (path : String) (verdict : Verdict) : Prop where
  contents : kept.contents = cache.contents
  parsed : kept.parsed = (path, verdict.source?) :: cache.parsed
  unreadable : kept.unreadable = cache.unreadable
  unparsed : ∀ other reason, (other, reason) ∈ kept.unparsed ↔
    other = path ∧ verdict.reason? = some reason ∨ (other, reason) ∈ cache.unparsed
  once : (kept.unparsed.map (·.1)).Nodup

theorem keepsVerdict {cache : Cache} {path : String}
    (untold : ∀ reason, (path, reason) ∉ cache.unparsed)
    (once : (cache.unparsed.map (·.1)).Nodup) (verdict : Verdict) :
    cache.KeepsVerdict (cache.keepVerdict path verdict) path verdict := by
  unfold keepVerdict
  cases told : verdict.reason? with
  | none =>
      refine ⟨rfl, rfl, rfl, fun other reason => ?_, once⟩
      simp [told, keepParsed]
  | some reason =>
      refine ⟨rfl, rfl, rfl, fun other otherReason => ?_, ?_⟩
      · simp only [keepParsed, keepUnparsed, List.mem_cons, Prod.mk.injEq, List.mem_filter,
          bne_iff_ne, told, Option.some.injEq]
        refine or_congr (and_congr_right' eq_comm) (and_iff_left_of_imp fun member same => ?_)
        exact untold otherReason (same ▸ member)
      · refine List.nodup_cons.mpr ⟨fun member => ?_, once.sublist (List.filter_sublist.map _)⟩
        obtain ⟨entry, kept, same⟩ := List.mem_map.mp member
        exact absurd same (bne_iff_ne.mp (List.mem_filter.mp kept).2)

namespace Describes

variable {cache : Cache} {calls : List Call}

theorem keepVerdict (describes : cache.Describes calls) {others : List Call} {path : String}
    {verdict : Verdict} (contents : ∀ other, contentKnown others other = contentKnown calls other)
    (new : verdictSeen calls path = none) (given : verdictSeen others path = some verdict)
    (elsewhere : ∀ other, other ≠ path → verdictSeen others other = verdictSeen calls other) :
    (cache.keepVerdict path verdict).Describes others := by
  have untold : ∀ reason, (path, reason) ∉ cache.unparsed := by
    intro reason told
    rw [describes.unparsed, new] at told
    cases told
  have keeps := keepsVerdict untold describes.once verdict
  exact {
    contents := fun other => by rw [keeps.contents, contents, describes.contents]
    parsed := by
      intro other
      rw [keeps.parsed]
      by_cases same : other = path
      · rw [same, given, List.lookup_cons_self, Option.map_some]
      · rw [elsewhere other same, List.lookup_cons, beq_eq_false_iff_ne.mpr same]
        exact describes.parsed other
    unreadable := fun other => by rw [keeps.unreadable, contents, describes.unreadable]
    unparsed := by
      intro other reason
      rw [keeps.unparsed, describes.unparsed]
      by_cases same : other = path
      · simp [same, given, new]
      · simp [same, elsewhere other same]
    once := keeps.once }

theorem parse_of_verdict (describes : cache.Describes calls) {path : String} {verdict : Verdict}
    (stands : verdictSeen calls path = some verdict) (sources : Sources) :
    cache.parse sources path = { value := .ok verdict.source?, cache } := by
  unfold Cache.parse
  rw [describes.parsed, stands]
  rfl

theorem quiet (describes : cache.Describes calls) {call : Call} {path : String}
    {lines : List LogLine} (accesses : call.request.path? = some path)
    (same : verdictSeen (calls ++ [call]) path = verdictSeen calls path)
    (logs : lines.filter (·.level = .warning) =
      (cache.read call.sources path).lines.filter (·.level = .warning)) :
    Follows calls call (cache.read call.sources path).cache lines := by
  obtain ⟨reads, -⟩ := describes.read call.sources path
  have verdicts : ∀ other, verdictSeen (calls ++ [call]) other =
      verdictSeen (calls ++ [⟨call.sources, .read path⟩]) other := by
    intro other
    rw [verdictSeen_read]
    by_cases here : other = path
    · rw [here, same]
    · exact verdictSeen_concat_other (path?_ne accesses here)
  refine .of_path accesses
    (reads.describes.congr (contentKnown_concat_eq_read accesses) verdicts) ?_
  rw [warningsSeen, replySeen_concat_eq_read accesses, verdicts, logs]
  exact reads.warnings_path rfl

theorem judged (describes : cache.Describes calls) {call : Call} {path : String}
    {verdict : Verdict} {lines : List LogLine} (accesses : call.request.path? = some path)
    (new : verdictSeen calls path = none)
    (given : verdictSeen (calls ++ [call]) path = some verdict)
    (logs : lines.filter (·.level = .warning) =
      (cache.read call.sources path).lines.filter (·.level = .warning) ++ verdict.warning?.toList) :
    Follows calls call ((cache.read call.sources path).cache.keepVerdict path verdict) lines := by
  obtain ⟨reads, -⟩ := describes.read call.sources path
  refine .of_path accesses (reads.describes.keepVerdict (contentKnown_concat_eq_read accesses) ?_
    given fun other differ => ?_) ?_
  · rw [verdictSeen_read, new]
  · rw [verdictSeen_read, verdictSeen_concat_other (path?_ne accesses differ)]
  · have read := reads.warnings_path rfl
    rw [warningsSeen, verdictSeen_read, new, Option.bind_none, Option.toList_none,
      List.append_nil] at read
    rw [warningsSeen, replySeen_concat_eq_read accesses, read, given, logs, List.append_assoc,
      Option.bind_some]

theorem parse (describes : cache.Describes calls) (sources : Sources) (path : String) :
    Follows calls ⟨sources, .parse path⟩ (cache.parse sources path).cache
        (cache.parse sources path).lines ∧
      (cache.parse sources path).value.toOption =
        (verdictSeen (calls ++ [⟨sources, .parse path⟩]) path).map Verdict.source? ∧
      ∀ breakdown, (cache.parse sources path).value = .error breakdown →
        (cache.parse sources path).cache = (cache.read sources path).cache := by
  have given := verdictSeen_concat calls ⟨sources, .parse path⟩ path
  cases stands : verdictSeen calls path with
  | some verdict =>
      rw [stands, Option.some_or] at given
      -- where there is a verdict the content was seen, so that reading leaves the cache alone too
      have accessed : ∃ reply, replySeen calls path = some reply := by
        refine Option.ne_none_iff_exists'.mp fun unseen => ?_
        cases stands.symm.trans (verdictSeen_of_unseen unseen)
      obtain ⟨reply, first⟩ := accessed
      have kept := describes.read_of_seen first sources
      have follows : Follows calls ⟨sources, .parse path⟩ (cache.read sources path).cache [] :=
        describes.quiet rfl (given.trans stands.symm) (by rw [kept])
      rw [kept] at follows
      rw [describes.parse_of_verdict stands, given]
      exact ⟨follows, rfl, fun _ broken => by cases broken⟩
  | none =>
      have new : cache.parsed.lookup path = none := by rw [describes.parsed, stands]; rfl
      obtain ⟨-, seen⟩ := describes.read sources path
      rw [stands, Option.none_or, contentKnown_concat_eq_read rfl, contentKnown, seen] at given
      cases fetched : (cache.read sources path).value with
      | error breakdown =>
          rw [fetched] at given
          rw [parse_broken new fetched, given]
          exact ⟨describes.quiet rfl (given.trans stands.symm) rfl, rfl, fun _ _ => rfl⟩
      | ok content =>
          obtain ⟨value, left, logs⟩ := parse_eq_verdict new fetched
          rw [fetched] at given
          replace given := given.trans (if_pos ⟨rfl, rfl⟩)
          rw [value, left]
          dsimp only at given
          cases outcome : Plain.verdict sources.parser path content with
          | error breakdown =>
              rw [outcome] at given logs
              rw [given]
              exact ⟨describes.quiet rfl (given.trans stands.symm) (logs.trans (List.append_nil _)),
                rfl, fun _ _ => rfl⟩
          | ok verdict =>
              rw [outcome] at given logs
              rw [given]
              exact ⟨describes.judged rfl stands given logs, rfl, fun _ broken => by cases broken⟩

theorem toOption_map {ε α β : Type} (f : α → β) (outcome : Except ε α) :
    (outcome.map f).toOption = outcome.toOption.map f := by
  cases outcome <;> rfl

/-- Reading and then parsing shows what one access shows that parses a file as soon as it is
read. -/
theorem readThenParse (describes : cache.Describes calls) (call : Call) {path : String}
    {bytes : Bytes} (accesses : call.request.path? = some path)
    (parses : call.request.parses (some bytes) = true)
    (fetched : (cache.read call.sources path).value = .ok (some bytes)) :
    let first := cache.read call.sources path
    let second := first.cache.parse call.sources path
    Follows calls call second.cache (first.lines ++ second.lines) ∧
      second.value.toOption = (verdictSeen (calls ++ [call]) path).map Verdict.source? := by
  intro first second
  obtain ⟨reads, seen⟩ := describes.read call.sources path
  obtain ⟨parsed, source, -⟩ := reads.describes.parse call.sources path
  -- one access shows the same as the two in a row: the second finds the content of the first
  have replies : ∀ other, replySeen (calls ++ [call]) other =
      replySeen (calls ++ [⟨call.sources, .read path⟩] ++ [⟨call.sources, .parse path⟩]) other := by
    intro other
    rw [replySeen_concat, replySeen_concat, replySeen_concat, accesses, Option.or_assoc]
    exact congrArg _ Option.or_self.symm
  have contents : ∀ other, contentKnown (calls ++ [call]) other = contentKnown
      (calls ++ [⟨call.sources, .read path⟩] ++ [⟨call.sources, .parse path⟩]) other := by
    intro other
    rw [contentKnown, contentSeen, replies, contentKnown, contentSeen]
  have known : contentKnown (calls ++ [call]) path = some (some bytes) := by
    rw [contentKnown_concat_eq_read accesses, contentKnown, seen, fetched]
    rfl
  have verdicts : ∀ other, verdictSeen (calls ++ [call]) other = verdictSeen
      (calls ++ [⟨call.sources, .read path⟩] ++ [⟨call.sources, .parse path⟩]) other := by
    intro other
    by_cases here : other = path
    · have given : call.verdict? path (some bytes) =
          (Plain.verdict call.sources.parser path (some bytes)).toOption :=
        if_pos ⟨accesses, parses⟩
      rw [here, verdictSeen_concat, verdictSeen_concat _ ⟨call.sources, .parse path⟩, ← contents,
        verdictSeen_read, known, Option.bind_some, Option.bind_some, given]
      exact congrArg _ (if_pos ⟨rfl, rfl⟩).symm
    · rw [verdictSeen_concat_other (path?_ne accesses here),
        verdictSeen_concat_other (path?_ne rfl here), verdictSeen_read]
  refine ⟨.of_path accesses (parsed.describes.congr contents verdicts) ?_, ?_⟩
  · rw [warningsSeen, replies, verdicts, List.filter_append, ← List.append_assoc,
      ← reads.warnings_path rfl]
    exact parsed.warnings_path rfl
  · rw [verdicts]
    exact source

theorem normalized (describes : cache.Describes calls) (sources : Sources)
    (normalizer : Normalizer) (path : String) :
    Follows calls ⟨sources, .normalize path normalizer⟩
        (cache.normalized sources normalizer path).cache
        (cache.normalized sources normalizer path).lines ∧
      (cache.normalized sources normalizer path).value.toOption =
        textSeen (calls ++ [⟨sources, .normalize path normalizer⟩]) normalizer path := by
  obtain ⟨-, seen⟩ := describes.read sources path
  have known : contentKnown (calls ++ [⟨sources, .normalize path normalizer⟩]) path =
      (cache.read sources path).value.toOption := by
    rw [contentKnown_concat_eq_read rfl, contentKnown, seen, Option.bind_some]
  have quiet : (∀ content, (cache.read sources path).value.toOption = some content →
      (Request.normalize path normalizer).parses content = false) →
      Follows calls ⟨sources, .normalize path normalizer⟩ (cache.read sources path).cache
        (cache.read sources path).lines :=
    fun unparsed => describes.quiet rfl
      (verdictSeen_concat_of_quiet fun content found => unparsed content (known ▸ found)) rfl
  unfold Cache.normalized textSeen
  rw [known]
  dsimp only
  cases fetched : (cache.read sources path).value with
  | error breakdown =>
      rw [fetched] at quiet
      exact ⟨quiet fun _ found => (by cases found), rfl⟩
  | ok content =>
      rw [fetched] at quiet
      cases content with
      | none =>
          refine ⟨quiet fun content found => ?_, rfl⟩
          obtain rfl := Option.some.inj found
          cases normalizer <;> rfl
      | some bytes =>
          -- only the normalizer that replaces variables parses what was read
          rcases normalizer with _ | _ | _
          · exact ⟨quiet fun _ _ => rfl, rfl⟩
          · exact ⟨quiet fun _ _ => rfl, rfl⟩
          · obtain ⟨follows, source⟩ :=
              describes.readThenParse ⟨sources, .normalize path .variables⟩ rfl rfl fetched
            refine ⟨follows, (toOption_map _ _).trans ?_⟩
            rw [source, Option.map_map]
            rfl

end Describes

/-! ## Sessions as a whole -/

variable {cache : Cache} {calls : List Call} {call : Call}

theorem Describes.serve (describes : cache.Describes calls) (keeps : call.request ≠ .clear) :
    Follows calls call (cache.serve call).1 (cache.serve call).2 := by
  obtain ⟨sources, request⟩ := call
  have idle : request.path? = none → Follows calls ⟨sources, request⟩ cache [] := by
    intro idle
    have elsewhere : ∀ path, request.path? ≠ some path := fun path same => by
      cases idle.symm.trans same
    refine ⟨describes.congr (fun path => contentKnown_concat_other (elsewhere path))
      fun path => verdictSeen_concat_other (elsewhere path), fun path => ?_⟩
    rw [warningsSeen, replySeen_concat_other (elsewhere path),
      verdictSeen_concat_other (elsewhere path), if_neg (elsewhere path), List.append_nil,
      warningsSeen]
  cases request with
  | read path => exact (describes.read sources path).1
  | parse path => exact (describes.parse sources path).1
  | normalize path normalizer => exact (describes.normalized sources normalizer path).1
  | unreadable => exact idle rfl
  | unparsed => exact idle rfl
  | clear => exact absurd rfl keeps

theorem Describes.after (describes : cache.Describes calls) {later : List Call}
    (keeps : ∀ call ∈ later, call.request ≠ .clear) :
    (cache.after later).Describes (calls ++ later) := by
  induction later generalizing cache calls with
  | nil => exact describes.congr (fun _ => by rw [List.append_nil]) fun _ => by rw [List.append_nil]
  | cons call later ih =>
      rw [List.append_cons]
      exact ih (describes.serve (keeps call List.mem_cons_self)).describes
        fun other member => keeps other (List.mem_cons_of_mem call member)

theorem after_describes (calls : List Call) :
    (Cache.empty.after calls).Describes (sinceClear calls) := by
  -- from the end of the session, where a clear drops all that came before
  induction calls using List.reverseRecOn with
  | nil => exact describes_empty
  | append_singleton calls call ih =>
      rw [after_concat]
      by_cases cleared : call.request = .clear
      · rw [sinceClear_of_clear cleared, serve, cleared]
        exact describes_empty
      · rw [sinceClear_concat cleared]
        exact (ih.serve cleared).describes

theorem warningsAbout_transcript (calls : List Call) (path : String) :
    warningsAbout path (Cache.empty.transcript calls) = warningsSeen (sinceClear calls) path := by
  induction calls using List.reverseRecOn with
  | nil => rfl
  | append_singleton calls call ih =>
      rw [transcript_concat]
      by_cases cleared : call.request = .clear
      · rw [sinceClear_of_clear cleared, warningsAbout,
          List.rtakeWhile_concat_neg _ _ _ (by simpa using cleared)]
        rfl
      · rw [sinceClear_concat cleared, warningsAbout_concat cleared, ih,
          ((after_describes calls).serve cleared).warnings]

/-- That a cache is a snapshot of what was seen in some calls, and has warned of it. -/
structure IsSnapshot (cache : Cache) (calls : List Call) (warned : String → List LogLine) :
    Prop where
  /-- A file that is read has the content of its first access. -/
  content : ∀ sources path, contentSeen (calls ++ [⟨sources, .read path⟩]) path =
    some (cache.read sources path).value
  /-- A parse that returns gives the parsed form of the first verdict on that content. -/
  source : ∀ sources path, (cache.parse sources path).value.toOption =
    (verdictSeen (calls ++ [⟨sources, .parse path⟩]) path).map Verdict.source?
  text : ∀ sources normalizer path, (cache.normalized sources normalizer path).value.toOption =
    textSeen (calls ++ [⟨sources, .normalize path normalizer⟩]) normalizer path
  /-- Once there is a verdict, neither the files nor the parser are asked again. -/
  reused : ∀ path verdict, verdictSeen calls path = some verdict →
    ∀ sources, cache.parse sources path = { value := .ok verdict.source?, cache }
  /-- A parse that breaks down leaves what reading leaves. -/
  broken : ∀ sources path breakdown, (cache.parse sources path).value = .error breakdown →
    (cache.parse sources path).cache = (cache.read sources path).cache
  ascending : cache.unreadablePaths.Pairwise Text.Before
  unreadable : ∀ path, path ∈ cache.unreadablePaths ↔ contentSeen calls path = some (.ok none)
  once : (cache.unparsedReasons.map (·.1)).Nodup
  unparsed : ∀ path reason, (path, reason) ∈ cache.unparsedReasons ↔
    (verdictSeen calls path).bind Verdict.reason? = some reason
  warnings : ∀ path, warned path = warningsSeen calls path
  warnedOnce : ∀ path, (warned path).length ≤ 1

/-- Whatever is asked of a cache, in whatever order and with whatever files and parser each time, it
is a snapshot of what was seen since it was cleared. -/
theorem session_isSnapshot (session : List Call) :
    (Cache.empty.after session).IsSnapshot (sinceClear session)
      fun path => warningsAbout path (Cache.empty.transcript session) := by
  have describes := after_describes session
  exact {
    content := fun sources path => (describes.read sources path).2
    source := fun sources path => (describes.parse sources path).2.1
    text := fun sources normalizer path => (describes.normalized sources normalizer path).2
    reused := fun _ _ stands => describes.parse_of_verdict stands
    broken := fun sources path => (describes.parse sources path).2.2
    ascending := pairwise_ascending _
    unreadable := by
      intro path
      rw [unreadablePaths, mem_ascending, describes.unreadable, contentKnown_eq_some_iff]
    once := (((List.mergeSort_perm _ _).map _).nodup_iff).mpr describes.once
    unparsed := by
      intro path reason
      rw [unparsedReasons, List.mem_mergeSort, describes.unparsed]
    warnings := warningsAbout_transcript session
    warnedOnce := by
      intro path
      rw [warningsAbout_transcript]
      exact length_warningsSeen _ path }

def crashing : Sources where
  files := { root := .directory [("a.java", .file [97])], workingDirectory := [] }
  parser _ _ := .crashed "timeout"

def erring : Sources where
  files := { root := .directory [], workingDirectory := [] }
  parser _ _ := .tree (.node ⟨"program", 1, 0, 1, (0, 0), false, false, true⟩ [])

theorem session_isSnapshot_of_crashing :
    let session : List Call :=
      [⟨erring, .parse "a.java"⟩, ⟨erring, .clear⟩, ⟨crashing, .parse "a.java"⟩,
        ⟨erring, .read "b.java"⟩, ⟨erring, .parse "a.java"⟩]
    let cache := Cache.empty.after session
    (cache.read erring "a.java").value = .ok (some [97]) ∧
      (∀ sources, cache.parse sources "a.java" = { value := .ok none, cache }) ∧
      "b.java" ∈ cache.unreadablePaths ∧ "a.java" ∉ cache.unreadablePaths ∧
      ("a.java", "a.java:1:1: syntax error") ∈ cache.unparsedReasons ∧
      (warningsAbout "a.java" (Cache.empty.transcript session)).map (·.text) =
        ["Java parse failed: a.java:1:1: syntax error"] := by
  intro session cache
  have snapshot : cache.IsSnapshot (sinceClear session) _ := session_isSnapshot session
  have told : (verdictSeen (sinceClear session) "a.java").bind Verdict.reason? =
      some "a.java:1:1: syntax error" := by decide +kernel
  obtain ⟨verdict, stands, reason⟩ := Option.bind_eq_some_iff.mp told
  have missing : verdict.source? = none := by
    cases verdict with
    | parsed source => cases reason
    | noLanguage | unreadable | refused => rfl
  refine ⟨?_, fun sources => ?_, ?_, ?_, (snapshot.unparsed _ _).mpr told, ?_⟩
  · exact Option.some.inj ((snapshot.content erring "a.java").symm.trans (by decide +kernel))
  · rw [snapshot.reused "a.java" verdict stands sources, missing]
  · exact (snapshot.unreadable "b.java").mpr (by decide +kernel)
  · exact (snapshot.unreadable "a.java").not.mpr (by decide +kernel)
  · rw [snapshot.warnings]
    decide +kernel

end Cache

end SourceSimilarity
