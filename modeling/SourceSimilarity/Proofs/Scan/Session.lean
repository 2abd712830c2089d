import Mathlib.Data.List.DropRight
import SourceSimilarity.Proofs.Scan.Snapshot

namespace SourceSimilarity

inductive Verdict where
  | noLanguage
  | unreadable
  | parsed (source : ParsedSource)
  | refused (language : Language) (error : SourceError)

namespace Verdict

def source? : Verdict → Option ParsedSource
  | .parsed source => some source
  | _ => none

def reason? : Verdict → Option String
  | .noLanguage => some Cache.noLanguage
  | .refused _ error => some error.message
  | _ => none

def warning? : Verdict → Option LogLine
  | .refused language error => some ⟨.warning, s!"{language.name} parse failed: {error.message}"⟩
  | _ => none

end Verdict

namespace Plain

def verdict (parser : Parser) (path : String) (content : Option Bytes) : Except Breakdown Verdict :=
  match Language.ofPath? path, content with
  | none, _ => .ok .noLanguage
  | some _, none => .ok .unreadable
  | some language, some bytes =>
    match ParsedSource.parseContent parser path language bytes with
    | .ok source => .ok (.parsed source)
    | .error (.refused error) => .ok (.refused language error)
    | .error (.broken breakdown) => .error breakdown

end Plain

namespace Cache

inductive Request where
  | read (path : String)
  | parse (path : String)
  | normalize (path : String) (normalizer : Normalizer)
  | unreadable
  | unparsed
  | clear
deriving DecidableEq

def Request.path? : Request → Option String
  | .read path | .parse path | .normalize path _ => some path
  | _ => none

def Request.parses (content : Option Bytes) : Request → Bool
  | .parse _ => true
  | .normalize _ .variables => content.isSome
  | _ => false

structure Call where
  sources : Sources
  request : Request

def serve (cache : Cache) (call : Call) : Cache × List LogLine :=
  match call.request with
  | .read path => ((cache.read call.sources path).cache, (cache.read call.sources path).lines)
  | .parse path => ((cache.parse call.sources path).cache, (cache.parse call.sources path).lines)
  | .normalize path normalizer =>
    ((cache.normalized call.sources normalizer path).cache,
      (cache.normalized call.sources normalizer path).lines)
  | .unreadable | .unparsed => (cache, [])
  | .clear => (cache.clear, [])

def transcript (cache : Cache) : List Call → List (Call × List LogLine)
  | [] => []
  | call :: calls => (call, (cache.serve call).2) :: transcript (cache.serve call).1 calls

def after (cache : Cache) (calls : List Call) : Cache :=
  calls.foldl (fun cache call => (cache.serve call).1) cache

/-- The part of a session since the cache was cleared. -/
def sinceClear (calls : List Call) : List Call :=
  calls.rtakeWhile fun call => call.request ≠ .clear

def warningsAbout (path : String) (session : List (Call × List LogLine)) : List LogLine :=
  ((session.rtakeWhile fun entry => entry.1.request ≠ .clear).filter fun entry =>
    entry.1.request.path? = some path).flatMap fun entry =>
      entry.2.filter fun line => line.level = .warning

section Concat

variable {calls : List Call} {call : Call}

theorem after_concat (cache : Cache) (calls : List Call) (call : Call) :
    cache.after (calls ++ [call]) = ((cache.after calls).serve call).1 := by
  rw [after, List.foldl_append]
  rfl

theorem transcript_concat (cache : Cache) (calls : List Call) (call : Call) :
    cache.transcript (calls ++ [call]) =
      cache.transcript calls ++ [(call, ((cache.after calls).serve call).2)] := by
  induction calls generalizing cache with
  | nil => rfl
  | cons first calls ih => exact congrArg (_ :: ·) (ih (cache.serve first).1)

theorem sinceClear_of_clear (cleared : call.request = .clear) :
    sinceClear (calls ++ [call]) = [] := by
  rw [sinceClear, List.rtakeWhile_concat_neg _ _ _ (by simpa using cleared)]

theorem sinceClear_concat (keeps : call.request ≠ .clear) :
    sinceClear (calls ++ [call]) = sinceClear calls ++ [call] := by
  rw [sinceClear, List.rtakeWhile_concat_pos _ _ _ (by simpa using keeps), sinceClear]

theorem warningsAbout_concat {path : String} {session : List (Call × List LogLine)}
    {lines : List LogLine} (keeps : call.request ≠ .clear) :
    warningsAbout path (session ++ [(call, lines)]) = warningsAbout path session ++
      if call.request.path? = some path then lines.filter (·.level = .warning) else [] := by
  rw [warningsAbout, List.rtakeWhile_concat_pos _ _ _ (by simpa using keeps), List.filter_append,
    List.flatMap_append, warningsAbout]
  by_cases accesses : call.request.path? = some path
  · simp [accesses]
  · simp [accesses]

end Concat

def replySeen (calls : List Call) (path : String) : Option (Except OpenError Bytes) :=
  (calls.find? fun call => call.request.path? = some path).map fun call =>
    call.sources.files.read path

def contentSeen (calls : List Call) (path : String) : Option (Except Breakdown (Option Bytes)) :=
  (replySeen calls path).map Plain.content

def contentKnown (calls : List Call) (path : String) : Option (Option Bytes) :=
  (contentSeen calls path).bind Except.toOption

def Call.verdict? (call : Call) (path : String) (content : Option Bytes) : Option Verdict :=
  if call.request.path? = some path ∧ call.request.parses content then
    (Plain.verdict call.sources.parser path content).toOption
  else none

/-- The verdict of the first parse that did not break down, on the content that was seen. -/
def verdictSeen (calls : List Call) (path : String) : Option Verdict :=
  (contentKnown calls path).bind fun content =>
    calls.findSome? fun call => call.verdict? path content

def textSeen (calls : List Call) (normalizer : Normalizer) (path : String) : Option Bytes :=
  match contentKnown calls path, normalizer with
  | none, _ => none
  | some none, _ => some []
  | some (some bytes), .variables =>
    (verdictSeen calls path).map fun verdict => match verdict.source? with
      | some source => Text.encode source.normalizedText
      | none => Normalizer.whitespaceOnly.applyToBytes bytes
  | some (some bytes), other => some (other.applyToBytes bytes)

def readWarning? (path : String) : Except OpenError Bytes → Option LogLine
  | .ok _ => none
  | .error (.unfit _) => none
  | .error (.refused e) => some ⟨.warning, s!"Cannot read {path}: {e.text}"⟩

def warningsSeen (calls : List Call) (path : String) : List LogLine :=
  ((replySeen calls path).bind (readWarning? path)).toList ++
    ((verdictSeen calls path).bind Verdict.warning?).toList

section Seen

variable {calls : List Call} {call : Call} {path other : String}

theorem path?_ne (accesses : call.request.path? = some path) (differ : other ≠ path) :
    call.request.path? ≠ some other :=
  accesses ▸ fun same => differ (Option.some.inj same).symm

theorem replySeen_concat (calls : List Call) (call : Call) (path : String) :
    replySeen (calls ++ [call]) path = (replySeen calls path).or
      (if call.request.path? = some path then some (call.sources.files.read path) else none) := by
  rw [replySeen, replySeen, List.find?_append, Option.map_or, List.find?_singleton]
  by_cases accesses : call.request.path? = some path
  · rw [if_pos (decide_eq_true accesses), if_pos accesses, Option.map_some]
  · rw [if_neg (by simpa using accesses), if_neg accesses, Option.map_none]

theorem replySeen_concat_self (accesses : call.request.path? = some path) :
    replySeen (calls ++ [call]) path =
      some ((replySeen calls path).getD (call.sources.files.read path)) := by
  rw [replySeen_concat, if_pos accesses]
  cases replySeen calls path <;> rfl

theorem replySeen_concat_other (elsewhere : call.request.path? ≠ some path) :
    replySeen (calls ++ [call]) path = replySeen calls path := by
  rw [replySeen_concat, if_neg elsewhere, Option.or_none]

theorem replySeen_concat_eq_read (accesses : call.request.path? = some path) (other : String) :
    replySeen (calls ++ [call]) other =
      replySeen (calls ++ [⟨call.sources, .read path⟩]) other := by
  rw [replySeen_concat, replySeen_concat, accesses]
  rfl

theorem contentKnown_concat_eq_read (accesses : call.request.path? = some path) (other : String) :
    contentKnown (calls ++ [call]) other =
      contentKnown (calls ++ [⟨call.sources, .read path⟩]) other := by
  rw [contentKnown, contentSeen, replySeen_concat_eq_read accesses, contentKnown, contentSeen]

theorem contentKnown_concat_other (elsewhere : call.request.path? ≠ some path) :
    contentKnown (calls ++ [call]) path = contentKnown calls path := by
  rw [contentKnown, contentSeen, replySeen_concat_other elsewhere, contentKnown, contentSeen]

theorem contentKnown_concat_of_seen {reply : Except OpenError Bytes}
    (seen : replySeen calls path = some reply) (call : Call) :
    contentKnown (calls ++ [call]) path = contentKnown calls path := by
  rw [contentKnown, contentSeen, replySeen_concat, seen, Option.some_or, contentKnown, contentSeen,
    seen]

theorem contentKnown_of_unseen (unseen : replySeen calls path = none) :
    contentKnown calls path = none := by
  rw [contentKnown, contentSeen, unseen]
  rfl

theorem verdictSeen_of_unseen (unseen : replySeen calls path = none) :
    verdictSeen calls path = none := by
  rw [verdictSeen, contentKnown_of_unseen unseen]
  rfl

/-- A verdict stands. Until there is one, each parse of the content that is known may give it. -/
theorem verdictSeen_concat (calls : List Call) (call : Call) (path : String) :
    verdictSeen (calls ++ [call]) path = (verdictSeen calls path).or
      ((contentKnown (calls ++ [call]) path).bind fun content => call.verdict? path content) := by
  cases first : replySeen calls path with
  | some reply =>
      rw [verdictSeen, verdictSeen, contentKnown_concat_of_seen first]
      cases contentKnown calls path with
      | none => rfl
      | some content =>
          simp only [Option.bind_some, List.findSome?_append, List.findSome?_singleton]
  | none =>
      -- what the earlier calls come to on the new content is nothing, as none of them is for the file
      have elsewhere : ∀ earlier ∈ calls, earlier.request.path? ≠ some path := by
        simpa [replySeen] using first
      rw [verdictSeen_of_unseen first, Option.none_or, verdictSeen]
      cases contentKnown (calls ++ [call]) path with
      | none => rfl
      | some content =>
          rw [Option.bind_some, Option.bind_some, List.findSome?_append, List.findSome?_singleton,
            List.findSome?_eq_none_iff.mpr, Option.none_or]
          exact fun earlier member => if_neg fun both => elsewhere earlier member both.1

theorem verdictSeen_concat_other (elsewhere : call.request.path? ≠ some path) :
    verdictSeen (calls ++ [call]) path = verdictSeen calls path := by
  rw [verdictSeen_concat]
  cases contentKnown (calls ++ [call]) path with
  | none => exact Option.or_none
  | some content =>
      rw [Option.bind_some, Call.verdict?, if_neg fun both => elsewhere both.1, Option.or_none]

theorem verdictSeen_concat_of_quiet (quiet : ∀ content,
    contentKnown (calls ++ [call]) path = some content → call.request.parses content = false) :
    verdictSeen (calls ++ [call]) path = verdictSeen calls path := by
  rw [verdictSeen_concat]
  cases known : contentKnown (calls ++ [call]) path with
  | none => exact Option.or_none
  | some content =>
      rw [Option.bind_some, Call.verdict?, if_neg, Option.or_none]
      rw [quiet content known]
      exact fun both => Bool.false_ne_true both.2

theorem verdictSeen_read (calls : List Call) (sources : Sources) (path other : String) :
    verdictSeen (calls ++ [⟨sources, .read path⟩]) other = verdictSeen calls other :=
  verdictSeen_concat_of_quiet fun _ _ => rfl

theorem contentKnown_eq_some_iff {content : Option Bytes} :
    contentKnown calls path = some content ↔ contentSeen calls path = some (.ok content) := by
  rw [contentKnown]
  cases contentSeen calls path with
  | none => simp
  | some outcome =>
      cases outcome with
      | ok found => simp [Except.toOption]
      | error breakdown => simp [Except.toOption]

theorem exists_verdict {content : Option Bytes} {verdict : Verdict}
    (known : contentKnown calls path = some content)
    (stands : verdictSeen calls path = some verdict) :
    ∃ parser, Plain.verdict parser path content = .ok verdict := by
  rw [verdictSeen, known, Option.bind_some] at stands
  obtain ⟨call, -, given⟩ := List.exists_of_findSome?_eq_some stands
  rw [Call.verdict?, Option.ite_none_right_eq_some] at given
  refine ⟨call.sources.parser, ?_⟩
  cases outcome : Plain.verdict call.sources.parser path content with
  | ok found =>
      rw [outcome] at given
      exact congrArg _ (Option.some.inj given.2)
  | error breakdown =>
      rw [outcome] at given
      cases given.2

theorem warning?_of_unreadable {parser : Parser} {path : String} {verdict : Verdict}
    (outcome : Plain.verdict parser path none = .ok verdict) : verdict.warning? = none := by
  unfold Plain.verdict at outcome
  cases language : Language.ofPath? path with
  | none =>
      rw [language] at outcome
      obtain rfl := Except.ok.inj outcome
      rfl
  | some name =>
      rw [language] at outcome
      obtain rfl := Except.ok.inj outcome
      rfl

theorem length_warningsSeen (calls : List Call) (path : String) :
    (warningsSeen calls path).length ≤ 1 := by
  rw [warningsSeen, List.length_append]
  cases warns : (replySeen calls path).bind (readWarning? path) with
  | none =>
      rw [Option.toList_none, List.length_nil, Nat.zero_add]
      exact Option.length_toList_le
  | some line =>
      -- a file is only refused by a parser, which is given nothing of a file that cannot be read
      have known : contentKnown calls path = some none := by
        obtain ⟨reply, first, warns⟩ := Option.bind_eq_some_iff.mp warns
        rw [contentKnown, contentSeen, first]
        cases reply with
        | ok bytes => cases warns
        | error e =>
            cases e with
            | refused e => rfl
            | unfit fault => cases warns
      have quiet : (verdictSeen calls path).bind Verdict.warning? = none := by
        refine Option.bind_eq_none_iff.mpr fun verdict stands => ?_
        obtain ⟨parser, outcome⟩ := exists_verdict known stands
        exact warning?_of_unreadable outcome
      rw [quiet]
      exact le_rfl

end Seen

end Cache

end SourceSimilarity
