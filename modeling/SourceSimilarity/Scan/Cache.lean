import SourceSimilarity.Scan.Log
import SourceSimilarity.Source.Parsed
import SourceSimilarity.Comparator
import SourceSimilarity.FileTree
import SourceSimilarity.Inputs

/-!
The cache of a scan. It holds the content of every file that was read and the parsed form of every
file that was parsed, or that there is none and why. What it holds is not fetched again, so all
comparators see one snapshot of each file, and each failure is logged once.

An access is one step: nobody else comes in between looking a path up and keeping what was found.
Workers that looked one path up at the same moment would all fetch it. They would log its failure
more than once, and keep the same as long as the file stays as it is.
-/

namespace SourceSimilarity

structure Sources where
  files : FileTree
  parser : Parser

structure Cache where
  contents : List (String × Option Bytes) := []
  parsed : List (String × Option ParsedSource) := []
  unreadable : List (String × String) := []
  unparsed : List (String × String) := []

structure Access (α : Type) where
  value : α
  cache : Cache
  lines : List LogLine := []

namespace Cache

def empty : Cache := {}

def noLanguage : String := "no lexer for this file type"

/-- The content of a file, none if it cannot be read. Nothing is kept for a path that is unfit. -/
def read (cache : Cache) (sources : Sources) (path : String) :
    Access (Except Breakdown (Option Bytes)) :=
  match cache.contents.lookup path with
  | some content => { value := .ok content, cache }
  | none =>
    match sources.files.read path with
    | .ok content => {
        value := .ok (some content)
        cache := { cache with contents := (path, some content) :: cache.contents } }
    | .error (.unfit fault) => { value := .error (.unfitPath fault), cache }
    | .error (.refused e) => {
        value := .ok none
        cache := { cache with
          contents := (path, none) :: cache.contents
          unreadable := (path, e.text) :: cache.unreadable }
        lines := [⟨.warning, s!"Cannot read {path}: {e.text}"⟩] }

def keepParsed (cache : Cache) (path : String) (source : Option ParsedSource) : Cache :=
  { cache with parsed := (path, source) :: cache.parsed }

def keepUnparsed (cache : Cache) (path reason : String) : Cache :=
  { cache with unparsed := (path, reason) :: cache.unparsed.filter fun known => known.1 != path }

def unparsedLine (path reason : String) : LogLine :=
  ⟨.debug, s!"No syntax artefacts for {path}: {reason}"⟩

/-- The parsed form of a file; none for a file that cannot be read, is in no known language, or has
an error. A parser that breaks down leaves only the content in the cache. -/
def parse (cache : Cache) (sources : Sources) (path : String) :
    Access (Except Breakdown (Option ParsedSource)) :=
  match cache.parsed.lookup path with
  | some source => { value := .ok source, cache }
  | none =>
    let content := cache.read sources path
    match content.value, Language.ofPath? path with
    | .error breakdown, _ => { content with value := .error breakdown }
    | .ok _, none => {
        value := .ok none
        cache := (content.cache.keepUnparsed path noLanguage).keepParsed path none
        lines := content.lines ++ [unparsedLine path noLanguage] }
    | .ok none, some _ => {
        value := .ok none
        cache := content.cache.keepParsed path none
        lines := content.lines }
    | .ok (some bytes), some language =>
      match ParsedSource.parseContent sources.parser path language bytes with
      | .ok source => {
          value := .ok (some source)
          cache := content.cache.keepParsed path (some source)
          lines := content.lines }
      | .error (.refused e) => {
          value := .ok none
          cache := (content.cache.keepUnparsed path e.message).keepParsed path none
          lines := content.lines ++ [unparsedLine path e.message,
            ⟨.warning, s!"{language.name} parse failed: {e.message}"⟩] }
      | .error (.broken breakdown) => {
          value := .error breakdown
          cache := content.cache
          lines := content.lines }

/-- The text of a file in its normal form, as bytes; empty for a file that cannot be read. Where
variables are to be replaced and there is no parsed form, only blanks and case are removed. -/
def normalized (cache : Cache) (sources : Sources) (normalizer : Normalizer) (path : String) :
    Access (Except Breakdown Bytes) :=
  let content := cache.read sources path
  match content.value, normalizer with
  | .error breakdown, _ => { content with value := .error breakdown }
  | .ok none, _ => { content with value := .ok [] }
  | .ok (some bytes), .variables =>
    let source := content.cache.parse sources path
    { value := source.value.map fun parsed => match parsed with
        | some parsed => Text.encode parsed.normalizedText
        | none => Normalizer.whitespaceOnly.applyToBytes bytes
      cache := source.cache
      lines := content.lines ++ source.lines }
  | .ok (some bytes), other => { content with value := .ok (other.applyToBytes bytes) }

def clear (_ : Cache) : Cache := empty

def unreadablePaths (cache : Cache) : List String := ascending (cache.unreadable.map (·.1))

def unparsedReasons (cache : Cache) : List (String × String) :=
  cache.unparsed.mergeSort fun a b => !decide (Text.Before b.1 a.1)

end Cache

end SourceSimilarity
