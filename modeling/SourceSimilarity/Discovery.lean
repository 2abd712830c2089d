import SourceSimilarity.FileTree
import SourceSimilarity.Inputs
import SourceSimilarity.Pattern.Glob
import SourceSimilarity.Pattern.Meaning

namespace SourceSimilarity

/-- What the files of an entry are paired with: all files, all but those of old entries, or all
files in the case of one file that is named itself. -/
inductive EntryKind where
  | normal
  | old
  | single
deriving DecidableEq, Repr

/-- A source of files. An entry without a pattern selects no file, and cannot be asked to. -/
structure Entry where
  path : String
  pattern : Option String := some ""
  kind : EntryKind := .normal
  isRegex : Bool := false
deriving DecidableEq, Repr

inductive DiscoveryError where
  | invalidRegex (pattern : String) (e : Pattern.RegexError)
  | noPattern
  | notADirectory (path : String)
  | tooDeep
deriving DecidableEq, Repr

def DiscoveryError.message? : DiscoveryError → Option String
  | .invalidRegex pattern e =>
    (e.message? (Text.points pattern.toList)).map fun reason =>
      s!"Invalid regex '{pattern}': {reason}"
  | .noPattern | .tooDeep => none
  | .notADirectory path => some s!"Not a directory: {path}"

def nameTest (isRegex : Bool) (pattern : String) (limits : Limits := {}) :
    Except Pattern.RegexError (String → Bool) :=
  let points := Text.points pattern.toList
  let tests (regex : Pattern.Regex) (name : String) := regex.isMatch (Text.points name.toList)
  if isRegex then (Pattern.Regex.ofText points limits).map tests
  else .ok (tests (Pattern.Glob.toRegex points))

namespace Entry

/-- The test that an entry puts file names to, none without a pattern. A regular expression is asked
for at once, a file name pattern only when there is a name. -/
def test? (entry : Entry) (limits : Limits := {}) :
    Except DiscoveryError (Option (String → Bool)) :=
  match entry.pattern with
  | some pattern =>
    ((nameTest entry.isRegex pattern limits).map some).mapError (.invalidRegex pattern)
  | none => if entry.isRegex then .error .noPattern else .ok none

def selected (test? : Option (String → Bool)) (found : List (List String)) :
    Except DiscoveryError (List (List String)) :=
  match test?, found with
  | some test, found => .ok (found.filter fun names => names.getLast?.any test)
  | none, [] => .ok []
  | none, _ => .error .noPattern

def absoluteBelow (files : FileTree) (path : String) (names : List String) : String :=
  let below := ['/'].intercalate (names.map String.toList)
  String.ofList (Path.absolute files.workingPath (Path.join path.toList below))

def files (entry : Entry) (files : FileTree) (limits : Limits := {}) :
    Except DiscoveryError (List String) :=
  match entry.kind with
  | .single => .ok [String.ofList (Path.absolute files.workingPath entry.path.toList)]
  | _ => do
    let test? ← entry.test? limits
    match files.lookup entry.path with
    | .ok (.directory entries isOpen) =>
      let some found := (FileNode.directory entries isOpen).search limits.directories
        entry.path.toList | throw .tooDeep
      pure (Text.sorted ((← selected test? found).map (absoluteBelow files entry.path)))
    | _ => throw (.notADirectory entry.path)

end Entry

/-- The pairs of the files of all entries, given as lists by the kind of the entry: every file with
every other file that is not old. -/
def pairsAmong (found : List (EntryKind × List String)) : List FilePair :=
  let all := found.flatMap (·.2)
  let fresh := (found.filter fun entry => entry.1 ≠ .old).flatMap (·.2)
  all.flatMap fun a => fresh.filterMap fun b => (FilePair.of a b).toOption

def pairsOfEntries (entries : List Entry) (files : FileTree) (limits : Limits := {}) :
    Except DiscoveryError (List FilePair) := do
  let found ← entries.mapM fun entry => do pure (entry.kind, ← entry.files files limits)
  pure (pairsAmong found)

def Inputs.ofEntries (entries : List Entry) (files : FileTree) (limits : Limits := {}) :
    Except DiscoveryError Inputs := do
  pure (Inputs.ofPairs (← pairsOfEntries entries files limits))

end SourceSimilarity
