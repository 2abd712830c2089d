import SourceSimilarity.Config.Basic
import SourceSimilarity.FileTree
import SourceSimilarity.Inputs
import SourceSimilarity.Json.Reader
import SourceSimilarity.Json.Writer
import SourceSimilarity.Release
import SourceSimilarity.Score.Stream

namespace SourceSimilarity

open Json (Value)

inductive SavedScanError where
  | unreadable (path : String) (e : FileError)
  | unfitPath (fault : Path.Fault)
  | stream (e : StreamError)
  | noManifest (path : String)
  | otherFiles (path : String)
  | treeScores (path : String)
  | pairsNotListed
  | scoreTooLarge (score : Int)
  | integerTooLong
  | tooDeep
deriving DecidableEq, Repr

/-- The wording of an error. Not reported in words are a path that is unfit and a manifest that
lists no pairs, holds a number that is no score or too long to be read, or has too many containers
within one another. -/
def SavedScanError.message? : SavedScanError → Option String
  | .unreadable path e => some s!"Cannot read {path}: {e.message path}"
  | .stream e => some e.message
  | .noManifest path => some s!"{path} has no valid scan manifest"
  | .otherFiles path => some s!"{path} was saved for a different set of files"
  | .treeScores path => some s!"{path} has invalid AST distance scores"
  | .unfitPath _ | .pairsNotListed | .scoreTooLarge _ | .integerTooLong | .tooDeep => none

namespace SavedScan

variable {pairs : Nat}

def pairsJson (inputs : Inputs) : Value :=
  .array (inputs.pairs.map fun pair => .array [.whole pair.1, .whole pair.2])

def treeFields (table : ScoreTable pairs) : List (String × Value) :=
  match table.get? .treeEdit with
  | some scores =>
    [("tree_scores", .array (scores.toList.map fun score => .whole score.toInt))]
  | none => []

def manifest (inputs : Inputs) (config : Config) (table : ScoreTable pairs) : Value :=
  .object ([
    ("version", .string Release.version),
    ("files", .array (inputs.files.map .string)),
    ("pairs", pairsJson inputs),
    ("config", config.toJson)] ++ treeFields table)

def toBytes (inputs : Inputs) (config : Config) (table : ScoreTable pairs) : Bytes :=
  table.save (Text.encode ((manifest inputs config table).write .spaced))

/-- The members of a value: the items of an array, the characters of a string, the names of an
object. Other values have none. -/
def members? : Value → Option (List Value)
  | .array items => some items
  | .string s => some ((Text.points s.toList).map fun p => .string (Text.ofPoints [p]))
  | .object fields => some (fields.map fun field => .string field.1)
  | _ => none

/-- Whether a value is a number equal to this one. The truth values count as one and zero. -/
def isNumber (n : Int) : Value → Bool
  | .number (.whole m) => m = n
  | .number (.float x) => Decimal.truncate? x = some n && Decimal.floatOfInt n == x
  | .bool b => n = if b then 1 else 0
  | _ => false

def isString (s : String) : Value → Bool
  | .string other => other = s
  | _ => false

def isArrayOf {α : Type} (isItem : α → Value → Bool) (expected : List α) (items : List Value) :
    Bool :=
  items.length = expected.length && (expected.zip items).all fun (a, item) => isItem a item

def isPair (pair : Int × Int) (members : List Value) : Bool :=
  isArrayOf isNumber [pair.1, pair.2] members

def listedPairs? (manifest : Value) : Option (List (List Value)) := do
  let listed ← members? ((manifest.get? "pairs").getD (.array []))
  listed.mapM members?

def listsFiles (inputs : Inputs) (manifest : Value) : Bool :=
  match manifest.get? "files" with
  | some (.array items) => isArrayOf isString inputs.files items
  | _ => false

def arePairs (inputs : Inputs) (listed : List (List Value)) : Bool :=
  listed.length = inputs.pairs.length &&
    (inputs.pairs.zip listed).all fun (pair, members) => isPair pair members

def integer? : Value → Option Int
  | .number (.whole n) => some n
  | .bool b => some (if b then 1 else 0)
  | _ => none

def scoreOf (n : Int) : Except SavedScanError Score :=
  match Score.ofInt? n with
  | some score => .ok score
  | none => .error (.scoreTooLarge n)

def withTreeScores (path : String) (manifest : Value) (table : ScoreTable pairs) :
    Except SavedScanError (ScoreTable pairs) :=
  match manifest.get? "tree_scores" with
  | none | some .null => .ok table
  | some (.array items) =>
    match items.mapM integer? with
    | none => .error (.treeScores path)
    | some numbers =>
      if numbers.length ≠ pairs then .error (.treeScores path)
      else do
        let scores ← numbers.mapM scoreOf
        if size : scores.toArray.size = pairs then
          pure (table.insert .treeEdit ⟨scores.toArray, size⟩)
        else throw (.treeScores path)
  | some _ => .error (.treeScores path)

def readManifest (path : String) (bytes : Bytes) (limits : Limits := {}) :
    Except SavedScanError Value :=
  match Text.decode? bytes with
  | none => .error (.noManifest path)
  | some text =>
    match Json.read (String.ofList text) limits with
    | .ok (.object fields) => .ok (.object fields)
    | .error .integerTooLong => .error .integerTooLong
    | .error .tooDeep => .error .tooDeep
    | _ => .error (.noManifest path)

def ofBytes (path : String) (inputs : Inputs) (bytes : Bytes) (limits : Limits := {}) :
    Except SavedScanError (ScoreTable inputs.pairCount) := do
  let (table, rest) ← (ScoreTable.load inputs.pairCount bytes).mapError .stream
  let manifest ← readManifest path rest limits
  let some listed := listedPairs? manifest | throw .pairsNotListed
  if listsFiles inputs manifest && arePairs inputs listed then withTreeScores path manifest table
  else throw (.otherFiles path)

def load (files : FileTree) (path : String) (inputs : Inputs) (limits : Limits := {}) :
    Except SavedScanError (ScoreTable inputs.pairCount) :=
  match files.read path with
  | .error (.unfit fault) => .error (.unfitPath fault)
  | .error (.refused e) => .error (.unreadable path e)
  | .ok bytes => ofBytes path inputs bytes limits

end SavedScan

end SourceSimilarity
