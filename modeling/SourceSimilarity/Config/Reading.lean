import SourceSimilarity.Config.Basic
import SourceSimilarity.Json.Reader
import SourceSimilarity.FileTree

namespace SourceSimilarity

open Json (Value)

inductive ConfigFailure where
  | invalid (e : ConfigError)
  | unreadable (path : String) (e : FileError)
  | unfitPath (fault : Path.Fault)
  | notJson (path : String) (e : Json.ReadError)
  | notAList
  | notText
  | integerTooLong
  | tooDeep
deriving DecidableEq, Repr

def ConfigFailure.message? : ConfigFailure → Option String
  | .invalid e => some e.message
  | .unreadable path e => some s!"Cannot read config {path}: {e.message path}"
  | .notJson path e => some s!"Invalid JSON in {path}: {e.message}"
  | .unfitPath _ | .notAList | .notText | .integerTooLong | .tooDeep => none

def Comparator.parse (name : Value) : Except ConfigError Comparator :=
  match Comparator.ofName? name.display with
  | some comparator => .ok comparator
  | none => .error (.unknownComparator name.display)

def Normalizer.parse (name : Value) : Except ConfigError Normalizer :=
  match Normalizer.ofName? name.display with
  | some normalizer => .ok normalizer
  | none => .error (.unknownNormalizer name.display)

/-- The names in a text that separates them by commas. Blank ones do not count. -/
def commaSeparated (text : String) : List Value :=
  ((text.toList.splitOn ',').filter fun piece => !(Text.strip piece).isEmpty).map
    fun piece => .string (String.ofList piece)

def parseComparators (names : Value) : Except ConfigFailure (List Comparator) :=
  let parse (names : List Value) := (names.mapM Comparator.parse).mapError .invalid
  match names with
  | .string text => parse (commaSeparated text)
  | .array items => parse items
  | .object fields => parse (fields.map fun field => .string field.1)
  | _ => .error .notAList

def Config.keys : List String :=
  ["threads", "enabled", "normalizer", "moss", "max_unreadable_fraction"]

def Draft.withMoss (draft : Draft) (moss : Value) : Except ConfigError Draft :=
  match moss with
  | .object fields =>
    if fields.all fun field => field.1 = "k" || field.1 = "w" then
      .ok { draft with
        k := (fields.lookup "k").getD (.whole Config.defaultK)
        w := (fields.lookup "w").getD (.whole Config.defaultW) }
    else .error .mossShape
  | _ => .error .mossShape

def Config.ofJson (threads : Nat) (data : Value) : Except ConfigFailure Config := do
  let .object fields := data | throw (.invalid .notAnObject)
  let unknown := (fields.map (·.1)).filter fun key => !Config.keys.contains key
  if !unknown.isEmpty then
    throw (.invalid (.unknownKeys (Text.sorted unknown)))
  let mut draft := Draft.initial threads
  if let some given := fields.lookup "threads" then
    draft := { draft with threads := given }
  if let some given := fields.lookup "enabled" then
    draft := { draft with enabled := ← parseComparators given }
  if let some given := fields.lookup "normalizer" then
    draft := { draft with normalizer := .ok (← (Normalizer.parse given).mapError .invalid) }
  if let some given := fields.lookup "moss" then
    draft ← (draft.withMoss given).mapError .invalid
  if let some given := fields.lookup "max_unreadable_fraction" then
    draft := { draft with unreadableShare := given }
  draft.check.mapError .invalid

def unifyLineEnds : List Char → List Char
  | '\r' :: '\n' :: rest => '\n' :: unifyLineEnds rest
  | '\r' :: rest => '\n' :: unifyLineEnds rest
  | c :: rest => c :: unifyLineEnds rest
  | [] => []

def Config.ofContent (threads : Nat) (path : String) (content : Bytes) (limits : Limits := {}) :
    Except ConfigFailure Config :=
  match Text.decode? content with
  | none => .error .notText
  | some text =>
    match Json.read (String.ofList (unifyLineEnds text)) limits with
    | .error .integerTooLong => .error .integerTooLong
    | .error .tooDeep => .error .tooDeep
    | .error e => .error (.notJson path e)
    | .ok data => Config.ofJson threads data

def Config.load (threads : Nat) (files : FileTree) (path : String) (limits : Limits := {}) :
    Except ConfigFailure Config :=
  match files.read path with
  | .error (.unfit fault) => .error (.unfitPath fault)
  | .error (.refused e) => .error (.unreadable path e)
  | .ok content => Config.ofContent threads path content limits

end SourceSimilarity
