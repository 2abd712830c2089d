import SourceSimilarity.Comparator
import SourceSimilarity.Json.Shown

/-!
Scan configurations. A draft holds what was given for each option, of whatever kind. It becomes a
configuration when every option passes its check; the first that fails is reported.
-/

namespace SourceSimilarity

open Json (Value)
open Decimal (Number)

structure Config where
  threads : Nat
  enabled : List Comparator
  normalizer : Normalizer
  k : Nat
  w : Nat
  unreadableShare : Number
deriving Repr

/-- What is wrong with a configuration. A value that was refused is held as it is shown. -/
inductive ConfigError where
  | unknownComparator (name : String)
  | unknownNormalizer (name : String)
  | notAnObject
  | unknownKeys (keys : List String)
  | threads (shown : String)
  | noComparators
  | notAComparator (shown : String)
  | notANormalizer (shown : String)
  | mossShape
  | k (shown : String)
  | w (shown : String)
  | shareKind
  | shareRange (shown : String)
deriving DecidableEq, Repr

def ConfigError.message : ConfigError → String
  | .unknownComparator name =>
    s!"Unknown comparator '{name}' (choose from {Comparator.choices})"
  | .unknownNormalizer name =>
    s!"Unknown normalizer '{name}' (choose from {Normalizer.choices})"
  | .notAnObject => "Configuration must be a JSON object"
  | .unknownKeys keys => "Unknown configuration keys: " ++ ", ".intercalate keys
  | .threads shown => s!"threads must be >= 1, got {shown}"
  | .noComparators => "No comparators enabled"
  | .notAComparator shown => s!"Not a comparator: {shown}"
  | .notANormalizer shown => s!"Not a normalizer mode: {shown}"
  | .mossShape => "moss must be an object with keys k and w"
  | .k shown => s!"Moss k must be >= 1, got {shown}"
  | .w shown => s!"Moss w must be >= 1, got {shown}"
  | .shareKind => "max_unreadable_fraction must be a number"
  | .shareRange shown => s!"max_unreadable_fraction must be within [0, 1], got {shown}"

/-- What was given for each option. `strangers` are members of the set of comparators that are
none. -/
structure Draft where
  threads : Value
  enabled : List Comparator
  strangers : List Value := []
  normalizer : Except Value Normalizer
  k : Value
  w : Value
  unreadableShare : Value

def Config.defaultComparators : List Comparator := [.moss, .tokenEdit]

def Config.defaultK : Nat := 15

def Config.defaultW : Nat := 8

def Draft.initial (threads : Nat) : Draft where
  threads := .whole threads
  enabled := Config.defaultComparators
  normalizer := .ok .variables
  k := .whole Config.defaultK
  w := .whole Config.defaultW
  unreadableShare := .number (.float 0.5)

def positive? : Value → Option Nat
  | .number (.whole n) => if 1 ≤ n then some n.toNat else none
  | _ => none

def isShare : Number → Bool
  | .whole n => 0 ≤ n && n ≤ 1
  | .float x => 0.0 ≤ x && x ≤ 1.0

/-- The configuration of a draft, or the first option that fails its check. -/
def Draft.check (draft : Draft) : Except ConfigError Config := do
  let some threads := positive? draft.threads | throw (.threads draft.threads.inspect)
  if draft.enabled.isEmpty && draft.strangers.isEmpty then throw .noComparators
  if let stranger :: _ := draft.strangers then throw (.notAComparator stranger.inspect)
  let normalizer ← match draft.normalizer with
    | .ok normalizer => pure normalizer
    | .error given => throw (.notANormalizer given.inspect)
  let some k := positive? draft.k | throw (.k draft.k.inspect)
  let some w := positive? draft.w | throw (.w draft.w.inspect)
  let .number share := draft.unreadableShare | throw .shareKind
  if !isShare share then throw (.shareRange draft.unreadableShare.display)
  pure { threads, enabled := Comparator.arrange draft.enabled, normalizer, k, w,
         unreadableShare := share }

def Config.toDraft (config : Config) : Draft where
  threads := .whole config.threads
  enabled := config.enabled
  normalizer := .ok config.normalizer
  k := .whole config.k
  w := .whole config.w
  unreadableShare := .number config.unreadableShare

def Config.toJson (config : Config) : Value := .object [
  ("threads", .whole config.threads),
  ("enabled", .array (config.enabled.map fun comparator => .string comparator.name)),
  ("normalizer", .string config.normalizer.name),
  ("moss", .object [("k", .whole config.k), ("w", .whole config.w)]),
  ("max_unreadable_fraction", .number config.unreadableShare)]

/-- Whether `count` unreadable files out of `total` are more than the configuration allows. A share
given with a point is multiplied as a floating-point number. -/
def Config.exceeds (config : Config) (count total : Nat) : Bool :=
  match config.unreadableShare with
  | .whole n => n * total < (count : Int)
  | .float x => x * Decimal.floatOfInt total < Decimal.floatOfInt count

end SourceSimilarity
