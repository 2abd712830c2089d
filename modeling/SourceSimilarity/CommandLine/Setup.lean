import SourceSimilarity.CommandLine.Arguments
import SourceSimilarity.Config.Reading
import SourceSimilarity.Discovery

namespace SourceSimilarity

inductive EntryError where
  | patternMissing
  | nothingToScan
deriving DecidableEq, Repr

def EntryError.message : EntryError → String
  | .patternMissing => "A file name (-n) or regex (-r) is required with DIR"
  | .nothingToScan => "Nothing to scan: give at least one DIR or --single FILE"

inductive LimitError where
  | negative
  | noValue
deriving DecidableEq, Repr

def nonempty? (text : OptionValue String) : Option String :=
  text.value?.filter fun text => !text.isEmpty

namespace Arguments

/-- A draft with the options of the command line in place of its own. Zero threads stand for the
number of processors. -/
def override (arguments : Arguments) (processors : Nat) (draft : Draft) :
    Except ConfigFailure Draft := do
  let enabled ← match nonempty? arguments.algorithms with
    | some names => parseComparators (.string names)
    | none => pure draft.enabled
  let threads := arguments.threads.json? fun n => .whole (if n = 0 then processors else n)
  pure { draft with
    threads := threads.getD draft.threads
    enabled
    normalizer := (arguments.normalizer.value?.map Except.ok).getD draft.normalizer
    k := (arguments.k.json? Json.Value.whole).getD draft.k
    w := (arguments.w.json? Json.Value.whole).getD draft.w }

def draft (arguments : Arguments) (processors : Nat) (files : FileTree) (limits : Limits := {}) :
    Except ConfigFailure Draft :=
  match nonempty? arguments.config with
  | some path => (Config.load processors files path limits).map Config.toDraft
  | none => .ok (Draft.initial processors)

def scanConfig (arguments : Arguments) (processors : Nat) (files : FileTree)
    (limits : Limits := {}) : Except ConfigFailure Config := do
  let draft ← arguments.override processors (← arguments.draft processors files limits)
  draft.check.mapError .invalid

def pattern (arguments : Arguments) : OptionValue String :=
  if arguments.regex = .absent then arguments.name else arguments.regex

def entries (arguments : Arguments) : Except EntryError (List Entry) :=
  let needsPattern := !arguments.directories.isEmpty || !arguments.old.isEmpty
  if needsPattern && arguments.pattern = .absent then .error .patternMissing
  else
    let pattern := arguments.pattern.value?
    let isRegex := arguments.regex ≠ .absent
    let below (kind : EntryKind) (path : String) : Entry := { path, pattern, kind, isRegex }
    let entries := arguments.directories.map (below .normal) ++ arguments.old.map (below .old) ++
      arguments.single.map fun path => { path, kind := .single }
    if entries.isEmpty then .error .nothingToScan else .ok entries

def rankingComparator (arguments : Arguments) : Except ConfigError (Option Comparator) :=
  match nonempty? arguments.rankBy with
  | some name => (Comparator.parse (.string name)).map some
  | none => .ok none

/-- The most pairs that are shown, zero standing for all of them. -/
def shownLimit (arguments : Arguments) : Except LimitError (Option Nat) :=
  match arguments.limit.value? with
  | none => .error .noValue
  | some n => if n < 0 then .error .negative else .ok (if n = 0 then none else some n.toNat)

end Arguments

end SourceSimilarity
