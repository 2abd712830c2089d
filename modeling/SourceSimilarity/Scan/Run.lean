import SourceSimilarity.Scan.Task
import SourceSimilarity.Scan.Pool
import SourceSimilarity.Score.Table

namespace SourceSimilarity

namespace Scan

/-- When a scan is halted and whose turn it is, for both phases of each comparator. -/
structure Plan where
  preparation : Comparator → Schedule := fun _ => {}
  comparison : Comparator → Schedule := fun _ => {}

structure Setting where
  sources : Sources
  config : Config
  task : Task
  observer : Observer := fun _ => false
  plan : Plan := {}

namespace Setting

abbrev pairCount (setting : Setting) : Nat := setting.task.pairs.size

abbrev fileCount (setting : Setting) : Nat := setting.task.files.size

end Setting

/-- What the units of a preparation share: the cache, and a place for the artefact of each file. -/
structure Preparation (comparator : Comparator) (files : Nat) where
  cache : Cache
  artefacts : Vector (Artefact comparator) files

def failureOf : UnitError → UnitFailure UnitError
  | .broken .interrupted => .interrupted
  | e => .raised e

def prepareFile (setting : Setting) (comparator : Comparator) (file : Fin setting.fileCount)
    (shared : Preparation comparator setting.fileCount) :
    UnitOutcome (Preparation comparator setting.fileCount) UnitError :=
  let access := Artefact.take shared.cache setting.sources setting.config
    setting.task.files[file] comparator
  match access.value with
  | .ok artefact => {
      shared := { cache := access.cache, artefacts := shared.artefacts.set file artefact }
      lines := access.lines }
  | .error e => {
      shared := { shared with cache := access.cache }
      lines := access.lines
      failure := some (failureOf e) }

def preparation (setting : Setting) (comparator : Comparator) :
    Phase (Preparation comparator setting.fileCount) UnitError where
  name := s!"{comparator.title} preprocessing"
  count := setting.fileCount
  work := prepareFile setting comparator

def comparePair (setting : Setting) (comparator : Comparator)
    (artefacts : Vector (Artefact comparator) setting.fileCount) (pair : Fin setting.pairCount)
    (scores : Vector Score setting.pairCount) :
    UnitOutcome (Vector Score setting.pairCount) UnitError :=
  let (a, b) := setting.task.pairs[pair]
  let (score, warning) := Artefact.compare comparator (artefacts.get a) (artefacts.get b)
  let lines := warning.toList.map fun warning => ⟨.warning, warning.message⟩
  match Score.ofInt? score with
  | some score => { shared := scores.set pair score, lines }
  | none => { shared := scores, lines, failure := some (.raised (.scoreTooLarge score)) }

def comparison (setting : Setting) (comparator : Comparator)
    (artefacts : Vector (Artefact comparator) setting.fileCount) :
    Phase (Vector Score setting.pairCount) UnitError where
  name := s!"{comparator.title} comparison"
  count := setting.pairCount
  work := comparePair setting comparator artefacts

structure State (pairs : Nat) where
  pool : Pool
  cache : Cache
  table : ScoreTable pairs

def errorOf : PhaseError UnitError → ScanError
  | .cancelled phase => .cancelled phase
  | .raised e => .unit e

def runComparator (setting : Setting) (state : State setting.pairCount) (comparator : Comparator) :
    State setting.pairCount × Option ScanError :=
  let prepared := state.pool.run setting.observer (setting.plan.preparation comparator)
    (preparation setting comparator)
    { cache := state.cache
      artefacts := Vector.replicate setting.fileCount (Artefact.missing comparator) }
  let state := { state with pool := prepared.pool, cache := prepared.shared.cache }
  match prepared.error with
  | some e => (state, some (errorOf e))
  | none =>
    match setting.config.fault? state.cache setting.fileCount with
    | some fault => (state, some (.unreadable fault))
    | none =>
      let compared := state.pool.run setting.observer (setting.plan.comparison comparator)
        (comparison setting comparator prepared.shared.artefacts)
        (Vector.replicate setting.pairCount 0)
      let state := { state with
        pool := compared.pool
        table := state.table.insert comparator compared.shared }
      (state, compared.error.map errorOf)

def runComparators (setting : Setting) (state : State setting.pairCount) :
    List Comparator → State setting.pairCount × Option ScanError
  | [] => (state, none)
  | comparator :: comparators =>
    match runComparator setting state comparator with
    | (state, none) => runComparators setting state comparators
    | (state, some e) => (state, some e)

structure Outcome (pairs : Nat) where
  scores : Except ScanError (ScoreTable pairs)
  halted : Bool
  journal : Journal

def openingText (setting : Setting) : String :=
  let titles := ", ".intercalate (setting.config.enabled.map (·.title))
  s!"Scanning {setting.fileCount} files, {setting.pairCount} pairs with {titles}"

def run (setting : Setting) (halted : Bool) : Outcome setting.pairCount :=
  let pool := Pool.ofThreads setting.config.threads halted
  let opened := { pool with journal := pool.journal.log .debug (openingText setting) }
  let (state, error) := runComparators setting
    { pool := opened, cache := .empty, table := .empty } setting.config.enabled
  { scores := match error with
      | some e => .error e
      | none => .ok state.table
    halted := state.pool.halted
    journal := state.pool.journal }

end Scan

end SourceSimilarity
