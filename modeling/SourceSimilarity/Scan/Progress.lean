import SourceSimilarity.Scan.Log

namespace SourceSimilarity

structure ProgressReport where
  phase : Option String
  completed : Int
  total : Int
deriving DecidableEq, Repr

structure Progress where
  phase : Option String := none
  completed : Int := 0
  total : Int := 0
  phasesCompleted : Nat := 0
deriving DecidableEq, Repr

namespace Progress

def initial : Progress := {}

def report (progress : Progress) : ProgressReport :=
  ⟨progress.phase, progress.completed, progress.total⟩

def start (progress : Progress) (phase : String) (total : Int) : Progress :=
  { progress with phase := some phase, completed := 0, total }

def advance (progress : Progress) (count : Int) : Progress :=
  { progress with completed := progress.completed + count }

def finish (progress : Progress) : Progress :=
  { progress with phasesCompleted := progress.phasesCompleted + 1 }

end Progress

inductive JournalEntry where
  | line (line : LogLine)
  | report (report : ProgressReport)
deriving DecidableEq, Repr

abbrev Journal := Array JournalEntry

namespace Journal

def lines (journal : Journal) : List LogLine :=
  journal.toList.filterMap fun entry => match entry with
    | .line line => some line
    | .report _ => none

def reports (journal : Journal) : List ProgressReport :=
  journal.toList.filterMap fun entry => match entry with
    | .line _ => none
    | .report report => some report

def log (journal : Journal) (level : LogLevel) (text : String) : Journal :=
  journal.push (.line ⟨level, text⟩)

def logAll (journal : Journal) (lines : List LogLine) : Journal :=
  journal ++ (lines.map JournalEntry.line).toArray

end Journal

end SourceSimilarity
