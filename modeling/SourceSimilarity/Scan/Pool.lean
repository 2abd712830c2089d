import SourceSimilarity.Scan.Progress

/-!
Worker pools. A phase of a scan consists of numbered units. With `n` workers, worker `i` takes the
units `i`, `i + n`, `i + 2 n` and so on, so every unit has one worker. Between units a worker looks
whether the scan was halted or the phase was stopped. The workers take turns in any order: a
schedule lists whose turn it is, when the pool notices that a worker has ended, and when the scan is
halted from outside.

A unit that fails ends its worker. When the pool notices the failure it stops the phase, and reports
it once all workers have ended. A unit that is interrupted halts the scan instead. A phase during
which the scan was halted is cancelled.
-/

namespace SourceSimilarity

inductive UnitFailure (ε : Type) where
  | interrupted
  | raised (e : ε)
deriving DecidableEq, Repr

structure UnitOutcome (σ ε : Type) where
  shared : σ
  lines : List LogLine := []
  halts : Bool := false
  failure : Option (UnitFailure ε) := none

structure Phase (σ ε : Type) where
  name : String
  count : Nat
  work : Fin count → σ → UnitOutcome σ ε

inductive WorkerStage (ε : Type) where
  | looking
  | working
  | reporting
  | ended (failure : Option (UnitFailure ε))
deriving DecidableEq, Repr

structure Worker (ε : Type) where
  unit : Nat
  stage : WorkerStage ε
deriving DecidableEq, Repr

inductive Notice (ε : Type) where
  | nothing
  | interrupted
  | raised (e : ε)
deriving DecidableEq, Repr

/-- A phase in progress. `begun` lists the units that were begun, each with its worker. -/
structure PhaseState (σ ε : Type) where
  shared : σ
  halted : Bool
  progress : Progress
  journal : Journal
  workers : List (Worker ε)
  notice : Notice ε := .nothing
  begun : Array (Nat × Nat) := #[]

inductive Turn where
  | worker (number : Nat)
  | notice (number : Nat)
  | halt
deriving DecidableEq, Repr

/-- Who sees the progress reports: tells for each of them whether it halts the scan. -/
abbrev Observer := ProgressReport → Bool

namespace PhaseState

variable {σ ε : Type}

def isStopped (state : PhaseState σ ε) : Bool :=
  state.halted || match state.notice with
    | .raised _ => true
    | _ => false

def tell (observer : Observer) (progress : Progress) (state : PhaseState σ ε) : PhaseState σ ε :=
  { state with
    progress
    journal := state.journal.push (.report progress.report)
    halted := state.halted || observer progress.report }

def setWorker (state : PhaseState σ ε) (number unit : Nat) (stage : WorkerStage ε) :
    PhaseState σ ε :=
  { state with workers := state.workers.set number ⟨unit, stage⟩ }

def look (phase : Phase σ ε) (number unit : Nat) (state : PhaseState σ ε) : PhaseState σ ε :=
  if unit < phase.count ∧ ¬ state.isStopped then state.setWorker number unit .working
  else state.setWorker number unit (.ended none)

/-- A worker works on its unit, as a whole. No other turn comes between its parts, so that what it
looks up in the shared state is still the case when it leaves the state to the others. -/
def work (phase : Phase σ ε) (number unit : Nat) (state : PhaseState σ ε) : PhaseState σ ε :=
  if inside : unit < phase.count then
    let outcome := phase.work ⟨unit, inside⟩ state.shared
    let worked := { state with
      shared := outcome.shared
      halted := state.halted || outcome.halts
      journal := state.journal.logAll outcome.lines
      begun := state.begun.push (unit, number) }
    match outcome.failure with
    | none => worked.setWorker number unit .reporting
    | some failure => worked.setWorker number unit (.ended (some failure))
  else state.setWorker number unit (.ended none)

def finishUnit (observer : Observer) (number unit : Nat) (state : PhaseState σ ε) :
    PhaseState σ ε :=
  (state.tell observer (state.progress.advance 1)).setWorker number (unit + state.workers.length)
    .looking

def workerTurn (observer : Observer) (phase : Phase σ ε) (number : Nat) (state : PhaseState σ ε) :
    PhaseState σ ε :=
  match state.workers[number]? with
  | some ⟨unit, .looking⟩ => state.look phase number unit
  | some ⟨unit, .working⟩ => state.work phase number unit
  | some ⟨unit, .reporting⟩ => state.finishUnit observer number unit
  | _ => state

/-- The pool notices that a worker has ended. Nothing more is noticed after the first failure. -/
def noticeTurn (number : Nat) (state : PhaseState σ ε) : PhaseState σ ε :=
  match state.notice, state.workers[number]? with
  | .nothing, some ⟨_, .ended (some .interrupted)⟩ => { state with
      notice := .interrupted
      halted := true
      journal := state.journal.log .info "Interrupted, stopping workers" }
  | .nothing, some ⟨_, .ended (some (.raised e))⟩ => { state with notice := .raised e }
  | _, _ => state

/-- A turn. One that is nobody's changes nothing. -/
def turn (observer : Observer) (phase : Phase σ ε) (state : PhaseState σ ε) : Turn → PhaseState σ ε
  | .worker number => state.workerTurn observer phase number
  | .notice number => state.noticeTurn number
  | .halt => { state with halted := true }

def turns (observer : Observer) (phase : Phase σ ε) (state : PhaseState σ ε)
    (schedule : List Turn) : PhaseState σ ε :=
  schedule.foldl (turn observer phase) state

end PhaseState

def workerCount (threads units : Nat) : Nat := min threads units

/-- Turns that bring every phase to its end: each worker in order has a turn to look, to work and to
report for each of its units and one more, then all ends are noticed. -/
def finishingTurns (workers units : Nat) : List Turn :=
  (List.range workers).flatMap (fun number =>
      List.replicate (3 * ((units - number + (workers - 1)) / workers) + 1) (Turn.worker number)) ++
    (List.range workers).map Turn.notice

/-- When a scan is halted and whose turn it is during a phase. A schedule that leaves the phase
unfinished is completed by finishing turns. -/
structure Schedule where
  haltedBefore : Bool := false
  turns : List Turn := []

inductive PhaseError (ε : Type) where
  | cancelled (phase : String)
  | raised (e : ε)
deriving DecidableEq, Repr

structure Pool where
  threads : Nat
  halted : Bool := false
  progress : Progress := .initial
  journal : Journal := #[]

namespace Pool

variable {σ ε : Type}

def ofThreads (threads : Int) (halted : Bool) : Pool := { threads := (max 1 threads).toNat, halted }

def start (pool : Pool) (observer : Observer) (phase : Phase σ ε) (shared : σ) : PhaseState σ ε :=
  let text := s!"Phase {phase.name}: {phase.count} units on {pool.threads} threads"
  let state : PhaseState σ ε := {
    shared
    halted := pool.halted
    progress := pool.progress
    journal := pool.journal.log .debug text
    workers := (List.range (workerCount pool.threads phase.count)).map (⟨·, .looking⟩) }
  state.tell observer (pool.progress.start phase.name phase.count)

structure Ending (σ ε : Type) where
  pool : Pool
  shared : σ
  error : Option (PhaseError ε)

def conclude (pool : Pool) (phase : Phase σ ε) (state : PhaseState σ ε) : Ending σ ε :=
  let after := { pool with
    halted := state.halted, progress := state.progress, journal := state.journal }
  match state.notice with
  | .raised e => { pool := after, shared := state.shared, error := some (.raised e) }
  | _ =>
    if state.halted then
      { pool := { after with
          journal := state.journal.log .info s!"Scan cancelled during {phase.name}" }
        shared := state.shared
        error := some (.cancelled phase.name) }
    else
      { pool := { after with
          progress := state.progress.finish
          journal := state.journal.log .debug s!"Phase {phase.name} finished" }
        shared := state.shared
        error := none }

/-- Runs a phase. Nothing of it is begun when the scan is halted already. -/
def run (pool : Pool) (observer : Observer) (schedule : Schedule) (phase : Phase σ ε) (shared : σ) :
    Ending σ ε :=
  let pool := { pool with halted := pool.halted || schedule.haltedBefore }
  if pool.halted then { pool, shared, error := some (.cancelled phase.name) }
  else
    let state := (pool.start observer phase shared).turns observer phase schedule.turns
    let workers := workerCount pool.threads phase.count
    pool.conclude phase (state.turns observer phase (finishingTurns workers phase.count))

end Pool

end SourceSimilarity
