import SourceSimilarity.Proofs.Scan.Turns

namespace SourceSimilarity

variable {σ ε : Type}

structure Schedule.Quiet (schedule : Schedule) : Prop where
  before : schedule.haltedBefore = false
  during : Turn.halt ∉ schedule.turns

def Observer.Quiet (observer : Observer) : Prop := ∀ report, observer report = false

/-- A phase whose units succeed where an invariant of the shared state holds. Each keeps the
invariant and what other units have done, and does its own part. -/
structure Phase.Succeeds (phase : Phase σ ε) (invariant : σ → Prop)
    (done : Fin phase.count → σ → Prop) : Prop where
  failure : ∀ unit shared, invariant shared → (phase.work unit shared).failure = none
  halts : ∀ unit shared, invariant shared → (phase.work unit shared).halts = false
  holds : ∀ unit shared, invariant shared → invariant (phase.work unit shared).shared
  finishes : ∀ unit shared, invariant shared → done unit (phase.work unit shared).shared
  keeps : ∀ unit other shared, invariant shared → done other shared →
    done other (phase.work unit shared).shared

structure Worker.Undisturbed {count : Nat} (done : Fin count → Prop) (stride number : Nat)
    (worker : Worker ε) : Prop where
  ended : ∀ failure, worker.stage = .ended failure → failure = none ∧ count ≤ worker.unit
  passed : ∀ unit : Fin count, unit % stride = number → unit < worker.unit → done unit
  current : ∀ unit : Fin count, unit.1 = worker.unit → worker.stage = .reporting → done unit

theorem Worker.Undisturbed.imp {count stride number : Nat} {done more : Fin count → Prop}
    {worker : Worker ε} (calm : worker.Undisturbed done stride number)
    (keeps : ∀ unit, done unit → more unit) : worker.Undisturbed more stride number where
  ended := calm.ended
  passed unit own before := keeps unit (calm.passed unit own before)
  current unit same reporting := keeps unit (calm.current unit same reporting)

structure PhaseState.Undisturbed (phase : Phase σ ε) (invariant : σ → Prop)
    (done : Fin phase.count → σ → Prop) (state : PhaseState σ ε) : Prop where
  free : state.halted = false
  notice : state.notice = .nothing
  striped : state.Striped
  holds : invariant state.shared
  workers : ∀ (number : Nat) (worker : Worker ε), state.workers[number]? = some worker →
    worker.Undisturbed (done · state.shared) state.workers.length number

namespace PhaseState.Undisturbed

variable {phase : Phase σ ε} {invariant : σ → Prop} {done : Fin phase.count → σ → Prop}
  {observer : Observer} {state : PhaseState σ ε}

theorem isStopped_eq (calm : state.Undisturbed phase invariant done) : state.isStopped = false := by
  rw [isStopped, calm.free, calm.notice, Bool.false_or]

theorem workers_set (calm : state.Undisturbed phase invariant done) {number : Nat} {next : Worker ε}
    {shared : σ} (keeps : ∀ unit, done unit state.shared → done unit shared)
    (own : next.Undisturbed (done · shared) state.workers.length number) (other : Nat)
    (worker : Worker ε) (there : (state.workers.set number next)[other]? = some worker) :
    worker.Undisturbed (done · shared) (state.workers.set number next).length other := by
  rw [List.length_set]
  rw [List.getElem?_set] at there
  by_cases same : number = other
  · subst same
    rw [if_pos rfl] at there
    split at there
    · obtain rfl := Option.some.inj there
      exact own
    · cases there
  · rw [if_neg same] at there
    exact (calm.workers other worker there).imp keeps

theorem move (calm : state.Undisturbed phase invariant done) (succeeds : phase.Succeeds invariant done)
    (quiet : observer.Quiet) {turn : Turn} (noHalt : turn ≠ .halt) {after : PhaseState σ ε}
    (moves : Move observer phase state turn after) : after.Undisturbed phase invariant done := by
  have striped := moves.striped calm.striped
  cases moves with
  | idle nobody => exact calm
  | @begin number unit here inside going =>
      have worker := calm.workers number _ here
      exact ⟨calm.free, calm.notice, striped, calm.holds,
        calm.workers_set (fun _ part => part) ⟨by simp, worker.passed, by simp⟩⟩
  | @leave number unit stage here free going =>
      have worker := calm.workers number _ here
      have behind : phase.count ≤ unit := by
        rcases free with behind | ⟨-, stopped⟩
        · exact behind
        · rw [calm.isStopped_eq] at stopped
          cases stopped
      refine ⟨calm.free, calm.notice, striped, calm.holds,
        calm.workers_set (fun _ part => part) ⟨?_, worker.passed, by simp⟩⟩
      rintro failure ⟨rfl⟩
      exact ⟨rfl, behind⟩
  | @work number unit here =>
      have worker := calm.workers number _ here
      have failure := succeeds.failure unit state.shared calm.holds
      have keeps : ∀ other, done other state.shared →
          done other (phase.work unit state.shared).shared :=
        fun other => succeeds.keeps unit other state.shared calm.holds
      refine ⟨?_, calm.notice, striped, succeeds.holds unit state.shared calm.holds,
        calm.workers_set keeps ⟨?_, ?_, ?_⟩⟩
      · show (state.halted || (phase.work unit state.shared).halts) = false
        rw [calm.free, succeeds.halts unit state.shared calm.holds, Bool.false_or]
      · simp [failure, WorkerStage.afterWork]
      · exact fun other own before => keeps other (worker.passed other own before)
      · rintro other same -
        rw [Fin.ext same]
        exact succeeds.finishes unit state.shared calm.holds
  | @report number unit here =>
      have worker := calm.workers number _ here
      have own : unit % state.workers.length = number := calm.striped number _ here
      refine ⟨?_, calm.notice, striped, calm.holds,
        calm.workers_set (fun _ part => part) ⟨by simp, ?_, by simp⟩⟩
      · show (state.halted || observer _) = false
        rw [calm.free, quiet, Bool.false_or]
      · intro other same before
        -- units of one stripe are a whole stride apart
        have le : other.1 ≤ unit :=
          Nat.ModEq.le_of_lt_add (same.trans own.symm) before
        rcases le.lt_or_eq with earlier | equal
        · exact worker.passed other same earlier
        · exact worker.current other equal rfl
  | @interruption number unit first here =>
      have ended := (calm.workers number _ here).ended _ rfl
      cases ended.1
  | @failure number unit e first here =>
      have ended := (calm.workers number _ here).ended _ rfl
      cases ended.1
  | halt => exact absurd rfl noHalt

theorem turns (calm : state.Undisturbed phase invariant done) (succeeds : phase.Succeeds invariant done)
    (quiet : observer.Quiet) {schedule : List Turn} (noHalt : Turn.halt ∉ schedule) :
    (state.turns observer phase schedule).Undisturbed phase invariant done := by
  refine turns_induction schedule calm fun turn member before after calm moves => ?_
  refine calm.move succeeds quiet ?_ moves
  rintro rfl
  exact noHalt member

end PhaseState.Undisturbed

namespace Pool

variable {pool : Pool} {phase : Phase σ ε} {invariant : σ → Prop} {done : Fin phase.count → σ → Prop}
  {observer : Observer} {schedule : Schedule} {shared : σ}

theorem start_undisturbed (free : pool.halted = false) (quiet : observer.Quiet)
    (first : invariant shared) :
    (pool.start observer phase shared).Undisturbed phase invariant done where
  free := by
    show (pool.halted || observer _) = false
    rw [free, quiet, Bool.false_or]
  notice := rfl
  striped := striped_start observer phase pool shared
  holds := first
  workers number worker here := by
    obtain ⟨inside, equal⟩ := List.getElem?_eq_some_iff.mp here
    simp only [workers_start, List.getElem_map, List.getElem_range] at equal
    subst equal
    rw [length_workers_start] at inside ⊢
    refine ⟨by simp, ?_, by simp⟩
    intro unit own before
    have small : unit.1 < workerCount pool.threads phase.count := before.trans inside
    rw [Nat.mod_eq_of_lt small] at own
    exact absurd own before.ne

theorem halt_notMem_finishingTurns (workers units : Nat) :
    Turn.halt ∉ finishingTurns workers units := by
  simp [finishingTurns, List.mem_flatMap, List.mem_replicate]

theorem final_undisturbed (free : pool.halted = false) (quiet : observer.Quiet)
    (calm : schedule.Quiet) (succeeds : phase.Succeeds invariant done) (first : invariant shared) :
    (pool.final observer schedule phase shared).Undisturbed phase invariant done := by
  refine (start_undisturbed free quiet first).turns succeeds quiet ?_
  intro member
  rcases List.mem_append.mp member with during | finishing
  · exact calm.during during
  · exact halt_notMem_finishingTurns _ _ finishing

theorem final_done (positive : 1 ≤ pool.threads) (free : pool.halted = false)
    (quiet : observer.Quiet) (calm : schedule.Quiet) (succeeds : phase.Succeeds invariant done)
    (first : invariant shared) (unit : Fin phase.count) :
    done unit (pool.final observer schedule phase shared).shared := by
  have final := final_undisturbed free quiet calm succeeds first
  have length := length_workers_final observer phase pool schedule shared
  have some : 0 < workerCount pool.threads phase.count := lt_min positive (Nat.zero_lt_of_lt unit.2)
  have inside : unit % workerCount pool.threads phase.count <
      (pool.final observer schedule phase shared).workers.length := by
    rw [length]
    exact Nat.mod_lt _ some
  have worker := final.workers _ _ (List.getElem?_eq_getElem inside)
  obtain ⟨failure, ended⟩ :=
    ended_of_mem_workers observer phase pool schedule shared (List.getElem_mem inside)
  -- its worker has ended, which an undisturbed worker does only behind its last unit
  have behind := (worker.ended failure ended).2
  exact worker.passed unit (by rw [length]) (unit.2.trans_le behind)

theorem run_undisturbed (positive : 1 ≤ pool.threads) (free : pool.halted = false)
    (quiet : observer.Quiet) (calm : schedule.Quiet) (succeeds : phase.Succeeds invariant done)
    (shared : σ) (first : invariant shared) :
    let ending := pool.run observer schedule phase shared
    ending.error = none ∧ ending.pool.halted = false ∧ ending.pool.threads = pool.threads ∧
      invariant ending.shared ∧ ∀ unit, done unit ending.shared := by
  have final := final_undisturbed free quiet calm succeeds first
  have concluded : pool.conclude phase (pool.final observer schedule phase shared) =
      { pool := { pool with
          halted := false
          progress := (pool.final observer schedule phase shared).progress.finish
          journal := (pool.final observer schedule phase shared).journal.log .debug
            s!"Phase {phase.name} finished" }
        shared := (pool.final observer schedule phase shared).shared
        error := none } := by
    simp only [conclude, final.notice, final.free, Bool.false_eq_true, if_false]
  rw [run_eq free calm.before, concluded]
  exact ⟨rfl, rfl, rfl, final.holds, final_done positive free quiet calm succeeds first⟩

end Pool

end SourceSimilarity
