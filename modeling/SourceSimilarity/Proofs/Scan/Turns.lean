import SourceSimilarity.Scan.Pool
import Mathlib.Data.List.Nodup
import Mathlib.Data.Nat.ModEq
import Mathlib.Tactic.Ring

namespace SourceSimilarity

variable {σ ε : Type}

def WorkerStage.afterWork : Option (UnitFailure ε) → WorkerStage ε
  | none => .reporting
  | some failure => .ended (some failure)

namespace PhaseState

def worked (phase : Phase σ ε) (number : Nat) (unit : Fin phase.count) (state : PhaseState σ ε) :
    PhaseState σ ε :=
  let outcome := phase.work unit state.shared
  { state with
    shared := outcome.shared
    halted := state.halted || outcome.halts
    journal := state.journal.logAll outcome.lines
    workers := state.workers.set number ⟨unit, .afterWork outcome.failure⟩
    begun := state.begun.push (unit, number) }

theorem work_eq {phase : Phase σ ε} {number unit : Nat} (inside : unit < phase.count)
    (state : PhaseState σ ε) : state.work phase number unit = state.worked phase number ⟨unit, inside⟩ := by
  rw [work, dif_pos inside]
  cases failure : (phase.work ⟨unit, inside⟩ state.shared).failure with
  | none => simp only [failure, setWorker, worked, WorkerStage.afterWork]
  | some failure => simp only [failure, setWorker, worked, WorkerStage.afterWork]

/-- What a turn can do to a phase. -/
inductive Move (observer : Observer) (phase : Phase σ ε) (state : PhaseState σ ε) :
    Turn → PhaseState σ ε → Prop
  | idle {turn : Turn}
      (nobody : ∀ number worker, turn = .worker number → state.workers[number]? = some worker →
        ∃ failure, worker.stage = .ended failure) :
      Move observer phase state turn state
  | begin {number unit : Nat} (here : state.workers[number]? = some ⟨unit, .looking⟩)
      (inside : unit < phase.count) (going : state.isStopped = false) :
      Move observer phase state (.worker number) (state.setWorker number unit .working)
  | leave {number unit : Nat} {stage : WorkerStage ε}
      (here : state.workers[number]? = some ⟨unit, stage⟩)
      (free : phase.count ≤ unit ∨ stage = .looking ∧ state.isStopped = true)
      (going : ∀ failure, stage ≠ .ended failure) :
      Move observer phase state (.worker number) (state.setWorker number unit (.ended none))
  | work {number : Nat} (unit : Fin phase.count)
      (here : state.workers[number]? = some ⟨unit, .working⟩) :
      Move observer phase state (.worker number) (state.worked phase number unit)
  | report {number unit : Nat} (here : state.workers[number]? = some ⟨unit, .reporting⟩) :
      Move observer phase state (.worker number) (state.finishUnit observer number unit)
  | interruption {number unit : Nat} (first : state.notice = .nothing)
      (here : state.workers[number]? = some ⟨unit, .ended (some .interrupted)⟩) :
      Move observer phase state (.notice number) { state with
        notice := .interrupted
        halted := true
        journal := state.journal.log .info "Interrupted, stopping workers" }
  | failure {number unit : Nat} {e : ε} (first : state.notice = .nothing)
      (here : state.workers[number]? = some ⟨unit, .ended (some (.raised e))⟩) :
      Move observer phase state (.notice number) { state with notice := .raised e }
  | halt : Move observer phase state .halt { state with halted := true }

variable {observer : Observer} {phase : Phase σ ε} {state : PhaseState σ ε}

theorem workerTurn_move (number : Nat) :
    Move observer phase state (.worker number) (state.workerTurn observer phase number) := by
  unfold workerTurn
  cases here : state.workers[number]? with
  | none =>
      refine .idle fun other worker same found => ?_
      obtain rfl := Turn.worker.inj same
      rw [here] at found
      cases found
  | some worker =>
      obtain ⟨unit, stage⟩ := worker
      cases stage with
      | looking =>
          show Move observer phase state (.worker number) (state.look phase number unit)
          unfold look
          by_cases go : unit < phase.count ∧ ¬ state.isStopped
          · rw [if_pos go]
            exact .begin here go.1 (by simpa using go.2)
          · rw [if_neg go]
            refine .leave here ?_ (by simp)
            by_cases inside : unit < phase.count
            · exact .inr ⟨rfl, by simpa [inside] using go⟩
            · exact .inl (Nat.le_of_not_lt inside)
      | working =>
          by_cases inside : unit < phase.count
          · show Move observer phase state (.worker number) (state.work phase number unit)
            rw [work_eq inside]
            exact .work ⟨unit, inside⟩ here
          · show Move observer phase state (.worker number) (state.work phase number unit)
            rw [PhaseState.work, dif_neg inside]
            exact .leave here (.inl (Nat.le_of_not_lt inside)) (by simp)
      | reporting => exact .report here
      | ended failure =>
          refine .idle fun other worker same found => ?_
          obtain rfl := Turn.worker.inj same
          rw [here] at found
          obtain rfl := Option.some.inj found
          exact ⟨failure, rfl⟩

theorem noticeTurn_move (number : Nat) :
    Move observer phase state (.notice number) (state.noticeTurn number) := by
  unfold noticeTurn
  split
  · rename_i first here
    exact .interruption first here
  · rename_i first here
    exact .failure first here
  · exact .idle (by simp)

theorem turn_move (turn : Turn) : Move observer phase state turn (state.turn observer phase turn) := by
  cases turn with
  | worker number => exact workerTurn_move number
  | notice number => exact noticeTurn_move number
  | halt => exact .halt

theorem turns_induction {motive : PhaseState σ ε → Prop} (schedule : List Turn)
    (first : motive state)
    (step : ∀ turn ∈ schedule, ∀ before after, motive before →
      Move observer phase before turn after → motive after) :
    motive (state.turns observer phase schedule) := by
  induction schedule generalizing state with
  | nil => exact first
  | cons turn schedule ih =>
      refine ih (step turn List.mem_cons_self state _ first (turn_move turn)) ?_
      exact fun next member => step next (List.mem_cons_of_mem turn member)

/-- Every worker is at a unit of its own: those whose remainder by the number of workers is its
number. -/
def Striped (state : PhaseState σ ε) : Prop :=
  ∀ number worker, state.workers[number]? = some worker →
    worker.unit % state.workers.length = number

theorem Move.workers_eq {turn : Turn} {after : PhaseState σ ε}
    (move : Move observer phase state turn after) :
    after.workers = state.workers ∨ ∃ number worker next, turn = .worker number ∧
      state.workers[number]? = some worker ∧ after.workers = state.workers.set number next ∧
      (next.unit = worker.unit ∨ next.unit = worker.unit + state.workers.length) := by
  cases move with
  | idle nobody => exact .inl rfl
  | begin here inside going => exact .inr ⟨_, _, _, rfl, here, rfl, .inl rfl⟩
  | leave here free going => exact .inr ⟨_, _, _, rfl, here, rfl, .inl rfl⟩
  | work unit here => exact .inr ⟨_, _, _, rfl, here, rfl, .inl rfl⟩
  | report here => exact .inr ⟨_, _, _, rfl, here, rfl, .inr rfl⟩
  | interruption first here => exact .inl rfl
  | failure first here => exact .inl rfl
  | halt => exact .inl rfl

theorem Move.length_workers {turn : Turn} {after : PhaseState σ ε}
    (move : Move observer phase state turn after) :
    after.workers.length = state.workers.length := by
  rcases move.workers_eq with same | ⟨number, worker, next, -, -, set, -⟩
  · rw [same]
  · rw [set, List.length_set]

theorem Move.striped {turn : Turn} {after : PhaseState σ ε}
    (move : Move observer phase state turn after) (striped : state.Striped) : after.Striped := by
  rcases move.workers_eq with same | ⟨number, worker, next, -, here, set, unit⟩
  · unfold Striped
    rw [same]
    exact striped
  · intro other found there
    rw [move.length_workers]
    rw [set, List.getElem?_set] at there
    by_cases own : number = other
    · obtain ⟨inside, -⟩ := List.getElem?_eq_some_iff.mp here
      rw [if_pos own, if_pos inside] at there
      obtain rfl := Option.some.inj there
      subst own
      rcases unit with same | next
      · rw [same, striped number worker here]
      · rw [next, Nat.add_mod_right, striped number worker here]
    · rw [if_neg own] at there
      exact striped other found there

end PhaseState

def unitsLeft (stride count unit : Nat) : Nat := (count - unit + (stride - 1)) / stride

theorem unitsLeft_eq {stride count unit : Nat} (positive : 0 < stride) (inside : unit < count) :
    unitsLeft stride count unit = unitsLeft stride count (unit + stride) + 1 := by
  unfold unitsLeft
  by_cases more : unit + stride ≤ count
  · rw [show count - unit + (stride - 1) = count - (unit + stride) + (stride - 1) + stride by omega,
      Nat.add_div_right _ positive]
  · rw [show count - (unit + stride) = 0 by omega, Nat.zero_add,
      Nat.div_eq_of_lt (by omega : stride - 1 < stride)]
    exact Nat.div_eq_of_lt_le (by omega) (by omega)

/-- The number of turns after which a worker has ended at the latest. -/
def Worker.turnsLeft (stride count : Nat) (worker : Worker ε) : Nat :=
  match worker.stage with
  | .looking => 3 * unitsLeft stride count worker.unit + 1
  | .working => 3 * unitsLeft stride count (worker.unit + stride) + 3
  | .reporting => 3 * unitsLeft stride count (worker.unit + stride) + 2
  | .ended _ => 0

theorem Worker.ended_of_turnsLeft_eq_zero {stride count : Nat} {worker : Worker ε}
    (none : worker.turnsLeft stride count = 0) : ∃ failure, worker.stage = .ended failure := by
  obtain ⟨unit, stage⟩ := worker
  cases stage with
  | ended failure => exact ⟨failure, rfl⟩
  | looking => simp [turnsLeft] at none
  | working => simp [turnsLeft] at none
  | reporting => simp [turnsLeft] at none

namespace PhaseState

variable {observer : Observer} {phase : Phase σ ε} {state : PhaseState σ ε}

def turnsLeft (state : PhaseState σ ε) (count number : Nat) : Nat :=
  match state.workers[number]? with
  | some worker => worker.turnsLeft state.workers.length count
  | none => 0

theorem turnsLeft_of_set {after : PhaseState σ ε} {count number : Nat} {worker next : Worker ε}
    (here : state.workers[number]? = some worker)
    (set : after.workers = state.workers.set number next)
    (less : next.turnsLeft state.workers.length count <
      worker.turnsLeft state.workers.length count) (other : Nat) :
    after.turnsLeft count other ≤
      state.turnsLeft count other - if Turn.worker number = .worker other then 1 else 0 := by
  unfold turnsLeft
  obtain ⟨inside, -⟩ := List.getElem?_eq_some_iff.mp here
  rw [set, List.getElem?_set, List.length_set]
  by_cases own : number = other
  · subst own
    rw [if_pos rfl, if_pos rfl, if_pos inside, here]
    exact Nat.le_sub_one_of_lt less
  · rw [if_neg own, if_neg fun same => own (Turn.worker.inj same)]
    exact le_rfl

theorem Move.turnsLeft_le {turn : Turn} {after : PhaseState σ ε}
    (move : Move observer phase state turn after) (number : Nat) :
    after.turnsLeft phase.count number ≤
      state.turnsLeft phase.count number - if turn = .worker number then 1 else 0 := by
  cases move with
  | idle nobody =>
      by_cases own : turn = .worker number
      · cases here : state.workers[number]? with
        | none => simp [PhaseState.turnsLeft, here]
        | some worker =>
            obtain ⟨failure, ended⟩ := nobody number worker own here
            simp [PhaseState.turnsLeft, here, Worker.turnsLeft, ended]
      · rw [if_neg own]
        exact le_rfl
  | begin here inside going =>
      have positive := Nat.zero_lt_of_lt (List.getElem?_eq_some_iff.mp here).1
      refine turnsLeft_of_set here rfl ?_ number
      simp only [Worker.turnsLeft, unitsLeft_eq positive inside]
      omega
  | @leave own unit stage here free going =>
      refine turnsLeft_of_set here rfl ?_ number
      cases stage with
      | ended failure => exact absurd rfl (going failure)
      | looking => simp [Worker.turnsLeft]
      | working => simp [Worker.turnsLeft]
      | reporting => simp [Worker.turnsLeft]
  | work unit here =>
      refine turnsLeft_of_set here rfl ?_ number
      cases failure : (phase.work unit state.shared).failure with
      | none => simp [Worker.turnsLeft, WorkerStage.afterWork]
      | some failure => simp [Worker.turnsLeft, WorkerStage.afterWork]
  | report here =>
      refine turnsLeft_of_set here rfl ?_ number
      simp [Worker.turnsLeft]
  | interruption first here => exact Nat.le_refl _
  | failure first here => exact Nat.le_refl _
  | halt => exact Nat.le_refl _

variable (observer phase state)

theorem turns_append (first second : List Turn) :
    state.turns observer phase (first ++ second) =
      (state.turns observer phase first).turns observer phase second :=
  List.foldl_append

theorem turnsLeft_turns (schedule : List Turn) (number : Nat) :
    (state.turns observer phase schedule).turnsLeft phase.count number ≤
      state.turnsLeft phase.count number - schedule.count (.worker number) := by
  induction schedule generalizing state with
  | nil => exact le_rfl
  | cons turn schedule ih =>
      have move : Move observer phase state turn (state.turn observer phase turn) := turn_move turn
      have first := move.turnsLeft_le number
      have later := ih (state.turn observer phase turn)
      rw [List.count_cons]
      simp only [beq_iff_eq]
      change ((state.turn observer phase turn).turns observer phase schedule).turnsLeft _ _ ≤ _
      omega

theorem length_workers_turns (schedule : List Turn) :
    (state.turns observer phase schedule).workers.length = state.workers.length :=
  turns_induction (motive := fun after => after.workers.length = state.workers.length) schedule rfl
    fun _ _ _ _ same move => move.length_workers.trans same

end PhaseState

namespace Pool

variable {observer : Observer} {phase : Phase σ ε}

def final (pool : Pool) (observer : Observer) (schedule : Schedule) (phase : Phase σ ε)
    (shared : σ) : PhaseState σ ε :=
  (pool.start observer phase shared).turns observer phase
    (schedule.turns ++ finishingTurns (workerCount pool.threads phase.count) phase.count)

theorem run_eq {pool : Pool} {schedule : Schedule} (free : pool.halted = false)
    (begun : schedule.haltedBefore = false) (shared : σ) :
    pool.run observer schedule phase shared =
      pool.conclude phase (pool.final observer schedule phase shared) := by
  have unchanged : { pool with halted := pool.halted || schedule.haltedBefore } = pool := by
    rw [begun, Bool.or_false]
  rw [run, unchanged, if_neg (by simp [free]), final, PhaseState.turns_append]

variable (observer phase)

theorem workers_start (pool : Pool) (shared : σ) :
    (pool.start observer phase shared).workers =
      (List.range (workerCount pool.threads phase.count)).map (⟨·, .looking⟩) := rfl

theorem length_workers_start (pool : Pool) (shared : σ) :
    (pool.start observer phase shared).workers.length = workerCount pool.threads phase.count := by
  rw [workers_start, List.length_map, List.length_range]

theorem length_workers_final (pool : Pool) (schedule : Schedule) (shared : σ) :
    (pool.final observer schedule phase shared).workers.length =
      workerCount pool.threads phase.count := by
  rw [final, PhaseState.length_workers_turns, length_workers_start]

theorem striped_start (pool : Pool) (shared : σ) :
    (pool.start observer phase shared).Striped := by
  intro number worker here
  rw [length_workers_start]
  obtain ⟨inside, equal⟩ := List.getElem?_eq_some_iff.mp here
  rw [length_workers_start] at inside
  simp only [workers_start, List.getElem_map, List.getElem_range] at equal
  subst equal
  exact Nat.mod_eq_of_lt inside

theorem turnsLeft_start (pool : Pool) (shared : σ) {number : Nat}
    (inside : number < workerCount pool.threads phase.count) :
    (pool.start observer phase shared).turnsLeft phase.count number =
      3 * unitsLeft (workerCount pool.threads phase.count) phase.count number + 1 := by
  have here : (pool.start observer phase shared).workers[number]? = some ⟨number, .looking⟩ := by
    rw [workers_start, List.getElem?_map, List.getElem?_range inside, Option.map_some]
  simp only [PhaseState.turnsLeft, here, length_workers_start, Worker.turnsLeft]

theorem count_finishingTurns {workers : Nat} (units : Nat) {number : Nat}
    (inside : number < workers) :
    (finishingTurns workers units).count (.worker number) =
      3 * unitsLeft workers units number + 1 := by
  have none : ((List.range workers).map Turn.notice).count (.worker number) = 0 := by
    rw [List.count_eq_zero, List.mem_map]
    rintro ⟨other, -, same⟩
    cases same
  have one : ∀ numbers : List Nat, (numbers.flatMap fun own =>
      List.replicate (3 * unitsLeft workers units own + 1) (Turn.worker own)).count
        (.worker number) = numbers.count number * (3 * unitsLeft workers units number + 1) := by
    intro numbers
    induction numbers with
    | nil => simp
    | cons own numbers ih =>
        rw [List.flatMap_cons, List.count_append, ih, List.count_replicate, List.count_cons]
        by_cases same : own = number
        · subst same
          simp only [beq_self_eq_true, if_true]
          ring
        · simp [same]
  have once : (List.range workers).count number = 1 :=
    List.count_eq_one_of_mem List.nodup_range (List.mem_range.mpr inside)
  rw [finishingTurns, List.count_append, none, Nat.add_zero]
  exact (one _).trans (by rw [once, Nat.one_mul])

theorem ended_of_mem_workers (pool : Pool) (schedule : Schedule) (shared : σ) {worker : Worker ε}
    (member : worker ∈ (pool.final observer schedule phase shared).workers) :
    ∃ failure, worker.stage = .ended failure := by
  obtain ⟨number, inside, here⟩ := List.mem_iff_getElem.mp member
  have found := List.getElem?_eq_some_iff.mpr ⟨inside, here⟩
  have own : number < workerCount pool.threads phase.count := by
    rw [← length_workers_final observer phase pool schedule shared]
    exact inside
  -- the finishing turns of a worker are as many as it has left at the start
  have left := PhaseState.turnsLeft_turns observer phase (pool.start observer phase shared)
    (schedule.turns ++ finishingTurns (workerCount pool.threads phase.count) phase.count) number
  rw [turnsLeft_start observer phase pool shared own, List.count_append, count_finishingTurns _ own] at left
  have none : (pool.final observer schedule phase shared).turnsLeft phase.count number = 0 :=
    Nat.eq_zero_of_le_zero (left.trans (by omega))
  rw [PhaseState.turnsLeft, found] at none
  exact Worker.ended_of_turnsLeft_eq_zero none

end Pool

end SourceSimilarity
