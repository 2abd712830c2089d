import SourceSimilarity.Proofs.Scan.Visit

/-!
Who did what in a phase, in the order of the turns: units are begun and finished by workers,
failures are noticed by the pool, and the scan is halted by a unit, by who sees a report, or from
outside. The history is read off the turns alone; what the state of the phase keeps is the account
of it.
-/

namespace SourceSimilarity

variable {σ ε : Type}

/-! ## Events -/

/-- What happens in a phase: it is started, a worker begins a unit, which may halt the scan or fail,
a worker reports a unit as finished, the pool notices a failure, or the scan is halted from
outside. -/
inductive PhaseEvent (ε : Type) where
  | started (report : ProgressReport)
  | begun (unit worker : Nat) (halts : Bool) (failure : Option (UnitFailure ε))
  | finished (unit worker : Nat) (report : ProgressReport)
  | noticed (failure : UnitFailure ε)
  | halted
deriving DecidableEq

def UnitFailure.notice : UnitFailure ε → Notice ε
  | .interrupted => .interrupted
  | .raised e => .raised e

namespace PhaseEvent

def begun? : PhaseEvent ε → Option (Nat × Nat)
  | .begun unit worker _ _ => some (unit, worker)
  | _ => none

def finished? : PhaseEvent ε → Option (Nat × Nat)
  | .finished unit worker _ => some (unit, worker)
  | _ => none

def report? : PhaseEvent ε → Option ProgressReport
  | .started report | .finished _ _ report => some report
  | _ => none

def failure? : PhaseEvent ε → Option (UnitFailure ε)
  | .begun _ _ _ failure => failure
  | _ => none

def halts (observer : Observer) : PhaseEvent ε → Bool
  | .started report | .finished _ _ report => observer report
  | .begun _ _ halts _ => halts
  | .noticed _ => false
  | .halted => true

end PhaseEvent

def begunIn (history : List (PhaseEvent ε)) : List (Nat × Nat) :=
  history.filterMap PhaseEvent.begun?

def finishedIn (history : List (PhaseEvent ε)) : List (Nat × Nat) :=
  history.filterMap PhaseEvent.finished?

def reportsIn (history : List (PhaseEvent ε)) : List ProgressReport :=
  history.filterMap PhaseEvent.report?

def failuresIn (history : List (PhaseEvent ε)) : List (UnitFailure ε) :=
  history.filterMap PhaseEvent.failure?

/-- Whether the scan is halted by anyone but the pool. -/
def HaltedIn (observer : Observer) (history : List (PhaseEvent ε)) : Prop :=
  ∃ event ∈ history, event.halts observer = true

def finishedBy (number : Nat) (history : List (PhaseEvent ε)) : List Nat :=
  (finishedIn history).filterMap fun (unit, worker) => if worker = number then some unit else none

section Append

variable (first second : List (PhaseEvent ε))

theorem begunIn_append : begunIn (first ++ second) = begunIn first ++ begunIn second :=
  List.filterMap_append

theorem finishedIn_append : finishedIn (first ++ second) = finishedIn first ++ finishedIn second :=
  List.filterMap_append

theorem reportsIn_append : reportsIn (first ++ second) = reportsIn first ++ reportsIn second :=
  List.filterMap_append

theorem failuresIn_append : failuresIn (first ++ second) = failuresIn first ++ failuresIn second :=
  List.filterMap_append

theorem finishedBy_append (number : Nat) :
    finishedBy number (first ++ second) = finishedBy number first ++ finishedBy number second := by
  rw [finishedBy, finishedIn_append, List.filterMap_append]
  rfl

theorem haltedIn_append (observer : Observer) :
    HaltedIn observer (first ++ second) ↔ HaltedIn observer first ∨ HaltedIn observer second := by
  simp only [HaltedIn, List.mem_append, or_and_right, exists_or]

end Append

/-- The units of a worker among the first ones. -/
def stripe (workers number count : Nat) : List Nat :=
  (List.range count).filter (· % workers = number)

theorem stripe_succ {workers number unit count : Nat} (own : unit % workers = number)
    (inside : unit < count) (near : count ≤ unit + workers) :
    stripe workers number count = stripe workers number unit ++ [unit] := by
  obtain ⟨more, rfl⟩ := Nat.exists_eq_add_of_le (Nat.succ_le_of_lt inside)
  rw [stripe, List.range_add, List.filter_append, List.range_succ, List.filter_append]
  have last : [unit].filter (· % workers = number) = [unit] := by simp [own]
  have others : ((List.range more).map (unit.succ + ·)).filter (· % workers = number) = [] := by
    refine List.filter_eq_nil_iff.mpr fun other member => ?_
    obtain ⟨beyond, small, rfl⟩ := List.mem_map.mp member
    rw [List.mem_range] at small
    -- units of one stripe are a whole stride apart
    intro same
    have close : unit + 1 + beyond < unit + workers := by omega
    have apart := Nat.ModEq.le_of_lt_add ((of_decide_eq_true same).trans own.symm) close
    omega
  rw [last, others, List.append_nil]
  rfl

namespace PhaseState

/-! ## Turns and events -/

def workerEvent? (phase : Phase σ ε) (number : Nat) (state : PhaseState σ ε) :
    Option (PhaseEvent ε) :=
  match state.workers[number]? with
  | some ⟨unit, .working⟩ =>
    if inside : unit < phase.count then
      let outcome := phase.work ⟨unit, inside⟩ state.shared
      some (.begun unit number outcome.halts outcome.failure)
    else none
  | some ⟨unit, .reporting⟩ => some (.finished unit number (state.progress.advance 1).report)
  | _ => none

def noticeEvent? (number : Nat) (state : PhaseState σ ε) : Option (PhaseEvent ε) :=
  match state.notice, state.workers[number]? with
  | .nothing, some ⟨_, .ended (some failure)⟩ => some (.noticed failure)
  | _, _ => none

def event? (phase : Phase σ ε) (state : PhaseState σ ε) : Turn → Option (PhaseEvent ε)
  | .worker number => state.workerEvent? phase number
  | .notice number => state.noticeEvent? number
  | .halt => some .halted

def history (observer : Observer) (phase : Phase σ ε) (state : PhaseState σ ε) :
    List Turn → List (PhaseEvent ε)
  | [] => []
  | turn :: turns =>
    (state.event? phase turn).toList ++
      history observer phase (state.turn observer phase turn) turns

/-- What an event makes of a phase. -/
inductive Happens (observer : Observer) (phase : Phase σ ε) (state : PhaseState σ ε) :
    Option (PhaseEvent ε) → PhaseState σ ε → Prop
  | nothing : Happens observer phase state none state
  | going {number unit : Nat} {stage next : WorkerStage ε}
      (here : state.workers[number]? = some ⟨unit, stage⟩)
      (unfailed : ∀ failure, stage ≠ .ended failure)
      (next_eq : next = .working ∨ next = .ended none) :
      Happens observer phase state none (state.setWorker number unit next)
  | begins {number : Nat} (unit : Fin phase.count)
      (here : state.workers[number]? = some ⟨unit, .working⟩) :
      Happens observer phase state
        (some (.begun unit number (phase.work unit state.shared).halts
          (phase.work unit state.shared).failure))
        (state.worked phase number unit)
  | finishes {number unit : Nat} (here : state.workers[number]? = some ⟨unit, .reporting⟩) :
      Happens observer phase state
        (some (.finished unit number (state.progress.advance 1).report))
        (state.finishUnit observer number unit)
  | interruption {number unit : Nat} (first : state.notice = .nothing)
      (here : state.workers[number]? = some ⟨unit, .ended (some .interrupted)⟩) :
      Happens observer phase state (some (.noticed .interrupted)) { state with
        notice := .interrupted
        halted := true
        journal := state.journal.log .info "Interrupted, stopping workers" }
  | failure {number unit : Nat} {e : ε} (first : state.notice = .nothing)
      (here : state.workers[number]? = some ⟨unit, .ended (some (.raised e))⟩) :
      Happens observer phase state (some (.noticed (.raised e))) { state with notice := .raised e }
  | halt : Happens observer phase state (some .halted) { state with halted := true }

variable {observer : Observer} {phase : Phase σ ε} {state after : PhaseState σ ε}
  {event : Option (PhaseEvent ε)}

theorem workerTurn_happens (number : Nat) :
    Happens observer phase state (state.workerEvent? phase number)
      (state.workerTurn observer phase number) := by
  unfold workerEvent? workerTurn
  cases here : state.workers[number]? with
  | none => exact .nothing
  | some worker =>
      obtain ⟨unit, stage⟩ := worker
      cases stage with
      | looking =>
          show Happens observer phase state none (state.look phase number unit)
          unfold look
          split
          · exact .going here (by simp) (.inl rfl)
          · exact .going here (by simp) (.inr rfl)
      | working =>
          by_cases inside : unit < phase.count
          · simp only [inside, dif_pos]
            rw [work_eq inside]
            exact .begins ⟨unit, inside⟩ here
          · simp only [inside, dif_neg, not_false_eq_true, PhaseState.work]
            exact .going here (by simp) (.inr rfl)
      | reporting => exact .finishes here
      | ended failure => exact .nothing

theorem noticeTurn_happens (number : Nat) :
    Happens observer phase state (state.noticeEvent? number) (state.noticeTurn number) := by
  unfold noticeEvent? noticeTurn
  cases noticed : state.notice with
  | interrupted => exact .nothing
  | raised e => exact .nothing
  | nothing =>
      cases here : state.workers[number]? with
      | none => exact .nothing
      | some worker =>
          obtain ⟨unit, stage⟩ := worker
          match stage, here with
          | .looking, _ | .working, _ | .reporting, _ | .ended none, _ => exact .nothing
          | .ended (some .interrupted), here => exact .interruption noticed here
          | .ended (some (.raised e)), here => exact .failure noticed here

theorem turn_happens (turn : Turn) :
    Happens observer phase state (state.event? phase turn) (state.turn observer phase turn) := by
  cases turn with
  | worker number => exact workerTurn_happens number
  | notice number => exact noticeTurn_happens number
  | halt => exact .halt

theorem history_induction {motive : List (PhaseEvent ε) → PhaseState σ ε → Prop}
    {past : List (PhaseEvent ε)} (turns : List Turn) (first : motive past state)
    (step : ∀ past before turn, motive past before →
      motive (past ++ (before.event? phase turn).toList) (before.turn observer phase turn)) :
    motive (past ++ state.history observer phase turns) (state.turns observer phase turns) := by
  induction turns generalizing past state with
  | nil =>
      rw [history, List.append_nil]
      exact first
  | cons turn turns ih =>
      rw [history, ← List.append_assoc]
      exact ih (step past state turn first)

/-! ## What an event changes -/

theorem getElem?_set_cases {α : Type} {items : List α} {place other : Nat} {item found : α}
    (there : (items.set place item)[other]? = some found) :
    place = other ∧ found = item ∨ place ≠ other ∧ items[other]? = some found := by
  rw [List.getElem?_set] at there
  split_ifs at there with same inside
  · exact .inl ⟨same, (Option.some.inj there).symm⟩
  · exact .inr ⟨same, there⟩

namespace Happens

theorem begun_eq (happens : Happens observer phase state event after) :
    after.begun.toList = state.begun.toList ++ begunIn event.toList := by
  cases happens with
  | nothing => exact (List.append_nil _).symm
  | going here unfailed next_eq => exact (List.append_nil _).symm
  | begins unit here => exact Array.toList_push
  | finishes here => exact (List.append_nil _).symm
  | interruption first here => exact (List.append_nil _).symm
  | failure first here => exact (List.append_nil _).symm
  | halt => exact (List.append_nil _).symm

theorem reports_eq (happens : Happens observer phase state event after) :
    after.journal.reports = state.journal.reports ++ reportsIn event.toList := by
  cases happens with
  | nothing => exact (List.append_nil _).symm
  | going here unfailed next_eq => exact (List.append_nil _).symm
  | begins unit here => exact (Journal.reports_logAll _ _).trans (List.append_nil _).symm
  | finishes here => exact Journal.reports_push _ _
  | interruption first here => exact (Journal.reports_log _ _ _).trans (List.append_nil _).symm
  | failure first here => exact (List.append_nil _).symm
  | halt => exact (List.append_nil _).symm

theorem length_reports (happens : Happens observer phase state event after) :
    (reportsIn event.toList).length = (finishedIn event.toList).length := by
  cases happens with
  | nothing => rfl
  | going here unfailed next_eq => rfl
  | begins unit here => rfl
  | finishes here => rfl
  | interruption first here => rfl
  | failure first here => rfl
  | halt => rfl

theorem halted_iff (happens : Happens observer phase state event after) :
    after.halted = true ↔ state.halted = true ∨ HaltedIn observer event.toList ∨
      .noticed .interrupted ∈ event.toList := by
  cases happens with
  | nothing => simp [HaltedIn]
  | going here unfailed next_eq => simp [HaltedIn, setWorker]
  | begins unit here => simp [HaltedIn, worked, PhaseEvent.halts]
  | finishes here => simp [HaltedIn, finishUnit, setWorker, tell, PhaseEvent.halts]
  | interruption first here => simp
  | failure first here => simp [HaltedIn, PhaseEvent.halts]
  | halt => simp [HaltedIn, PhaseEvent.halts]

theorem failures_of_set {number unit : Nat} {stage : WorkerStage ε} {next : Worker ε}
    (here : state.workers[number]? = some ⟨unit, stage⟩)
    (unfailed : ∀ failure, stage ≠ .ended failure)
    (set : after.workers = state.workers.set number next) (failure : UnitFailure ε) :
    failure ∈ after.failures ↔ failure ∈ state.failures ∨ next.stage = .ended (some failure) := by
  obtain ⟨inside, -⟩ := List.getElem?_eq_some_iff.mp here
  simp only [mem_failures, set]
  constructor
  · rintro ⟨last, member⟩
    refine (List.mem_or_eq_of_mem_set member).imp (fun earlier => ⟨last, earlier⟩) ?_
    exact fun same => (congrArg Worker.stage same).symm
  · rintro (⟨last, member⟩ | ended)
    · exact ⟨last, mem_set_of_ended here (unfailed _) member⟩
    · exact ⟨next.unit, ended ▸ List.mem_set inside _⟩

theorem mem_failures (happens : Happens observer phase state event after)
    (failure : UnitFailure ε) :
    failure ∈ after.failures ↔ failure ∈ state.failures ∨ failure ∈ failuresIn event.toList := by
  cases happens with
  | nothing => simp [failuresIn]
  | going here unfailed next_eq =>
      rw [failures_of_set here unfailed rfl]
      rcases next_eq with rfl | rfl
      · simp [failuresIn]
      · simp [failuresIn]
  | begins unit here =>
      rw [failures_of_set here (by simp) rfl]
      cases fails : (phase.work unit state.shared).failure with
      | none => simp [failuresIn, PhaseEvent.failure?, WorkerStage.afterWork]
      | some own => simp [failuresIn, PhaseEvent.failure?, WorkerStage.afterWork, eq_comm]
  | finishes here =>
      rw [failures_of_set here (by simp) rfl]
      simp [failuresIn, PhaseEvent.failure?]
  | interruption first here => simp [failures, failuresIn, PhaseEvent.failure?]
  | failure first here => simp [failures, failuresIn, PhaseEvent.failure?]
  | halt => simp [failures, failuresIn, PhaseEvent.failure?]

theorem notice_iff (happens : Happens observer phase state event after) (failure : UnitFailure ε) :
    after.notice = failure.notice ↔
      state.notice = failure.notice ∨ .noticed failure ∈ event.toList := by
  cases happens with
  | nothing => simp
  | going here unfailed next_eq => simp [setWorker]
  | begins unit here => simp [worked]
  | finishes here => simp [finishUnit, setWorker, tell]
  | interruption first here => cases failure <;> simp [first, UnitFailure.notice]
  | failure first here => cases failure <;> simp [first, UnitFailure.notice, eq_comm]
  | halt => simp

theorem mem_of_noticed (happens : Happens observer phase state event after)
    {failure : UnitFailure ε} (noticed : .noticed failure ∈ event.toList) :
    failure ∈ state.failures := by
  cases happens with
  | nothing => cases noticed
  | going here unfailed next_eq => cases noticed
  | begins unit here => simp at noticed
  | finishes here => simp at noticed
  | interruption first here =>
      obtain rfl : failure = .interrupted := by simpa using noticed
      exact PhaseState.mem_failures.mpr ⟨_, List.mem_of_getElem? here⟩
  | @failure _ _ e first here =>
      obtain rfl : failure = .raised e := by simpa using noticed
      exact PhaseState.mem_failures.mpr ⟨_, List.mem_of_getElem? here⟩
  | halt => simp at noticed

theorem of_begun (happens : Happens observer phase state event after) {unit number : Nat}
    (begun : (unit, number) ∈ begunIn event.toList) :
    state.workers[number]? = some ⟨unit, .working⟩ := by
  cases happens with
  | nothing => cases begun
  | going here unfailed next_eq => cases begun
  | begins own here =>
      obtain ⟨rfl, rfl⟩ : unit = own ∧ number = _ := by
        simpa [begunIn, PhaseEvent.begun?] using begun
      exact here
  | finishes here => simp [begunIn, PhaseEvent.begun?] at begun
  | interruption first here => simp [begunIn, PhaseEvent.begun?] at begun
  | failure first here => simp [begunIn, PhaseEvent.begun?] at begun
  | halt => simp [begunIn, PhaseEvent.begun?] at begun

theorem of_finished (happens : Happens observer phase state event after) {unit number : Nat}
    (finished : (unit, number) ∈ finishedIn event.toList) :
    state.workers[number]? = some ⟨unit, .reporting⟩ := by
  cases happens with
  | nothing => cases finished
  | going here unfailed next_eq => cases finished
  | begins own here => simp [finishedIn, PhaseEvent.finished?] at finished
  | finishes here =>
      obtain ⟨rfl, rfl⟩ : unit = _ ∧ number = _ := by
        simpa [finishedIn, PhaseEvent.finished?] using finished
      exact here
  | interruption first here => simp [finishedIn, PhaseEvent.finished?] at finished
  | failure first here => simp [finishedIn, PhaseEvent.finished?] at finished
  | halt => simp [finishedIn, PhaseEvent.finished?] at finished

theorem reporting_cases (happens : Happens observer phase state event after) {number unit : Nat}
    (there : after.workers[number]? = some ⟨unit, .reporting⟩) :
    state.workers[number]? = some ⟨unit, .reporting⟩ ∨ (unit, number) ∈ begunIn event.toList := by
  cases happens with
  | nothing => exact .inl there
  | going here unfailed next_eq =>
      rcases getElem?_set_cases there with ⟨-, same⟩ | ⟨-, known⟩
      · obtain rfl := congrArg Worker.stage same
        simp at next_eq
      · exact .inl known
  | begins own here =>
      rcases getElem?_set_cases there with ⟨rfl, same⟩ | ⟨-, known⟩
      · obtain rfl : unit = own := congrArg Worker.unit same
        exact .inr (by simp [begunIn, PhaseEvent.begun?])
      · exact .inl known
  | finishes here =>
      rcases getElem?_set_cases there with ⟨-, same⟩ | ⟨-, known⟩
      · cases congrArg Worker.stage same
      · exact .inl known
  | interruption first here => exact .inl there
  | failure first here => exact .inl there
  | halt => exact .inl there

/-- A worker moves on by finishing its unit, and in no other way. -/
theorem worker_cases (happens : Happens observer phase state event after) {number : Nat}
    {next : Worker ε} (there : after.workers[number]? = some next) :
    ∃ worker, state.workers[number]? = some worker ∧
      (next.unit = worker.unit ∧ finishedBy number event.toList = [] ∨
        worker.stage = .reporting ∧ next.unit = worker.unit + state.workers.length ∧
          finishedBy number event.toList = [worker.unit]) := by
  cases happens with
  | nothing => exact ⟨next, there, .inl ⟨rfl, rfl⟩⟩
  | going here unfailed next_eq =>
      rcases getElem?_set_cases there with ⟨rfl, rfl⟩ | ⟨-, known⟩
      · exact ⟨_, here, .inl ⟨rfl, rfl⟩⟩
      · exact ⟨next, known, .inl ⟨rfl, rfl⟩⟩
  | begins own here =>
      rcases getElem?_set_cases there with ⟨rfl, rfl⟩ | ⟨-, known⟩
      · exact ⟨_, here, .inl ⟨rfl, rfl⟩⟩
      · exact ⟨next, known, .inl ⟨rfl, rfl⟩⟩
  | finishes here =>
      rcases getElem?_set_cases there with ⟨rfl, rfl⟩ | ⟨differ, known⟩
      · exact ⟨_, here, .inr ⟨rfl, rfl, by simp [finishedBy, finishedIn, PhaseEvent.finished?]⟩⟩
      · refine ⟨next, known, .inl ⟨rfl, ?_⟩⟩
        simp [finishedBy, finishedIn, PhaseEvent.finished?, differ]
  | interruption first here => exact ⟨next, there, .inl ⟨rfl, rfl⟩⟩
  | failure first here => exact ⟨next, there, .inl ⟨rfl, rfl⟩⟩
  | halt => exact ⟨next, there, .inl ⟨rfl, rfl⟩⟩

end Happens

/-! ## The account and the history -/

/-- That a phase, which began with these reports and this shared state, has kept account of what has
happened in it. -/
structure Recorded (observer : Observer) (phase : Phase σ ε) (before : List ProgressReport)
    (first : σ) (history : List (PhaseEvent ε)) (state : PhaseState σ ε) : Prop where
  account : state.Accounted phase before first
  begun : state.begun.toList = begunIn history
  reports : state.journal.reports = before ++ reportsIn history
  length : (reportsIn history).length = (finishedIn history).length + 1
  halted : state.halted = true ↔ HaltedIn observer history ∨ .noticed .interrupted ∈ history
  failures : ∀ failure, failure ∈ state.failures ↔ failure ∈ failuresIn history
  notice : ∀ failure, state.notice = failure.notice ↔ .noticed failure ∈ history
  noticed : ∀ failure, .noticed failure ∈ history → failure ∈ failuresIn history
  own : ∀ unit number, (unit, number) ∈ begunIn history → number = unit % state.workers.length
  reporting : ∀ (number unit : Nat), state.workers[number]? = some ⟨unit, .reporting⟩ →
    (unit, number) ∈ begunIn history
  finished : finishedIn history ⊆ begunIn history
  stripes : ∀ (number : Nat) (worker : Worker ε), state.workers[number]? = some worker →
    finishedBy number history =
      stripe state.workers.length number (min worker.unit phase.count)

namespace Recorded

variable {before : List ProgressReport} {first : σ} {history : List (PhaseEvent ε)}

theorem turn (recorded : state.Recorded observer phase before first history) (turn : Turn) :
    (state.turn observer phase turn).Recorded observer phase before first
      (history ++ (state.event? phase turn).toList) := by
  have moves : Move observer phase state turn (state.turn observer phase turn) := turn_move turn
  have happens : Happens observer phase state (state.event? phase turn)
    (state.turn observer phase turn) := turn_happens turn
  exact {
    account := recorded.account.move moves
    begun := by rw [happens.begun_eq, recorded.begun, begunIn_append]
    reports := by rw [happens.reports_eq, recorded.reports, reportsIn_append, List.append_assoc]
    length := by
      rw [reportsIn_append, finishedIn_append, List.length_append, List.length_append,
        recorded.length, happens.length_reports]
      omega
    halted := by
      rw [happens.halted_iff, recorded.halted, haltedIn_append, List.mem_append]
      tauto
    failures := by
      intro failure
      rw [happens.mem_failures, recorded.failures, failuresIn_append, List.mem_append]
    notice := by
      intro failure
      rw [happens.notice_iff, recorded.notice, List.mem_append]
    noticed := by
      intro failure noticed
      rw [failuresIn_append, List.mem_append]
      refine .inl ?_
      rcases List.mem_append.mp noticed with earlier | now
      · exact recorded.noticed failure earlier
      · exact (recorded.failures failure).mp (happens.mem_of_noticed now)
    own := by
      intro unit number begun
      rw [moves.length_workers]
      rw [begunIn_append, List.mem_append] at begun
      rcases begun with earlier | now
      · exact recorded.own unit number earlier
      · exact (recorded.account.striped number _ (happens.of_begun now)).symm
    reporting := by
      intro number unit there
      rw [begunIn_append, List.mem_append]
      exact (happens.reporting_cases there).imp_left (recorded.reporting number unit)
    finished := by
      rw [finishedIn_append, begunIn_append]
      refine List.append_subset.mpr ⟨fun entry earlier => ?_, fun entry now => ?_⟩
      · exact List.mem_append_left _ (recorded.finished earlier)
      · exact List.mem_append_left _ (recorded.reporting _ _ (happens.of_finished now))
    stripes := by
      intro number next there
      obtain ⟨worker, here, same | ⟨reporting, unit, finished⟩⟩ := happens.worker_cases there
      · rw [finishedBy_append, same.2, List.append_nil, recorded.stripes number worker here, same.1,
          moves.length_workers]
      · -- the worker moves on by a stride, past just one unit of its stripe
        obtain ⟨own, stage⟩ := worker
        obtain rfl : stage = .reporting := reporting
        have inside : own < phase.count := recorded.account.inside number own here
        have striped : own % state.workers.length = number := recorded.account.striped number _ here
        have positive := Nat.zero_lt_of_lt (List.getElem?_eq_some_iff.mp here).1
        rw [finishedBy_append, finished, recorded.stripes number _ here, moves.length_workers, unit,
          stripe_succ striped (lt_min (by omega) inside) (min_le_left _ _)]
        rw [Nat.min_eq_left inside.le] }

end Recorded

theorem phasesCompleted_turns (turns : List Turn) :
    (state.turns observer phase turns).progress.phasesCompleted =
      state.progress.phasesCompleted := by
  refine turns_induction
    (motive := fun after => after.progress.phasesCompleted = state.progress.phasesCompleted)
    turns rfl ?_
  intro turn _ before after same moves
  rw [← same]
  cases moves with
  | idle nobody => rfl
  | begin here inside going => rfl
  | leave here free going => rfl
  | work unit here => rfl
  | report here => rfl
  | interruption first here => rfl
  | failure first here => rfl
  | halt => rfl

end PhaseState

/-! ## A whole phase -/

namespace Pool

/-- What happens in a phase: nothing when the scan is halted already. -/
def history (pool : Pool) (observer : Observer) (schedule : Schedule) (phase : Phase σ ε)
    (shared : σ) : List (PhaseEvent ε) :=
  if pool.halted || schedule.haltedBefore then []
  else
    .started (pool.progress.start phase.name phase.count).report ::
      (pool.start observer phase shared).history observer phase
        (schedule.turns ++ finishingTurns (workerCount pool.threads phase.count) phase.count)

variable {observer : Observer} {phase : Phase σ ε} {pool : Pool} {schedule : Schedule}

theorem start_recorded (free : pool.halted = false) (shared : σ) :
    (pool.start observer phase shared).Recorded observer phase pool.journal.reports shared
      [.started (pool.progress.start phase.name phase.count).report] where
  account := start_accounted pool shared
  begun := rfl
  reports := reports_start observer phase pool shared
  length := rfl
  halted := by
    show (pool.halted || observer _) = true ↔ _
    simp [free, HaltedIn, PhaseEvent.halts]
  failures failure := by
    rw [PhaseState.mem_failures, workers_start]
    simp [failuresIn, PhaseEvent.failure?]
  notice failure := by
    show Notice.nothing = _ ↔ _
    cases failure <;> simp [UnitFailure.notice]
  noticed failure noticed := by simp at noticed
  own unit number begun := by cases begun
  reporting number unit there := by
    have looking := List.mem_of_getElem? there
    rw [workers_start] at looking
    simp at looking
  finished := List.nil_subset _
  stripes number worker here := by
    obtain ⟨inside, equal⟩ := List.getElem?_eq_some_iff.mp here
    simp only [workers_start, List.getElem_map, List.getElem_range] at equal
    subst equal
    rw [length_workers_start] at inside ⊢
    refine (List.filter_eq_nil_iff.mpr fun unit member => ?_).symm
    have small : unit < number := (List.mem_range.mp member).trans_le (Nat.min_le_left _ _)
    rw [Nat.mod_eq_of_lt (small.trans inside)]
    simpa using small.ne

theorem final_recorded (observer : Observer) (phase : Phase σ ε) (free : pool.halted = false)
    (begun : schedule.haltedBefore = false) (shared : σ) :
    (pool.final observer schedule phase shared).Recorded observer phase pool.journal.reports shared
      (pool.history observer schedule phase shared) := by
  rw [history, free, begun]
  exact PhaseState.history_induction _ (start_recorded free shared) fun _ _ turn recorded =>
    recorded.turn turn

end Pool

end SourceSimilarity
