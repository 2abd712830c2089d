import SourceSimilarity.Proofs.Scan.Division

namespace SourceSimilarity

variable {σ ε : Type}

namespace Progress

def following (phases : Nat) (progress : Progress) : Progress :=
  { progress with phasesCompleted := phases + progress.phasesCompleted }

end Progress

namespace PhaseState

def following (journal : Journal) (phases : Nat) (state : PhaseState σ ε) : PhaseState σ ε :=
  { state with journal := journal ++ state.journal, progress := state.progress.following phases }

variable {observer : Observer} {phase : Phase σ ε} {state : PhaseState σ ε} {journal : Journal}
  {phases : Nat}

theorem worked_following (number : Nat) (unit : Fin phase.count) :
    (state.following journal phases).worked phase number unit =
      (state.worked phase number unit).following journal phases := by
  simp only [worked, following, Journal.logAll, Array.append_assoc]

theorem workerTurn_following (number : Nat) :
    (state.following journal phases).workerTurn observer phase number =
      (state.workerTurn observer phase number).following journal phases := by
  have same : (state.following journal phases).workers = state.workers := rfl
  unfold workerTurn
  rw [same]
  cases state.workers[number]? with
  | none => rfl
  | some worker =>
      obtain ⟨unit, stage⟩ := worker
      cases stage with
      | looking =>
          show look _ _ _ _ = following _ _ (look _ _ _ _)
          unfold look
          rw [show (state.following journal phases).isStopped = state.isStopped from rfl]
          split
          · rfl
          · rfl
      | working =>
          by_cases inside : unit < phase.count
          · simp only [work_eq inside]
            exact worked_following number ⟨unit, inside⟩
          · simp only [work, dif_neg inside]
            rfl
      | reporting =>
          simp only [finishUnit, tell, setWorker, following, Array.append_push]
          rfl
      | ended failure => rfl

theorem turn_following (turn : Turn) :
    (state.following journal phases).turn observer phase turn =
      (state.turn observer phase turn).following journal phases := by
  cases turn with
  | worker number => exact workerTurn_following number
  | notice number =>
      simp only [PhaseState.turn, noticeTurn]
      rw [show (state.following journal phases).workers = state.workers from rfl,
        show (state.following journal phases).notice = state.notice from rfl]
      split
      · simp only [following, Journal.log, Array.append_push]
      · rfl
      · rfl
  | halt => rfl

theorem event?_following (turn : Turn) :
    (state.following journal phases).event? phase turn = state.event? phase turn := by
  cases turn with
  | worker number => rfl
  | notice number => rfl
  | halt => rfl

theorem turns_following (turns : List Turn) :
    (state.following journal phases).turns observer phase turns =
      (state.turns observer phase turns).following journal phases := by
  induction turns generalizing state with
  | nil => rfl
  | cons turn turns ih =>
      show PhaseState.turns observer phase
        ((state.following journal phases).turn observer phase turn) turns = _
      rw [turn_following]
      exact ih

theorem history_following (turns : List Turn) :
    (state.following journal phases).history observer phase turns =
      state.history observer phase turns := by
  induction turns generalizing state with
  | nil => rfl
  | cons turn turns ih => rw [history, history, event?_following, turn_following, ih]

end PhaseState

namespace Pool

variable {observer : Observer} {schedule : Schedule} {phase : Phase σ ε} {pool : Pool} {shared : σ}

def asNew (pool : Pool) : Pool := { threads := pool.threads }

theorem start_following (free : pool.halted = false) :
    pool.start observer phase shared = (pool.asNew.start observer phase shared).following
      pool.journal pool.progress.phasesCompleted := by
  simp only [start, asNew, PhaseState.tell, PhaseState.following, Journal.log, free,
    Array.append_push]
  rfl

theorem final_following (free : pool.halted = false) :
    pool.final observer schedule phase shared =
      (pool.asNew.final observer schedule phase shared).following pool.journal
        pool.progress.phasesCompleted := by
  rw [final, start_following free, PhaseState.turns_following]
  rfl

theorem conclude_following (pool : Pool) (phase : Phase σ ε) (journal : Journal) (phases : Nat)
    (state : PhaseState σ ε) :
    let used := pool.conclude phase (state.following journal phases)
    let new := pool.asNew.conclude phase state
    used.shared = new.shared ∧ used.error = new.error ∧ used.pool.halted = new.pool.halted ∧
      used.pool.journal = journal ++ new.pool.journal ∧
      used.pool.progress = new.pool.progress.following phases := by
  unfold conclude
  rw [show (state.following journal phases).notice = state.notice from rfl,
    show (state.following journal phases).halted = state.halted from rfl]
  split
  · exact ⟨rfl, rfl, rfl, rfl, rfl⟩
  · split
    · exact ⟨rfl, rfl, rfl, Array.append_push.symm, rfl⟩
    · exact ⟨rfl, rfl, rfl, Array.append_push.symm, rfl⟩

/-- That a pool handles a phase as a new one does. What it has done before is kept in its journal,
and its phases are counted on. -/
structure RunsAsNew (used new : Pool) (observer : Observer) (schedule : Schedule)
    (phase : Phase σ ε) (first : σ) : Prop where
  history : used.history observer schedule phase first = new.history observer schedule phase first
  shared : (used.run observer schedule phase first).shared =
    (new.run observer schedule phase first).shared
  error : (used.run observer schedule phase first).error =
    (new.run observer schedule phase first).error
  halted : (used.run observer schedule phase first).pool.halted =
    (new.run observer schedule phase first).pool.halted
  journal : (used.run observer schedule phase first).pool.journal =
    used.journal ++ (new.run observer schedule phase first).pool.journal
  phases : (used.run observer schedule phase first).pool.progress.phasesCompleted =
    used.progress.phasesCompleted +
      (new.run observer schedule phase first).pool.progress.phasesCompleted
  report : schedule.haltedBefore = false →
    (used.run observer schedule phase first).pool.progress.report =
      (new.run observer schedule phase first).pool.progress.report

theorem runsAsNew (free : pool.halted = false) (observer : Observer) (schedule : Schedule)
    (phase : Phase σ ε) (shared : σ) :
    pool.RunsAsNew pool.asNew observer schedule phase shared := by
  have history : pool.history observer schedule phase shared =
      pool.asNew.history observer schedule phase shared := by
    rw [Pool.history, Pool.history, start_following free, PhaseState.history_following, free]
    rfl
  cases before : schedule.haltedBefore with
  | true =>
      -- such a phase is not started, and the progress of the last one stays
      have flagged : pool.run observer schedule phase shared =
          { pool := { pool with halted := true }
            shared
            error := some (.cancelled phase.name) } := by
        simp [run, before]
      have flaggedNew : pool.asNew.run observer schedule phase shared =
          { pool := { pool.asNew with halted := true }
            shared
            error := some (.cancelled phase.name) } := by
        simp [run, before]
      refine ⟨history, ?_, ?_, ?_, ?_, ?_, fun unflagged => ?_⟩
      · rw [flagged, flaggedNew]
      · rw [flagged, flaggedNew]
      · rw [flagged, flaggedNew]
      · rw [flagged, flaggedNew]
        exact Array.append_empty.symm
      · rw [flagged, flaggedNew]
        rfl
      · cases before.symm.trans unflagged
  | false =>
      obtain ⟨same, error, halted, journal, progress⟩ := conclude_following pool phase
        pool.journal pool.progress.phasesCompleted
        (pool.asNew.final observer schedule phase shared)
      rw [← final_following free, ← run_eq free before, ← run_eq rfl before] at same error halted
      rw [← final_following free, ← run_eq free before, ← run_eq rfl before] at journal progress
      refine ⟨history, same, error, halted, journal, ?_, fun _ => ?_⟩
      · rw [progress]
        rfl
      · rw [progress]
        rfl

structure ContainsFailures (threads : Int) (pool : Pool) (observer : Observer)
    (phase : Phase σ ε) (first : σ) (history : List (PhaseEvent ε)) (ending : Ending σ ε) :
    Prop where
  once : ((begunIn history).map (·.1)).Nodup
  /-- What the units that are begun do to the shared state is kept, also what one does that fails. -/
  worked : ending.shared = ((begunIn history).map (·.1)).foldl phase.perform first
  /-- An error of a unit is reported, and the pool halts nothing. -/
  raised : (∃ e, .raised e ∈ failuresIn history) → .interrupted ∉ failuresIn history →
    (∃ e, .raised e ∈ failuresIn history ∧ ending.error = some (.raised e)) ∧
      (ending.pool.halted = true ↔ HaltedIn observer history) ∧
      ending.pool.progress.phasesCompleted = pool.progress.phasesCompleted
  /-- The pool halts the scan for an interrupted unit. -/
  interrupted : .interrupted ∈ failuresIn history → (∀ e, .raised e ∉ failuresIn history) →
    .noticed .interrupted ∈ history ∧ ending.pool.halted = true ∧
      ending.error = some (.cancelled phase.name) ∧
      ending.pool.progress.phasesCompleted = pool.progress.phasesCompleted
  /-- After an error the pool is as good as a new one. -/
  reusable : ∀ e, ending.error = some (.raised e) → ending.pool.halted = false →
    ∀ {τ δ : Type} (observer : Observer) (schedule : Schedule) (next : Phase τ δ) (shared : τ),
      ending.pool.RunsAsNew (ofThreads threads false) observer schedule next shared
  /-- So the next phase, if nothing disturbs it, is handled as a whole and reported from its
  start. -/
  next : ∀ e, ending.error = some (.raised e) → ending.pool.halted = false →
    ∀ {τ δ : Type} (observer : Observer) (schedule : Schedule) (next : Phase τ δ) (shared : τ),
      schedule.haltedBefore = false →
      failuresIn (ending.pool.history observer schedule next shared) = [] →
      ¬ HaltedIn observer (ending.pool.history observer schedule next shared) →
      let after := ending.pool.run observer schedule next shared
      after.error = none ∧
        ((begunIn (ending.pool.history observer schedule next shared)).map (·.1)).Perm
          (List.range next.count) ∧
        after.pool.journal.reports = ending.pool.journal.reports ++ phaseTrace next.name next.count

theorem unflagged_of_mem {event : PhaseEvent ε}
    (member : event ∈ pool.history observer schedule phase shared) :
    pool.halted = false ∧ schedule.haltedBefore = false := by
  unfold history at member
  split at member
  · cases member
  · rename_i unflagged
    simpa using unflagged

theorem unflagged_of_failure {failure : UnitFailure ε}
    (fails : failure ∈ failuresIn (pool.history observer schedule phase shared)) :
    pool.halted = false ∧ schedule.haltedBefore = false := by
  obtain ⟨event, member, -⟩ := List.mem_filterMap.mp fails
  exact unflagged_of_mem member

theorem exists_noticed {failure : UnitFailure ε}
    (fails : failure ∈ failuresIn (pool.history observer schedule phase shared)) :
    ∃ noticed ∈ failuresIn (pool.history observer schedule phase shared),
      .noticed noticed ∈ pool.history observer schedule phase shared := by
  obtain ⟨free, begun⟩ := unflagged_of_failure fails
  have recorded := final_recorded observer phase free begun shared
  have found : ∀ own : UnitFailure ε,
      (pool.final observer schedule phase shared).notice = own.notice →
      ∃ noticed ∈ failuresIn (pool.history observer schedule phase shared),
        .noticed noticed ∈ pool.history observer schedule phase shared := by
    intro own notice
    have noticed := (recorded.notice own).mp notice
    exact ⟨own, recorded.noticed own noticed, noticed⟩
  cases notice : (pool.final observer schedule phase shared).notice with
  | nothing =>
      obtain ⟨unit, member⟩ := PhaseState.mem_failures.mp ((recorded.failures failure).mpr fails)
      cases ended_none_of_final observer phase pool schedule shared notice member
  | interrupted => exact found .interrupted notice
  | raised e => exact found (.raised e) notice

theorem halted_run_iff (free : pool.halted = false) (begun : schedule.haltedBefore = false) :
    (pool.run observer schedule phase shared).pool.halted = true ↔
      HaltedIn observer (pool.history observer schedule phase shared) ∨
        .noticed .interrupted ∈ pool.history observer schedule phase shared := by
  rw [run_eq free begun, (conclude_pool _).2.1]
  exact (final_recorded observer phase free begun shared).halted

theorem run_of_interrupted
    (noticed : .noticed .interrupted ∈ pool.history observer schedule phase shared) :
    (pool.run observer schedule phase shared).pool.halted = true ∧
      (pool.run observer schedule phase shared).error = some (.cancelled phase.name) := by
  obtain ⟨free, begun⟩ := unflagged_of_mem noticed
  have recorded := final_recorded observer phase free begun shared
  have notice : (pool.final observer schedule phase shared).notice = .interrupted :=
    (recorded.notice .interrupted).mpr noticed
  refine ⟨(halted_run_iff free begun).mpr (.inr noticed), ?_⟩
  rw [run_eq free begun, conclude, notice, if_pos (recorded.halted.mpr (.inr noticed))]

theorem run_of_raised {e : ε}
    (noticed : .noticed (.raised e) ∈ pool.history observer schedule phase shared) :
    (pool.run observer schedule phase shared).error = some (.raised e) := by
  obtain ⟨free, begun⟩ := unflagged_of_mem noticed
  have recorded := final_recorded observer phase free begun shared
  have notice : (pool.final observer schedule phase shared).notice = .raised e :=
    (recorded.notice (.raised e)).mpr noticed
  rw [run_eq free begun, conclude, notice]

theorem phasesCompleted_of_failure {failure : UnitFailure ε} {error : PhaseError ε}
    (fails : failure ∈ failuresIn (pool.history observer schedule phase shared))
    (ended : (pool.run observer schedule phase shared).error = some error) :
    (pool.run observer schedule phase shared).pool.progress.phasesCompleted =
      pool.progress.phasesCompleted := by
  obtain ⟨free, begun⟩ := unflagged_of_failure fails
  rw [phasesCompleted_run observer phase free begun, ended]
  rfl

theorem asNew_run {threads : Int} (reached : Reached threads pool) :
    (pool.run observer schedule phase shared).pool.asNew = ofThreads threads false := by
  rw [asNew, threads_run, reached.threads_eq]
  rfl

/-- Failures stay in their phase, for every phase that is run on a pool and under every schedule. -/
theorem Reached.contains_failures {threads : Int} (reached : Reached threads pool)
    (observer : Observer) (schedule : Schedule) (phase : Phase σ ε) (shared : σ) :
    pool.ContainsFailures threads observer phase shared
      (pool.history observer schedule phase shared) (pool.run observer schedule phase shared) where
  once := nodup_begunIn pool observer schedule phase shared
  worked := shared_run pool observer schedule phase shared
  raised := by
    rintro ⟨e, fails⟩ uninterrupted
    obtain ⟨free, begun⟩ := unflagged_of_failure fails
    -- only an interruption that is noticed makes the pool halt, and only failures are noticed
    have unnoticed : .noticed .interrupted ∉ pool.history observer schedule phase shared :=
      fun noticed => uninterrupted
        ((final_recorded observer phase free begun shared).noticed _ noticed)
    obtain ⟨failure, member, noticed⟩ := exists_noticed fails
    cases failure with
    | interrupted => exact absurd noticed unnoticed
    | raised e =>
        have error := run_of_raised noticed
        exact ⟨⟨e, member, error⟩, (halted_run_iff free begun).trans (or_iff_left unnoticed),
          phasesCompleted_of_failure fails error⟩
  interrupted := by
    intro fails unraised
    obtain ⟨failure, member, noticed⟩ := exists_noticed fails
    cases failure with
    | interrupted =>
        obtain ⟨halted, error⟩ := run_of_interrupted noticed
        exact ⟨noticed, halted, error, phasesCompleted_of_failure fails error⟩
    | raised e => exact absurd member (unraised e)
  reusable := by
    intro _ _ free _ _ nextObserver nextSchedule next first
    have new := runsAsNew free nextObserver nextSchedule next first
    rw [asNew_run reached] at new
    exact new
  next := by
    intro _ _ free _ _ nextObserver nextSchedule next first begun unfailed going
    have positive := (reached.ran observer schedule phase shared).positive
    obtain ⟨error, units, finished⟩ := (run_of_unfailed positive free begun first unfailed).2 going
    refine ⟨error, units, ?_⟩
    rw [reports_run free begun, finished]
    rfl

def brokenPhase (halts : Bool) : Phase Unit String where
  name := "broken"
  count := 3
  work unit _ := {
    shared := ()
    halts := halts && unit = 2
    failure := if unit = 1 then some (.raised "kernel bug") else none }

def soundPhase : Phase Unit String where
  name := "sound"
  count := 3
  work _ _ := { shared := () }

theorem contains_failures_of_brokenPhase :
    (∃ e, ((ofThreads 3 false).run (fun _ => false) {} (brokenPhase true) ()).error =
        some (.raised e)) ∧
      ((ofThreads 3 false).run (fun _ => false) {} (brokenPhase true) ()).pool.halted = true ∧
      (((ofThreads 3 false).run (fun _ => false) {} (brokenPhase false) ()).pool.run (fun _ => false)
        {} soundPhase ()).error = none := by
  have reached : Reached 3 (ofThreads 3 false) := .new false
  have first := reached.contains_failures (fun _ => false) {} (brokenPhase true) ()
  have second := reached.contains_failures (fun _ => false) {} (brokenPhase false) ()
  obtain ⟨⟨e, -, error⟩, flag, -⟩ := first.raised ⟨"kernel bug", by decide⟩ (by decide)
  obtain ⟨⟨e', -, error'⟩, flag', -⟩ := second.raised ⟨"kernel bug", by decide⟩ (by decide)
  have calm : ¬ HaltedIn (fun _ => false)
      ((ofThreads 3 false).history (fun _ => false) {} (brokenPhase false) ()) := by
    unfold HaltedIn
    decide
  have free := Bool.eq_false_of_not_eq_true (mt flag'.mp calm)
  have new := second.reusable e' error' free (fun _ => false) {} soundPhase ()
  have undisturbed :
      failuresIn ((ofThreads 3 false).history (fun _ => false) {} soundPhase ()) = [] ∧
        ¬ HaltedIn (fun _ => false)
          ((ofThreads 3 false).history (fun _ => false) {} soundPhase ()) := by
    unfold HaltedIn
    decide
  rw [← new.history] at undisturbed
  exact ⟨⟨e, error⟩, flag.mpr ⟨.begun 2 2 true none, by decide, rfl⟩,
    (second.next e' error' free (fun _ => false) {} soundPhase () rfl undisturbed.1
      undisturbed.2).1⟩

end Pool

end SourceSimilarity
