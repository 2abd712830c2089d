import SourceSimilarity.Proofs.Scan.History

namespace SourceSimilarity.Pool

variable {σ ε : Type} {observer : Observer} {phase : Phase σ ε} {pool : Pool} {schedule : Schedule}
  {shared : σ}

/-- The pools to which phases lead that are run one after the other on a new one. Between two phases
the scan may be halted, or set going again. -/
inductive Reached (threads : Int) : Pool → Prop
  | new (halted : Bool) : Reached threads (ofThreads threads halted)
  | flagged {pool : Pool} (reached : Reached threads pool) (halted : Bool) :
      Reached threads { pool with halted }
  | ran {pool : Pool} (reached : Reached threads pool) {σ ε : Type} (observer : Observer)
      (schedule : Schedule) (phase : Phase σ ε) (shared : σ) :
      Reached threads (pool.run observer schedule phase shared).pool

theorem threads_run (pool : Pool) (observer : Observer) (schedule : Schedule) (phase : Phase σ ε)
    (shared : σ) : (pool.run observer schedule phase shared).pool.threads = pool.threads := by
  unfold run
  dsimp only
  split
  · rfl
  · exact (conclude_pool _).1

theorem Reached.threads_eq {threads : Int} (reached : Reached threads pool) :
    pool.threads = (max 1 threads).toNat := by
  induction reached with
  | new halted => rfl
  | flagged _ halted ih => exact ih
  | ran _ observer schedule phase shared ih => exact (threads_run ..).trans ih

theorem Reached.positive {threads : Int} (reached : Reached threads pool) : 1 ≤ pool.threads := by
  rw [reached.threads_eq]
  omega

theorem phasesCompleted_conclude (state : PhaseState σ ε) :
    (pool.conclude phase state).pool.progress.phasesCompleted =
      state.progress.phasesCompleted +
        if (pool.conclude phase state).error.isNone then 1 else 0 := by
  unfold conclude
  split
  · rfl
  · split
    · rfl
    · rfl

theorem phasesCompleted_final (pool : Pool) :
    (pool.final observer schedule phase shared).progress.phasesCompleted =
      pool.progress.phasesCompleted :=
  PhaseState.phasesCompleted_turns _

theorem phasesCompleted_run (observer : Observer) (phase : Phase σ ε) (free : pool.halted = false)
    (begun : schedule.haltedBefore = false) (shared : σ) :
    let ending := pool.run observer schedule phase shared
    ending.pool.progress.phasesCompleted =
      pool.progress.phasesCompleted + if ending.error.isNone then 1 else 0 := by
  dsimp only
  rw [run_eq free begun, phasesCompleted_conclude, phasesCompleted_final]

theorem run_cases (pool : Pool) (observer : Observer) (schedule : Schedule) (phase : Phase σ ε)
    (shared : σ) :
    pool.history observer schedule phase shared = [] ∧
        (pool.run observer schedule phase shared).shared = shared ∨
      ∃ state : PhaseState σ ε, state.Recorded observer phase pool.journal.reports shared
          (pool.history observer schedule phase shared) ∧
        pool.run observer schedule phase shared = pool.conclude phase state := by
  cases flagged : pool.halted || schedule.haltedBefore with
  | true => exact .inl ⟨by rw [history, if_pos flagged], by simp only [run, if_pos flagged]⟩
  | false =>
      obtain ⟨free, begun⟩ := Bool.or_eq_false_iff.mp flagged
      exact .inr ⟨_, final_recorded observer phase free begun shared, run_eq free begun shared⟩

theorem nodup_begunIn (pool : Pool) (observer : Observer) (schedule : Schedule) (phase : Phase σ ε)
    (shared : σ) : ((begunIn (pool.history observer schedule phase shared)).map (·.1)).Nodup := by
  rcases run_cases pool observer schedule phase shared with ⟨nothing, -⟩ | ⟨state, recorded, -⟩
  · rw [nothing]
    exact List.nodup_nil
  · rw [← recorded.begun]
    exact recorded.account.nodup

/-- The shared state is left as the units that are begun make it, one after the other. -/
theorem shared_run (pool : Pool) (observer : Observer) (schedule : Schedule) (phase : Phase σ ε)
    (shared : σ) :
    (pool.run observer schedule phase shared).shared =
      ((begunIn (pool.history observer schedule phase shared)).map (·.1)).foldl phase.perform
        shared := by
  rcases run_cases pool observer schedule phase shared with
    ⟨nothing, kept⟩ | ⟨state, recorded, ended⟩
  · rw [nothing, kept]
    rfl
  · rw [ended, conclude_shared, recorded.account.shared, ← recorded.begun]
    rfl

theorem reports_run (free : pool.halted = false) (begun : schedule.haltedBefore = false)
    (shared : σ) :
    (pool.run observer schedule phase shared).pool.journal.reports = pool.journal.reports ++
      (List.range ((finishedIn (pool.history observer schedule phase shared)).length + 1)).map
        (reportAt phase.name phase.count) := by
  have recorded := final_recorded observer phase free begun shared
  obtain ⟨completed, -, -, reports⟩ := recorded.account.reported
  have same := List.append_cancel_left (recorded.reports.symm.trans reports)
  have length := congrArg List.length same
  rw [recorded.length, List.length_map, List.length_range] at length
  rw [run_eq free begun, (conclude_pool _).2.2, reports, length]

theorem run_of_unfailed (positive : 1 ≤ pool.threads) (free : pool.halted = false)
    (begun : schedule.haltedBefore = false) (shared : σ)
    (unfailed : failuresIn (pool.history observer schedule phase shared) = []) :
    let history := pool.history observer schedule phase shared
    let ending := pool.run observer schedule phase shared
    (HaltedIn observer history → ending.error = some (.cancelled phase.name)) ∧
      (¬ HaltedIn observer history → ending.error = none ∧
        ((begunIn history).map (·.1)).Perm (List.range phase.count) ∧
        (finishedIn history).length = phase.count) := by
  have recorded := final_recorded observer phase free begun shared
  have unnoticed : ∀ failure, .noticed failure ∉ pool.history observer schedule phase shared := by
    intro failure noticed
    have member := recorded.noticed failure noticed
    rw [unfailed] at member
    cases member
  have calm : ∀ e, (pool.final observer schedule phase shared).notice ≠ .raised e :=
    fun e noticed => unnoticed (.raised e) ((recorded.notice (.raised e)).mp noticed)
  have halted := recorded.halted.trans (or_iff_left (unnoticed .interrupted))
  have error : (pool.run observer schedule phase shared).error =
      if (pool.final observer schedule phase shared).halted then some (.cancelled phase.name)
      else none := by
    rw [run_eq free begun]
    rcases conclude_error (pool.final observer schedule phase shared) with
      ⟨e, noticed, -⟩ | ⟨-, error⟩
    · exact absurd noticed (calm e)
    · exact error
  refine ⟨fun flagged => by rw [error, if_pos (halted.mpr flagged)], fun going => ?_⟩
  have unhalted : (pool.final observer schedule phase shared).halted = false :=
    Bool.eq_false_iff.mpr fun flag => going (halted.mp flag)
  obtain ⟨reports, units, -⟩ :=
    final_complete observer phase positive schedule shared unhalted calm
  refine ⟨by rw [error, unhalted]; rfl, ?_, ?_⟩
  · rw [← recorded.begun]
    exact units
  · have same := List.append_cancel_left (recorded.reports.symm.trans reports)
    have length := congrArg List.length same
    rw [recorded.length, phaseTrace, List.length_map, List.length_range] at length
    omega

/-- The division of a phase among its workers, and what it comes to. -/
structure DividesExactly (threads : Int) (pool : Pool) (observer : Observer) (schedule : Schedule)
    (phase : Phase σ ε) (first : σ) (history : List (PhaseEvent ε)) (ending : Ending σ ε) :
    Prop where
  /-- No unit is begun twice. -/
  once : ((begunIn history).map (·.1)).Nodup
  /-- What the units that are begun do to the shared state is kept, and nothing else is done to
  it. -/
  worked : ending.shared = ((begunIn history).map (·.1)).foldl phase.perform first
  /-- A unit is begun by the worker that its remainder names, and is finished by no other. -/
  own : ∀ unit number, (unit, number) ∈ begunIn history →
    unit < phase.count ∧ number = unit % (min (max 1 threads) phase.count).toNat
  within : finishedIn history ⊆ begunIn history
  /-- A worker finishes the first units of its stripe, in their order. -/
  stripes : ∀ number < (min (max 1 threads) phase.count).toNat,
    finishedBy number history <+:
      stripe (min (max 1 threads) phase.count).toNat number phase.count
  reports : ending.pool.journal.reports = pool.journal.reports ++
    (List.range ((finishedIn history).length + 1)).map (reportAt phase.name phase.count)
  /-- A phase that nobody halts is handled as a whole. -/
  whole : ¬ HaltedIn observer history → ending.error = none ∧
    ((begunIn history).map (·.1)).Perm (List.range phase.count) ∧
    (finishedIn history).length = phase.count ∧
    ending.pool.progress.phasesCompleted = pool.progress.phasesCompleted + 1
  cancelled : HaltedIn observer history → ending.error = some (.cancelled phase.name) ∧
    ending.pool.progress.phasesCompleted = pool.progress.phasesCompleted

/-- The units of a phase of which none fails are divided exactly among its workers, under every
schedule. -/
theorem Reached.divides_exactly {threads : Int} (reached : Reached threads pool)
    (free : pool.halted = false) (begun : schedule.haltedBefore = false) (shared : σ)
    (unfailed : failuresIn (pool.history observer schedule phase shared) = []) :
    pool.DividesExactly threads observer schedule phase shared
      (pool.history observer schedule phase shared)
      (pool.run observer schedule phase shared) := by
  have recorded := final_recorded observer phase free begun shared
  have workers : (pool.final observer schedule phase shared).workers.length =
      (min (max 1 threads) phase.count).toNat := by
    rw [length_workers_final, workerCount, reached.threads_eq]
    omega
  have phases := phasesCompleted_run observer phase free begun shared
  obtain ⟨cancelled, whole⟩ := run_of_unfailed reached.positive free begun shared unfailed
  exact {
    once := nodup_begunIn pool observer schedule phase shared
    worked := shared_run pool observer schedule phase shared
    own := by
      intro unit number member
      refine ⟨?_, workers ▸ recorded.own unit number member⟩
      have begun : unit ∈ (pool.final observer schedule phase shared).units := by
        rw [PhaseState.units, recorded.begun]
        exact List.mem_map_of_mem member
      exact ((recorded.account.mem_units unit).mp begun).1
    within := recorded.finished
    stripes := by
      intro number inside
      rw [← workers] at inside ⊢
      rw [recorded.stripes number _ (List.getElem?_eq_getElem inside)]
      have few := List.take_prefix
        (min (pool.final observer schedule phase shared).workers[number].unit phase.count)
        (List.range phase.count)
      rw [List.take_range, Nat.min_assoc, Nat.min_self] at few
      exact few.filter _
    reports := reports_run free begun shared
    whole := by
      intro going
      obtain ⟨passed, units, finished⟩ := whole going
      refine ⟨passed, units, finished, ?_⟩
      rw [phases, passed]
      rfl
    cancelled := by
      intro halted
      have error := cancelled halted
      refine ⟨error, ?_⟩
      rw [phases, error]
      rfl }

def haltingPhase : Phase Unit Empty where
  name := "halting"
  count := 5
  work unit _ := { shared := (), halts := unit = 3 }

def secondAhead : Schedule where
  turns := [.worker 1, .worker 0, .worker 1, .worker 1, .worker 1, .worker 0, .worker 1]

theorem divides_exactly_of_haltingPhase :
    let history := (ofThreads 2 false).history (fun _ => false) secondAhead haltingPhase ()
    let ending := (ofThreads 2 false).run (fun _ => false) secondAhead haltingPhase ()
    failuresIn history = [] ∧ begunIn history = [(1, 1), (0, 0), (3, 1)] ∧
      finishedBy 1 history <+: stripe 2 1 5 ∧ finishedBy 1 history = [1, 3] ∧
      ending.error = some (.cancelled "halting") := by
  have unfailed : failuresIn
      ((ofThreads 2 false).history (fun _ => false) secondAhead haltingPhase ()) = [] := by decide
  have division := Reached.divides_exactly (.new false) rfl rfl () unfailed
  have halted : HaltedIn (fun _ => false)
      ((ofThreads 2 false).history (fun _ => false) secondAhead haltingPhase ()) :=
    ⟨.begun 3 1 true none, by decide, rfl⟩
  exact ⟨unfailed, by decide, division.stripes 1 (by decide), by decide,
    (division.cancelled halted).1⟩

end SourceSimilarity.Pool
