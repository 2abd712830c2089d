import SourceSimilarity.Proofs.Scan.Watch
import SourceSimilarity.Scan.Task
import Mathlib.Data.List.Perm.Subperm

namespace SourceSimilarity

def PhaseState.failures {σ ε : Type} (state : PhaseState σ ε) : List (UnitFailure ε) :=
  state.workers.filterMap fun worker => match worker.stage with
    | .ended failure => failure
    | _ => none

theorem PhaseState.mem_failures {σ ε : Type} {state : PhaseState σ ε} {failure : UnitFailure ε} :
    failure ∈ state.failures ↔ ∃ unit, ⟨unit, .ended (some failure)⟩ ∈ state.workers := by
  rw [failures, List.mem_filterMap]
  constructor
  · rintro ⟨⟨unit, stage⟩, member, same⟩
    split at same
    · rename_i ended
      obtain rfl : stage = _ := ended
      exact ⟨unit, same ▸ member⟩
    · cases same
  · rintro ⟨unit, member⟩
    exact ⟨_, member, rfl⟩

namespace Pool

variable {σ ε : Type} {observer : Observer} {schedule : Schedule} {phase : Phase σ ε} {pool : Pool}

theorem conclude_shared (state : PhaseState σ ε) :
    (pool.conclude phase state).shared = state.shared := by
  unfold conclude
  split
  · rfl
  · split <;> rfl

theorem conclude_pool (state : PhaseState σ ε) :
    (pool.conclude phase state).pool.threads = pool.threads ∧
      (pool.conclude phase state).pool.halted = state.halted ∧
      (pool.conclude phase state).pool.journal.reports = state.journal.reports := by
  unfold conclude
  split
  · exact ⟨rfl, rfl, rfl⟩
  · split
    · exact ⟨rfl, rfl, Journal.reports_log _ _ _⟩
    · exact ⟨rfl, rfl, Journal.reports_log _ _ _⟩

theorem conclude_error (state : PhaseState σ ε) :
    (∃ e, state.notice = .raised e ∧ (pool.conclude phase state).error = some (.raised e)) ∨
      (∀ e, state.notice ≠ .raised e) ∧
        (pool.conclude phase state).error =
          if state.halted then some (.cancelled phase.name) else none := by
  unfold conclude
  split
  · rename_i e noticed
    exact .inl ⟨e, noticed, rfl⟩
  · rename_i others
    refine .inr ⟨others, ?_⟩
    split <;> rfl

end Pool

namespace Scan

structure Visit where
  {σ : Type}
  phase : Phase σ UnitError
  schedule : Schedule
  pool : Pool
  shared : σ

namespace Visit

def isFlagged (visit : Visit) : Bool := visit.pool.halted || visit.schedule.haltedBefore

def ending (observer : Observer) (visit : Visit) : Pool.Ending visit.σ UnitError :=
  visit.pool.run observer visit.schedule visit.phase visit.shared

def final (observer : Observer) (visit : Visit) : PhaseState visit.σ UnitError :=
  visit.pool.final observer visit.schedule visit.phase visit.shared

def reports (observer : Observer) (visit : Visit) : List ProgressReport :=
  (visit.ending observer).pool.journal.reports.drop visit.pool.journal.reports.length

def units (observer : Observer) (visit : Visit) : List Nat :=
  if visit.isFlagged then [] else (visit.final observer).units

def failures (observer : Observer) (visit : Visit) : List (UnitFailure UnitError) :=
  if visit.isFlagged then [] else (visit.final observer).failures

def isHalted (observer : Observer) (visit : Visit) : Bool := (visit.ending observer).pool.halted

def trace (visit : Visit) : List ProgressReport := phaseTrace visit.phase.name visit.phase.count

variable {observer : Observer} {visit : Visit}

theorem ending_of_flagged (flagged : visit.isFlagged = true) :
    visit.ending observer = {
      pool := { visit.pool with halted := true }
      shared := visit.shared
      error := some (.cancelled visit.phase.name) } := by
  unfold isFlagged at flagged
  rw [ending, Pool.run]
  simp only [flagged, if_true]

theorem ending_of_free (free : visit.isFlagged = false) :
    visit.ending observer = visit.pool.conclude visit.phase (visit.final observer) := by
  obtain ⟨before, schedule⟩ := Bool.or_eq_false_iff.mp free
  exact Pool.run_eq before schedule visit.shared

theorem final_accounted (observer : Observer) (visit : Visit) :
    (visit.final observer).Accounted visit.phase visit.pool.journal.reports visit.shared :=
  Pool.final_accounted observer visit.phase visit.pool visit.schedule visit.shared

theorem final_watched (observer : Observer) (visit : Visit) :
    (visit.final observer).Watched observer visit.phase visit.pool.journal.reports :=
  Pool.final_watched observer visit.phase visit.pool visit.schedule visit.shared

theorem threads_ending : (visit.ending observer).pool.threads = visit.pool.threads := by
  cases flagged : visit.isFlagged with
  | true => rw [ending_of_flagged flagged]
  | false =>
      rw [ending_of_free flagged]
      exact (Pool.conclude_pool _).1

theorem reports_of_flagged (flagged : visit.isFlagged = true) : visit.reports observer = [] := by
  rw [reports, ending_of_flagged flagged]
  exact List.drop_length

theorem reports_of_free (free : visit.isFlagged = false) {reports : List ProgressReport}
    (equal : (visit.final observer).journal.reports = visit.pool.journal.reports ++ reports) :
    visit.reports observer = reports := by
  rw [Visit.reports, ending_of_free free, (Pool.conclude_pool _).2.2, equal, List.drop_left]

theorem reports_ending : (visit.ending observer).pool.journal.reports =
    visit.pool.journal.reports ++ visit.reports observer := by
  cases flagged : visit.isFlagged with
  | true => rw [reports_of_flagged flagged, ending_of_flagged flagged, List.append_nil]
  | false =>
      obtain ⟨completed, -, -, equal⟩ := (visit.final_accounted observer).reported
      rw [reports_of_free flagged equal, ending_of_free flagged, (Pool.conclude_pool _).2.2, equal]

theorem reports_prefix : visit.reports observer <+: visit.trace := by
  cases flagged : visit.isFlagged with
  | true =>
      rw [reports_of_flagged flagged]
      exact List.nil_prefix
  | false =>
      have account := visit.final_accounted observer
      obtain ⟨completed, -, total, equal⟩ := account.reported
      -- the units that were reported are among those that were begun
      have begun : (visit.final observer).units.length ≤ visit.phase.count := by
        have inside : (visit.final observer).units ⊆ List.range visit.phase.count :=
          fun unit member => List.mem_range.mpr ((account.mem_units unit).mp member).1
        simpa using (List.subperm_of_subset account.nodup inside).length_le
      rw [reports_of_free flagged equal, trace, phaseTrace]
      have few : List.range (completed + 1) =
          (List.range (visit.phase.count + 1)).take (completed + 1) := by
        rw [List.take_range, Nat.min_eq_left (by omega)]
      rw [few]
      exact (List.take_prefix _ _).map _

theorem error_of_flagged (flagged : visit.isFlagged = true) :
    (visit.ending observer).error = some (.cancelled visit.phase.name) := by
  rw [ending_of_flagged flagged]

theorem error_of_free (free : visit.isFlagged = false) :
    (∃ e, .raised e ∈ visit.failures observer ∧
        (visit.ending observer).error = some (.raised e)) ∨
      (∀ e, (visit.final observer).notice ≠ .raised e) ∧
        (visit.ending observer).error =
          if visit.isHalted observer then some (.cancelled visit.phase.name) else none := by
  rw [isHalted, failures, free, ending_of_free free, (Pool.conclude_pool _).2.1]
  refine (Pool.conclude_error _).imp_left ?_
  rintro ⟨e, noticed, error⟩
  exact ⟨e, PhaseState.mem_failures.mpr ((visit.final_watched observer).raised e noticed), error⟩

theorem isHalted_of_flagged (flagged : visit.isFlagged = true) : visit.isHalted observer = true := by
  rw [isHalted, ending_of_flagged flagged]

theorem isHalted_of_final (free : visit.isFlagged = false)
    (halted : (visit.final observer).halted = true) : visit.isHalted observer = true := by
  rw [isHalted, ending_of_free free, (Pool.conclude_pool _).2.1, halted]

theorem error_of_halted (halted : visit.isHalted observer = true) :
    (visit.ending observer).error = some (.cancelled visit.phase.name) ∨
      ∃ e, .raised e ∈ visit.failures observer ∧
        (visit.ending observer).error = some (.raised e) := by
  cases flagged : visit.isFlagged with
  | true => exact .inl (error_of_flagged flagged)
  | false =>
      rcases error_of_free flagged with raised | ⟨-, error⟩
      · exact .inr raised
      · rw [halted, if_pos rfl] at error
        exact .inl error

theorem error_cases {failure : PhaseError UnitError}
    (fails : (visit.ending observer).error = some failure) :
    failure = .cancelled visit.phase.name ∧ visit.isHalted observer = true ∨
      ∃ e, failure = .raised e ∧ .raised e ∈ visit.failures observer := by
  cases flagged : visit.isFlagged with
  | true =>
      rw [error_of_flagged flagged] at fails
      exact .inl ⟨(Option.some.inj fails).symm, isHalted_of_flagged flagged⟩
  | false =>
      rcases error_of_free flagged with ⟨e, member, error⟩ | ⟨-, error⟩
      · exact .inr ⟨e, Option.some.inj (fails.symm.trans error), member⟩
      · rw [fails] at error
        split_ifs at error with halted
        exact .inl ⟨Option.some.inj error, halted⟩

theorem isHalted_of_turn (halts : Turn.halt ∈ visit.schedule.turns) :
    visit.isHalted observer = true := by
  cases flagged : visit.isFlagged with
  | true => exact isHalted_of_flagged flagged
  | false =>
      refine isHalted_of_final flagged ?_
      exact Pool.final_halted observer visit.phase visit.pool visit.shared halts

theorem isHalted_of_report {report : ProgressReport} (member : report ∈ visit.reports observer)
    (halts : observer report = true) : visit.isHalted observer = true := by
  cases flagged : visit.isFlagged with
  | true => exact isHalted_of_flagged flagged
  | false =>
      obtain ⟨reports, equal, seen⟩ := (visit.final_watched observer).seen
      rw [reports_of_free flagged equal] at member
      exact isHalted_of_final flagged (seen report member halts)

/-- An interrupted unit halts the scan, unless the failure of another one is noticed first. -/
theorem isHalted_of_interrupted (interrupted : .interrupted ∈ visit.failures observer) :
    visit.isHalted observer = true ∨ ∃ e, .raised e ∈ visit.failures observer := by
  cases flagged : visit.isFlagged with
  | true => exact .inl (isHalted_of_flagged flagged)
  | false =>
      rw [failures, flagged] at interrupted ⊢
      obtain ⟨unit, member⟩ := PhaseState.mem_failures.mp interrupted
      have watched := visit.final_watched observer
      cases noticed : (visit.final observer).notice with
      | nothing =>
          have ended := Pool.ended_none_of_final observer visit.phase visit.pool visit.schedule
            visit.shared noticed member
          cases ended
      | interrupted => exact .inl (isHalted_of_final flagged (watched.interrupted noticed))
      | raised e => exact .inr ⟨e, PhaseState.mem_failures.mpr (watched.raised e noticed)⟩

/-- A visit that comes to its end: all is reported, and each unit is begun once and succeeds. -/
structure Complete (observer : Observer) (visit : Visit) : Prop where
  free : visit.isFlagged = false
  going : visit.isHalted observer = false
  reports : visit.reports observer = visit.trace
  units : (visit.units observer).Perm (List.range visit.phase.count)
  shared : (visit.ending observer).shared =
    (visit.units observer).foldl visit.phase.perform visit.shared
  succeeds : ∀ unit, ∃ shared, (visit.phase.work unit shared).failure = none

theorem complete (positive : 1 ≤ visit.pool.threads)
    (passed : (visit.ending observer).error = none) : visit.Complete observer := by
  have free : visit.isFlagged = false := by
    by_contra flagged
    rw [error_of_flagged (Bool.eq_true_of_not_eq_false flagged)] at passed
    cases passed
  have going : visit.isHalted observer = false := by
    by_contra halted
    rcases error_of_halted (Bool.eq_true_of_not_eq_false halted) with error | ⟨e, -, error⟩
    · rw [passed] at error
      cases error
    · rw [passed] at error
      cases error
  have calm : ∀ e, (visit.final observer).notice ≠ .raised e := by
    rcases error_of_free free with ⟨e, -, error⟩ | ⟨calm, -⟩
    · rw [passed] at error
      cases error
    · exact calm
  have unhalted : (visit.final observer).halted = false := by
    by_contra halted
    rw [isHalted_of_final free (Bool.eq_true_of_not_eq_false halted)] at going
    cases going
  obtain ⟨reports, units, ended⟩ :=
    Pool.final_complete observer visit.phase positive visit.schedule visit.shared unhalted calm
  have all : visit.units observer = (visit.final observer).units := by
    rw [Visit.units, free]
    rfl
  refine ⟨free, going, reports_of_free free reports, all ▸ units, ?_, ?_⟩
  · rw [all, ending_of_free free, Pool.conclude_shared]
    exact (visit.final_accounted observer).shared
  · intro unit
    by_contra fails
    have begun : unit.1 ∈ (visit.final observer).units :=
      units.mem_iff.mpr (List.mem_range.mpr unit.2)
    obtain ⟨failure, member⟩ := (visit.final_watched observer).failed unit begun
      fun shared succeeds => fails ⟨shared, succeeds⟩
    cases ended _ member

end Visit

end Scan

end SourceSimilarity
