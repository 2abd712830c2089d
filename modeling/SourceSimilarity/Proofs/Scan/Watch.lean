import SourceSimilarity.Proofs.Scan.Account
import Mathlib.Tactic.ByContra

namespace SourceSimilarity

variable {σ ε : Type}

namespace PhaseState

variable {observer : Observer} {phase : Phase σ ε} {state after : PhaseState σ ε}

theorem Move.halted_of_halted {turn : Turn} (moves : Move observer phase state turn after)
    (halted : state.halted = true) : after.halted = true := by
  cases moves with
  | idle nobody => exact halted
  | begin here inside going => exact halted
  | leave here free going => exact halted
  | work unit here => exact Bool.or_eq_true_iff.mpr (.inl halted)
  | report here => exact Bool.or_eq_true_iff.mpr (.inl halted)
  | interruption first here => rfl
  | failure first here => exact halted
  | halt => rfl

theorem Move.notice_eq {turn : Turn} (moves : Move observer phase state turn after)
    (noticed : state.notice ≠ .nothing) : after.notice = state.notice := by
  cases moves with
  | idle nobody => rfl
  | begin here inside going => rfl
  | leave here free going => rfl
  | work unit here => rfl
  | report here => rfl
  | interruption first here => exact absurd first noticed
  | failure first here => exact absurd first noticed
  | halt => rfl

theorem isStopped_iff :
    state.isStopped = true ↔ state.halted = true ∨ ∃ e, state.notice = .raised e := by
  unfold isStopped
  cases state.notice <;> simp

theorem Move.isStopped_of_isStopped {turn : Turn} (moves : Move observer phase state turn after)
    (stopped : state.isStopped = true) : after.isStopped = true := by
  rw [isStopped_iff] at stopped ⊢
  rcases stopped with halted | ⟨e, raised⟩
  · exact .inl (moves.halted_of_halted halted)
  · exact .inr ⟨e, (moves.notice_eq (by simp [raised])).trans raised⟩

theorem mem_set_of_ended {number unit : Nat} {worker next : Worker ε}
    {failure : Option (UnitFailure ε)} (here : state.workers[number]? = some worker)
    (going : worker.stage ≠ .ended failure) (member : ⟨unit, .ended failure⟩ ∈ state.workers) :
    ⟨unit, .ended failure⟩ ∈ state.workers.set number next := by
  obtain ⟨other, there⟩ := List.mem_iff_getElem?.mp member
  have differ : number ≠ other := by
    rintro rfl
    rw [here] at there
    exact going (congrArg Worker.stage (Option.some.inj there))
  exact List.mem_iff_getElem?.mpr ⟨other, by rw [List.getElem?_set_ne differ, there]⟩

theorem Move.mem_of_ended {turn : Turn} (moves : Move observer phase state turn after) {unit : Nat}
    {failure : Option (UnitFailure ε)} (member : ⟨unit, .ended failure⟩ ∈ state.workers) :
    ⟨unit, .ended failure⟩ ∈ after.workers := by
  cases moves with
  | idle nobody => exact member
  | begin here inside going => exact mem_set_of_ended here (by simp) member
  | leave here free going => exact mem_set_of_ended here (going failure) member
  | work unit here => exact mem_set_of_ended here (by simp) member
  | report here => exact mem_set_of_ended here (by simp) member
  | interruption first here => exact member
  | failure first here => exact member
  | halt => exact member

theorem Move.reports_cases {turn : Turn} (moves : Move observer phase state turn after) :
    after.journal.reports = state.journal.reports ∨
      ∃ report, after.journal.reports = state.journal.reports ++ [report] ∧
        (observer report = true → after.halted = true) := by
  cases moves with
  | idle nobody => exact .inl rfl
  | begin here inside going => exact .inl rfl
  | leave here free going => exact .inl rfl
  | work unit here => exact .inl (Journal.reports_logAll _ _)
  | report here =>
      exact .inr ⟨_, Journal.reports_push _ _, fun halts => Bool.or_eq_true_iff.mpr (.inr halts)⟩
  | interruption first here => exact .inl (Journal.reports_log _ _ _)
  | failure first here => exact .inl rfl
  | halt => exact .inl rfl

theorem Move.notice_cases {turn : Turn} (moves : Move observer phase state turn after) :
    after.notice = state.notice ∨ after.notice = .interrupted ∧ after.halted = true ∨
      ∃ unit e, after.notice = .raised e ∧ ⟨unit, .ended (some (.raised e))⟩ ∈ after.workers := by
  cases moves with
  | idle nobody => exact .inl rfl
  | begin here inside going => exact .inl rfl
  | leave here free going => exact .inl rfl
  | work unit here => exact .inl rfl
  | report here => exact .inl rfl
  | interruption first here => exact .inr (.inl ⟨rfl, rfl⟩)
  | failure first here => exact .inr (.inr ⟨_, _, rfl, List.mem_of_getElem? here⟩)
  | halt => exact .inl rfl

theorem afterWork_ne (failure : Option (UnitFailure ε)) :
    WorkerStage.afterWork failure ≠ .ended none := by
  cases failure with
  | none => exact nofun
  | some failure => exact nofun

theorem Move.left_cases {turn : Turn} (moves : Move observer phase state turn after) {unit : Nat}
    (member : ⟨unit, .ended none⟩ ∈ after.workers) :
    ⟨unit, .ended none⟩ ∈ state.workers ∨ phase.count ≤ unit ∨ state.isStopped = true := by
  cases moves with
  | idle nobody => exact .inl member
  | begin here inside going =>
      exact .inl ((List.mem_or_eq_of_mem_set member).resolve_right nofun)
  | leave here free going =>
      refine (List.mem_or_eq_of_mem_set member).imp_right ?_
      rintro ⟨⟩
      exact free.imp_right And.right
  | work own here =>
      refine .inl ((List.mem_or_eq_of_mem_set member).resolve_right fun same => ?_)
      exact afterWork_ne _ (congrArg Worker.stage same).symm
  | report here => exact .inl ((List.mem_or_eq_of_mem_set member).resolve_right nofun)
  | interruption first here => exact .inl member
  | failure first here => exact .inl member
  | halt => exact .inl member

theorem Move.units_cases {turn : Turn} (moves : Move observer phase state turn after) :
    after.units = state.units ∨ ∃ unit : Fin phase.count, after.units = state.units ++ [unit.1] ∧
      ∀ failure, (phase.work unit state.shared).failure = some failure →
        ⟨unit, .ended (some failure)⟩ ∈ after.workers := by
  cases moves with
  | idle nobody => exact .inl rfl
  | begin here inside going => exact .inl rfl
  | leave here free going => exact .inl rfl
  | work unit here =>
      refine .inr ⟨unit, by simp [units, worked], fun failure fails => ?_⟩
      obtain ⟨inside, -⟩ := List.getElem?_eq_some_iff.mp here
      show _ ∈ state.workers.set _ ⟨unit, .afterWork (phase.work unit state.shared).failure⟩
      rw [fails]
      exact List.mem_set inside _
  | report here => exact .inl rfl
  | interruption first here => exact .inl rfl
  | failure first here => exact .inl rfl
  | halt => exact .inl rfl

/-- Why a phase was stopped, and why its workers have ended. -/
structure Watched (observer : Observer) (phase : Phase σ ε) (before : List ProgressReport)
    (state : PhaseState σ ε) : Prop where
  seen : ∃ reports, state.journal.reports = before ++ reports ∧
    ∀ report ∈ reports, observer report = true → state.halted = true
  interrupted : state.notice = .interrupted → state.halted = true
  raised : ∀ e, state.notice = .raised e →
    ∃ unit, ⟨unit, .ended (some (.raised e))⟩ ∈ state.workers
  left : ∀ unit, ⟨unit, .ended none⟩ ∈ state.workers → phase.count ≤ unit ∨ state.isStopped = true
  failed : ∀ unit : Fin phase.count, unit.1 ∈ state.units →
    (∀ shared, (phase.work unit shared).failure ≠ none) →
    ∃ failure, ⟨unit, .ended (some failure)⟩ ∈ state.workers

namespace Watched

variable {before : List ProgressReport}

theorem move (watched : state.Watched observer phase before) {turn : Turn}
    (moves : Move observer phase state turn after) : after.Watched observer phase before := by
  have kept : ∀ {unit failure}, ⟨unit, .ended failure⟩ ∈ state.workers →
      ⟨unit, .ended failure⟩ ∈ after.workers := moves.mem_of_ended
  exact {
    seen := by
      obtain ⟨reports, equal, seen⟩ := watched.seen
      have still : ∀ report ∈ reports, observer report = true → after.halted = true :=
        fun report member halts => moves.halted_of_halted (seen report member halts)
      rcases moves.reports_cases with same | ⟨next, more, halts⟩
      · exact ⟨reports, same.trans equal, still⟩
      · refine ⟨reports ++ [next], by rw [more, equal, List.append_assoc], fun report member => ?_⟩
        rcases List.mem_append.mp member with earlier | own
        · exact still report earlier
        · obtain rfl := List.mem_singleton.mp own
          exact halts
    interrupted := by
      intro noticed
      rcases moves.notice_cases with same | ⟨-, halted⟩ | ⟨unit, e, raised, -⟩
      · exact moves.halted_of_halted (watched.interrupted (same ▸ noticed))
      · exact halted
      · cases raised.symm.trans noticed
    raised := by
      intro e noticed
      rcases moves.notice_cases with same | ⟨interrupted, -⟩ | ⟨unit, e', raised, member⟩
      · exact (watched.raised e (same ▸ noticed)).imp fun unit member => kept member
      · cases interrupted.symm.trans noticed
      · obtain rfl := Notice.raised.inj (raised.symm.trans noticed)
        exact ⟨unit, member⟩
    left := by
      intro unit member
      rcases moves.left_cases member with earlier | behind | stopped
      · exact (watched.left unit earlier).imp_right moves.isStopped_of_isStopped
      · exact .inl behind
      · exact .inr (moves.isStopped_of_isStopped stopped)
    failed := by
      intro unit member fails
      rcases moves.units_cases with same | ⟨own, units, ends⟩
      · exact (watched.failed unit (same ▸ member) fails).imp fun failure ended => kept ended
      · rw [units] at member
        rcases List.mem_append.mp member with earlier | now
        · exact (watched.failed unit earlier fails).imp fun failure ended => kept ended
        · obtain rfl := Fin.ext (List.mem_singleton.mp now)
          obtain ⟨failure, some⟩ := Option.ne_none_iff_exists'.mp (fails state.shared)
          exact ⟨failure, ends failure some⟩ }

theorem behind (watched : state.Watched observer phase before) (free : state.halted = false)
    (calm : ∀ e, state.notice ≠ .raised e) {worker : Worker ε} (member : worker ∈ state.workers)
    (ended : worker.stage = .ended none) : phase.count ≤ worker.unit := by
  obtain ⟨unit, stage⟩ := worker
  obtain rfl : stage = .ended none := ended
  refine (watched.left unit member).resolve_right fun stopped => ?_
  rcases isStopped_iff.mp stopped with halted | ⟨e, raised⟩
  · cases free.symm.trans halted
  · exact calm e raised

end Watched

theorem noticeTurn_eq_self {number : Nat} (nothing : (state.noticeTurn number).notice = .nothing) :
    state.noticeTurn number = state ∧ ∀ worker, state.workers[number]? = some worker →
      ∀ failure, worker.stage ≠ .ended (some failure) := by
  unfold noticeTurn at nothing ⊢
  split at nothing
  · cases nothing
  · cases nothing
  · rename_i others raisedOthers
    refine ⟨rfl, fun worker here failure ended => ?_⟩
    obtain ⟨unit, stage⟩ := worker
    obtain rfl : stage = .ended (some failure) := ended
    cases failure with
    | interrupted => exact others unit nothing here
    | raised e => exact raisedOthers unit e nothing here

theorem notice_turns_ne (schedule : List Turn) (noticed : state.notice ≠ .nothing) :
    (state.turns observer phase schedule).notice ≠ .nothing :=
  turns_induction (motive := fun after => after.notice ≠ .nothing) schedule noticed
    fun _ _ _ _ noticed moves => by rwa [moves.notice_eq noticed]

theorem halted_turns (schedule : List Turn) (halted : state.halted = true) :
    (state.turns observer phase schedule).halted = true :=
  turns_induction (motive := fun after => after.halted = true) schedule halted
    fun _ _ _ _ halted moves => moves.halted_of_halted halted

theorem halted_turns_of_mem {schedule : List Turn} (member : Turn.halt ∈ schedule) :
    (state.turns observer phase schedule).halted = true := by
  obtain ⟨earlier, later, rfl⟩ := List.append_of_mem member
  rw [turns_append]
  show (turns observer phase { state.turns observer phase earlier with halted := true } later).halted =
    true
  exact halted_turns later rfl

theorem ended_none_of_noticed (numbers : List Nat) (state : PhaseState σ ε)
    (nothing : (state.turns observer phase (numbers.map .notice)).notice = .nothing) :
    (state.turns observer phase (numbers.map .notice)).workers = state.workers ∧
      ∀ number ∈ numbers, ∀ worker, state.workers[number]? = some worker →
        ∀ failure, worker.stage ≠ .ended (some failure) := by
  induction numbers generalizing state with
  | nil => exact ⟨rfl, by simp⟩
  | cons number numbers ih =>
      change ((state.noticeTurn number).turns observer phase (numbers.map .notice)).notice = _ at nothing
      have now : (state.noticeTurn number).notice = .nothing := by
        by_contra noticed
        exact notice_turns_ne _ noticed nothing
      obtain ⟨same, own⟩ := noticeTurn_eq_self now
      rw [same] at nothing
      obtain ⟨workers, others⟩ := ih state nothing
      refine ⟨?_, List.forall_mem_cons.mpr ⟨own, others⟩⟩
      change ((state.noticeTurn number).turns observer phase (numbers.map .notice)).workers = _
      rw [same, workers]

end PhaseState

namespace Pool

variable {observer : Observer} {phase : Phase σ ε}

theorem start_watched (pool : Pool) (shared : σ) :
    (pool.start observer phase shared).Watched observer phase pool.journal.reports where
  seen := by
    refine ⟨_, reports_start observer phase pool shared, fun report member halts => ?_⟩
    obtain rfl := List.mem_singleton.mp member
    exact Bool.or_eq_true_iff.mpr (.inr halts)
  interrupted noticed := nomatch noticed
  raised e noticed := nomatch noticed
  left unit member := by
    rw [workers_start] at member
    simp at member
  failed unit member := absurd member List.not_mem_nil

variable (observer phase)

theorem final_watched (pool : Pool) (schedule : Schedule) (shared : σ) :
    (pool.final observer schedule phase shared).Watched observer phase pool.journal.reports :=
  PhaseState.turns_induction _ (start_watched pool shared) fun _ _ _ _ watched moves =>
    watched.move moves

theorem final_halted (pool : Pool) {schedule : Schedule} (shared : σ)
    (halts : Turn.halt ∈ schedule.turns) :
    (pool.final observer schedule phase shared).halted = true :=
  PhaseState.halted_turns_of_mem (List.mem_append_left _ halts)

theorem ended_none_of_final (pool : Pool) (schedule : Schedule) (shared : σ)
    (nothing : (pool.final observer schedule phase shared).notice = .nothing) {worker : Worker ε}
    (member : worker ∈ (pool.final observer schedule phase shared).workers) :
    worker.stage = .ended none := by
  obtain ⟨failure, ended⟩ := ended_of_mem_workers observer phase pool schedule shared member
  obtain ⟨number, here⟩ := List.mem_iff_getElem?.mp member
  have inside : number < workerCount pool.threads phase.count := by
    rw [← length_workers_final observer phase pool schedule shared]
    exact (List.getElem?_eq_some_iff.mp here).1
  cases failure with
  | none => exact ended
  | some failure =>
      rw [final, finishingTurns, ← List.append_assoc, PhaseState.turns_append] at nothing here
      obtain ⟨workers, noticed⟩ := PhaseState.ended_none_of_noticed _ _ nothing
      rw [workers] at here
      exact absurd ended (noticed number (List.mem_range.mpr inside) worker here failure)

/-- A phase that was neither halted nor stopped by a failure is reported as a whole, and each of its
units was begun just once. -/
theorem final_complete {pool : Pool} (positive : 1 ≤ pool.threads) (schedule : Schedule) (shared : σ)
    (free : (pool.final observer schedule phase shared).halted = false)
    (calm : ∀ e, (pool.final observer schedule phase shared).notice ≠ .raised e) :
    let final := pool.final observer schedule phase shared
    final.journal.reports = pool.journal.reports ++ phaseTrace phase.name phase.count ∧
      final.units.Perm (List.range phase.count) ∧
      ∀ worker ∈ final.workers, worker.stage = .ended none := by
  have account := final_accounted observer phase pool schedule shared
  have watched := final_watched observer phase pool schedule shared
  have nothing : (pool.final observer schedule phase shared).notice = .nothing := by
    cases notice : (pool.final observer schedule phase shared).notice with
    | nothing => rfl
    | interrupted => cases free.symm.trans (watched.interrupted notice)
    | raised e => exact absurd notice (calm e)
  have ended : ∀ worker ∈ (pool.final observer schedule phase shared).workers,
      worker.stage = .ended none :=
    fun _ => ended_none_of_final observer phase pool schedule shared nothing
  have workers : 0 < phase.count → 0 < (pool.final observer schedule phase shared).workers.length := by
    intro some
    rw [length_workers_final]
    exact lt_min positive some
  obtain ⟨units, reports⟩ := account.complete workers fun worker member =>
    ⟨ended worker member, watched.behind free calm member (ended worker member)⟩
  exact ⟨reports, units, ended⟩

end Pool

end SourceSimilarity
