import SourceSimilarity.Proofs.Scan.Turns

/-!
Which units of a phase were begun, and what was reported of them, is read off its workers at any
time, however their turns are mixed. A worker has begun the units of its stripe up to where it
stands, each once. All units that were begun have been reported, but for those of the workers that
have yet to report theirs or failed in it.
-/

namespace SourceSimilarity

variable {σ ε : Type}

namespace Journal

theorem reports_log (journal : Journal) (level : LogLevel) (text : String) :
    (journal.log level text).reports = journal.reports := by
  simp [log, reports]

theorem reports_logAll (journal : Journal) (lines : List LogLine) :
    (journal.logAll lines).reports = journal.reports := by
  simp [logAll, reports, List.filterMap_map]

theorem reports_push (journal : Journal) (report : ProgressReport) :
    reports (journal.push (.report report)) = journal.reports ++ [report] := by
  simp [reports]

end Journal

def reportAt (name : String) (count completed : Nat) : ProgressReport :=
  ⟨some name, completed, count⟩

/-- What a phase reports when it is not cut short: its start, and every unit that is finished. -/
def phaseTrace (name : String) (count : Nat) : List ProgressReport :=
  (List.range (count + 1)).map (reportAt name count)

def Phase.perform (phase : Phase σ ε) (shared : σ) (unit : Nat) : σ :=
  if inside : unit < phase.count then (phase.work ⟨unit, inside⟩ shared).shared else shared

/-- Whether a worker has begun its unit without having reported it. -/
def Worker.isUnreported (worker : Worker ε) : Bool :=
  match worker.stage with
  | .reporting | .ended (some _) => true
  | _ => false

def Worker.HasBegun (worker : Worker ε) (unit : Nat) : Prop :=
  unit < worker.unit ∨ unit = worker.unit ∧ worker.isUnreported = true

namespace Worker

variable {worker : Worker ε} {unit : Nat}

theorem hasBegun_iff_le (unreported : worker.isUnreported = true) :
    worker.HasBegun unit ↔ unit ≤ worker.unit := by
  simp only [HasBegun, unreported, and_true]
  omega

theorem hasBegun_iff_lt (reported : worker.isUnreported = false) :
    worker.HasBegun unit ↔ unit < worker.unit := by
  simp [HasBegun, reported]

end Worker

namespace PhaseState

def units (state : PhaseState σ ε) : List Nat := state.begun.toList.map (·.1)

def HasBegun (state : PhaseState σ ε) (unit : Nat) : Prop :=
  ∃ worker, state.workers[unit % state.workers.length]? = some worker ∧ worker.HasBegun unit

def unreported (state : PhaseState σ ε) : Nat := state.workers.countP Worker.isUnreported

variable {observer : Observer} {phase : Phase σ ε} {state after : PhaseState σ ε}

theorem hasBegun_iff {number unit : Nat} {worker : Worker ε}
    (here : state.workers[number]? = some worker) (own : unit % state.workers.length = number) :
    state.HasBegun unit ↔ worker.HasBegun unit := by
  unfold HasBegun
  rw [own, here]
  exact ⟨fun ⟨_, same, begun⟩ => Option.some.inj same ▸ begun, fun begun => ⟨worker, rfl, begun⟩⟩

theorem hasBegun_of_ne {number unit : Nat} {next : Worker ε}
    (set : after.workers = state.workers.set number next)
    (other : unit % state.workers.length ≠ number) : after.HasBegun unit ↔ state.HasBegun unit := by
  unfold HasBegun
  rw [set, List.length_set, List.getElem?_set_ne (Ne.symm other)]

theorem hasBegun_self {number unit : Nat} {worker next : Worker ε}
    (here : state.workers[number]? = some worker)
    (set : after.workers = state.workers.set number next)
    (own : unit % state.workers.length = number) : after.HasBegun unit ↔ next.HasBegun unit := by
  obtain ⟨inside, -⟩ := List.getElem?_eq_some_iff.mp here
  refine hasBegun_iff ?_ (by rw [set, List.length_set, own])
  rw [set, List.getElem?_set_self inside]

theorem hasBegun_of_set {number : Nat} {worker next : Worker ε}
    (here : state.workers[number]? = some worker)
    (set : after.workers = state.workers.set number next) {unit : Nat}
    (same : unit % state.workers.length = number → (next.HasBegun unit ↔ worker.HasBegun unit)) :
    after.HasBegun unit ↔ state.HasBegun unit := by
  by_cases own : unit % state.workers.length = number
  · rw [hasBegun_self here set own, hasBegun_iff here own, same own]
  · exact hasBegun_of_ne set own

theorem unreported_of_set {number : Nat} {worker next : Worker ε}
    (here : state.workers[number]? = some worker)
    (set : after.workers = state.workers.set number next) :
    after.unreported + (if worker.isUnreported then 1 else 0) =
      state.unreported + if next.isUnreported then 1 else 0 := by
  obtain ⟨inside, same⟩ := List.getElem?_eq_some_iff.mp here
  unfold unreported
  rw [set, List.countP_set inside, same]
  have positive : worker.isUnreported = true → 0 < state.workers.countP Worker.isUnreported := by
    intro own
    exact List.countP_pos_iff.mpr ⟨worker, same ▸ List.getElem_mem inside, own⟩
  split_ifs with own other other
  · have := positive own
    omega
  · have := positive own
    omega
  · rfl
  · rfl

/-- The reports and the units of a phase that began with these reports and this shared state. -/
structure Accounted (phase : Phase σ ε) (before : List ProgressReport) (first : σ)
    (state : PhaseState σ ε) : Prop where
  striped : state.Striped
  inside : ∀ (number unit : Nat), state.workers[number]? = some ⟨unit, .reporting⟩ → unit < phase.count
  nodup : state.units.Nodup
  mem_units : ∀ unit, unit ∈ state.units ↔ unit < phase.count ∧ state.HasBegun unit
  shared : state.shared = state.units.foldl phase.perform first
  reported : ∃ completed : Nat,
    state.progress.report = reportAt phase.name phase.count completed ∧
    completed + state.unreported = state.units.length ∧
    state.journal.reports =
      before ++ (List.range (completed + 1)).map (reportAt phase.name phase.count)

namespace Accounted

variable {before : List ProgressReport} {first : σ}

theorem inside_of_set (account : state.Accounted phase before first) {number : Nat} {next : Worker ε}
    (set : after.workers = state.workers.set number next)
    (inside : next.stage = .reporting → next.unit < phase.count) (other last : Nat)
    (there : after.workers[other]? = some ⟨last, .reporting⟩) : last < phase.count := by
  rw [set, List.getElem?_set] at there
  split_ifs at there with own present
  · obtain rfl := Option.some.inj there
    exact inside rfl
  · exact account.inside other last there

theorem setWorker (account : state.Accounted phase before first) {number unit : Nat}
    {stage next : WorkerStage ε} (here : state.workers[number]? = some ⟨unit, stage⟩)
    (idle : Worker.isUnreported ⟨unit, stage⟩ = false)
    (idleNext : Worker.isUnreported ⟨unit, next⟩ = false)
    (striped : (state.setWorker number unit next).Striped) :
    (state.setWorker number unit next).Accounted phase before first where
  striped := striped
  inside := by
    have set : (state.setWorker number unit next).workers = state.workers.set number ⟨unit, next⟩ := rfl
    refine account.inside_of_set set fun reporting => ?_
    obtain rfl : next = .reporting := reporting
    cases idleNext
  nodup := account.nodup
  mem_units last := by
    refine (account.mem_units last).trans (and_congr_right fun _ => ?_)
    refine (hasBegun_of_set here rfl fun _ => ?_).symm
    rw [Worker.hasBegun_iff_lt idle, Worker.hasBegun_iff_lt idleNext]
  shared := account.shared
  reported := by
    obtain ⟨completed, report, length, reports⟩ := account.reported
    have same : (state.setWorker number unit next).unreported = state.unreported := by
      have set : (state.setWorker number unit next).workers = state.workers.set number ⟨unit, next⟩ := rfl
      simpa [idle, idleNext] using unreported_of_set here set
    exact ⟨completed, report, same ▸ length, reports⟩

theorem worked (account : state.Accounted phase before first) {number : Nat}
    {unit : Fin phase.count} (here : state.workers[number]? = some ⟨unit, .working⟩)
    (striped : (state.worked phase number unit).Striped) :
    (state.worked phase number unit).Accounted phase before first := by
  have own : unit % state.workers.length = number := account.striped number _ here
  have set : (state.worked phase number unit).workers = state.workers.set number
      ⟨unit, .afterWork (phase.work unit state.shared).failure⟩ := rfl
  have unreported : Worker.isUnreported
      ⟨unit, .afterWork (phase.work unit state.shared).failure⟩ = true := by
    cases (phase.work unit state.shared).failure with
    | none => rfl
    | some failure => rfl
  have units : (state.worked phase number unit).units = state.units ++ [unit.1] := by
    simp [PhaseState.units, PhaseState.worked]
  have fresh : unit.1 ∉ state.units := by
    rw [account.mem_units, hasBegun_iff here own]
    simp [Worker.HasBegun, Worker.isUnreported]
  exact {
    striped
    inside := account.inside_of_set set fun _ => unit.2
    nodup := by
      rw [units]
      exact List.Nodup.append account.nodup (List.nodup_singleton _) (by simpa using fresh)
    mem_units := by
      intro last
      rw [units, List.mem_append, List.mem_singleton, account.mem_units]
      by_cases stripe : last % state.workers.length = number
      · rw [hasBegun_iff here stripe, hasBegun_self here set stripe]
        rw [Worker.hasBegun_iff_lt rfl, Worker.hasBegun_iff_le unreported]
        have inside := unit.2
        show last < phase.count ∧ last < unit.1 ∨ last = unit.1 ↔ last < phase.count ∧ last ≤ unit.1
        omega
      · have differ : last ≠ unit.1 := fun same => stripe (same ▸ own)
        rw [hasBegun_of_ne set stripe]
        simp [differ]
    shared := by
      rw [units, List.foldl_append, ← account.shared]
      simp [PhaseState.worked, Phase.perform]
    reported := by
      obtain ⟨completed, report, length, reports⟩ := account.reported
      have more := unreported_of_set here set
      rw [unreported] at more
      refine ⟨completed, report, ?_, (Journal.reports_logAll _ _).trans reports⟩
      rw [units, List.length_append, List.length_singleton, ← length]
      simpa [Worker.isUnreported, Nat.add_assoc] using more }

theorem finishUnit (account : state.Accounted phase before first) {number unit : Nat}
    (here : state.workers[number]? = some ⟨unit, .reporting⟩)
    (striped : (state.finishUnit observer number unit).Striped) :
    (state.finishUnit observer number unit).Accounted phase before first := by
  have own : unit % state.workers.length = number := account.striped number _ here
  have set : (state.finishUnit observer number unit).workers = state.workers.set number
      ⟨unit + state.workers.length, .looking⟩ := rfl
  exact {
    striped
    inside := account.inside_of_set set (by simp)
    nodup := account.nodup
    mem_units := by
      intro last
      refine (account.mem_units last).trans (and_congr_right fun _ => ?_)
      refine (hasBegun_of_set here set fun stripe => ?_).symm
      have positive := Nat.zero_lt_of_lt (List.getElem?_eq_some_iff.mp here).1
      -- units of one stripe are a whole stride apart
      have apart : last < unit + state.workers.length → last ≤ unit :=
        Nat.ModEq.le_of_lt_add (stripe.trans own.symm)
      rw [Worker.hasBegun_iff_lt rfl, Worker.hasBegun_iff_le rfl]
      show last < unit + state.workers.length ↔ last ≤ unit
      exact ⟨apart, by omega⟩
    shared := account.shared
    reported := by
      obtain ⟨completed, report, length, reports⟩ := account.reported
      have less : (state.finishUnit observer number unit).unreported + 1 = state.unreported := by
        simpa [Worker.isUnreported] using unreported_of_set here set
      have next : (state.progress.advance 1).report =
          reportAt phase.name phase.count (completed + 1) := by
        rw [Progress.report, reportAt, ProgressReport.mk.injEq] at report ⊢
        obtain ⟨name, finished, total⟩ := report
        exact ⟨name, congrArg (· + 1) finished, total⟩
      refine ⟨completed + 1, next, ?_, ?_⟩
      · rw [Nat.add_assoc, Nat.add_comm 1, less]
        exact length
      · rw [List.range_succ, List.map_append, ← List.append_assoc, ← reports, List.map_singleton,
          ← next]
        exact Journal.reports_push _ _ }

theorem move (account : state.Accounted phase before first) {turn : Turn}
    (moves : Move observer phase state turn after) : after.Accounted phase before first := by
  have striped := moves.striped account.striped
  cases moves with
  | idle nobody => exact account
  | begin here inside going => exact account.setWorker here rfl rfl striped
  | @leave number unit stage here free going =>
      refine account.setWorker here ?_ rfl striped
      cases stage with
      | looking => rfl
      | working => rfl
      | reporting =>
          have inside := account.inside number unit here
          rcases free with behind | ⟨looking, -⟩
          · omega
          · cases looking
      | ended failure => exact absurd rfl (going failure)
  | @work number unit here => exact account.worked here striped
  | @report number unit here => exact account.finishUnit here striped
  | @interruption number unit first here =>
      obtain ⟨completed, report, length, reports⟩ := account.reported
      exact { account with
        reported := ⟨completed, report, length, (Journal.reports_log _ _ _).trans reports⟩ }
  | @failure number unit e first here => exact { account with }
  | halt => exact { account with }

theorem complete (account : state.Accounted phase before first)
    (workers : 0 < phase.count → 0 < state.workers.length)
    (behind : ∀ worker ∈ state.workers, worker.stage = .ended none ∧ phase.count ≤ worker.unit) :
    state.units.Perm (List.range phase.count) ∧
      state.journal.reports = before ++ phaseTrace phase.name phase.count := by
  have all : ∀ unit, unit ∈ state.units ↔ unit ∈ List.range phase.count := by
    intro unit
    rw [account.mem_units, List.mem_range]
    refine and_iff_left_of_imp fun inside => ?_
    have place := Nat.mod_lt unit (workers (Nat.zero_lt_of_lt inside))
    exact ⟨_, List.getElem?_eq_getElem place,
      .inl (inside.trans_le (behind _ (List.getElem_mem place)).2)⟩
  have units := (List.perm_ext_iff_of_nodup account.nodup List.nodup_range).mpr all
  have unreported : state.unreported = 0 := List.countP_eq_zero.mpr fun worker member => by
    simp [Worker.isUnreported, (behind worker member).1]
  obtain ⟨completed, -, total, reports⟩ := account.reported
  rw [unreported, units.length_eq, List.length_range, Nat.add_zero] at total
  exact ⟨units, by rw [reports, total, phaseTrace]⟩

end Accounted

end PhaseState

namespace Pool

variable {observer : Observer} {phase : Phase σ ε}

theorem reports_start (observer : Observer) (phase : Phase σ ε) (pool : Pool) (shared : σ) :
    (pool.start observer phase shared).journal.reports =
      pool.journal.reports ++ [reportAt phase.name phase.count 0] :=
  (Journal.reports_push _ _).trans (congrArg (· ++ _) (Journal.reports_log _ _ _))

theorem start_accounted (pool : Pool) (shared : σ) :
    (pool.start observer phase shared).Accounted phase pool.journal.reports shared where
  striped := striped_start observer phase pool shared
  inside number unit here := by
    have looking := List.mem_of_getElem? here
    rw [workers_start] at looking
    simp at looking
  nodup := List.nodup_nil
  mem_units unit := by
    refine iff_of_false List.not_mem_nil ?_
    rintro ⟨-, worker, here, begun⟩
    obtain ⟨inside, equal⟩ := List.getElem?_eq_some_iff.mp here
    simp only [workers_start, List.getElem_map, List.getElem_range] at equal
    subst equal
    exact absurd (begun.resolve_right (by simp [Worker.isUnreported])) (Nat.not_lt.mpr (Nat.mod_le _ _))
  shared := rfl
  reported := by
    refine ⟨0, rfl, ?_, reports_start observer phase pool shared⟩
    rw [PhaseState.unreported, workers_start, List.countP_map, List.countP_eq_zero.mpr]
    · rfl
    · simp [Worker.isUnreported]

variable (observer phase)

theorem final_accounted (pool : Pool) (schedule : Schedule) (shared : σ) :
    (pool.final observer schedule phase shared).Accounted phase pool.journal.reports shared :=
  PhaseState.turns_induction _ (start_accounted pool shared) fun _ _ _ _ account moves =>
    account.move moves

end Pool

end SourceSimilarity
