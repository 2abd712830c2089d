import SourceSimilarity.Scan.Run
import SourceSimilarity.Proofs.Config.Valid
import SourceSimilarity.Proofs.Scan.Visit
import Mathlib.Data.List.Count

namespace SourceSimilarity.Scan

structure Entry where
  name : String
  count : Nat
  schedule : Schedule

def Entry.trace (entry : Entry) : List ProgressReport := phaseTrace entry.name entry.count

def Visit.entry (visit : Visit) : Entry := ⟨visit.phase.name, visit.phase.count, visit.schedule⟩

namespace Setting

variable (setting : Setting)

def entries (comparators : List Comparator) : List Entry :=
  comparators.flatMap fun comparator =>
    [⟨s!"{comparator.title} preprocessing", setting.fileCount, setting.plan.preparation comparator⟩,
      ⟨s!"{comparator.title} comparison", setting.pairCount, setting.plan.comparison comparator⟩]

/-- What is reported of a scan that is not cut short. -/
def fullTrace : List ProgressReport :=
  (Comparator.arrange setting.config.enabled).flatMap fun comparator =>
    phaseTrace s!"{comparator.title} preprocessing" setting.fileCount ++
      phaseTrace s!"{comparator.title} comparison" setting.pairCount

theorem entries_cons (comparator : Comparator) (comparators : List Comparator) :
    setting.entries (comparator :: comparators) =
      setting.entries [comparator] ++ setting.entries comparators := by
  simp [entries]

theorem flatMap_trace_entries (comparators : List Comparator) :
    (setting.entries comparators).flatMap Entry.trace = comparators.flatMap fun comparator =>
      phaseTrace s!"{comparator.title} preprocessing" setting.fileCount ++
        phaseTrace s!"{comparator.title} comparison" setting.pairCount := by
  simp [entries, List.flatMap_assoc, Entry.trace]

end Setting

def scoreOf? (setting : Setting) (comparator : Comparator)
    (artefacts : Vector (Artefact comparator) setting.fileCount) (pair : Fin setting.pairCount) :
    Option Score :=
  let files := setting.task.pairs.toVector.get pair
  Score.ofInt? (Artefact.compare comparator (artefacts.get files.1) (artefacts.get files.2)).1

def written (setting : Setting) (comparator : Comparator)
    (artefacts : Vector (Artefact comparator) setting.fileCount) (unit : Nat) :
    Option (Fin setting.pairCount × Score) :=
  if inside : unit < setting.pairCount then
    (scoreOf? setting comparator artefacts ⟨unit, inside⟩).map fun score => (⟨unit, inside⟩, score)
  else none

def write {pairs : Nat} (scores : Vector Score pairs) (entry : Fin pairs × Score) :
    Vector Score pairs :=
  scores.set entry.1 entry.2

section Written

variable {setting : Setting} {comparator : Comparator}
  {artefacts : Vector (Artefact comparator) setting.fileCount}

theorem comparePair_shared (pair : Fin setting.pairCount) (scores : Vector Score setting.pairCount) :
    (comparePair setting comparator artefacts pair scores).shared =
      (scoreOf? setting comparator artefacts pair).elim scores
        fun score => scores.set pair score pair.isLt := by
  have files : setting.task.pairs.toVector.get pair = setting.task.pairs[pair] := rfl
  unfold comparePair scoreOf?
  rw [files]
  dsimp only
  cases fits : Score.ofInt? _ with
  | none => rfl
  | some score => rfl

theorem exists_score {pair : Fin setting.pairCount} {scores : Vector Score setting.pairCount}
    (succeeds : (comparePair setting comparator artefacts pair scores).failure = none) :
    ∃ score, scoreOf? setting comparator artefacts pair = some score := by
  have files : setting.task.pairs.toVector.get pair = setting.task.pairs[pair] := rfl
  unfold comparePair at succeeds
  unfold scoreOf?
  rw [files]
  dsimp only at succeeds ⊢
  split at succeeds
  · exact ⟨_, ‹_›⟩
  · cases succeeds

theorem perform_comparison (scores : Vector Score setting.pairCount) (unit : Nat) :
    (comparison setting comparator artefacts).perform scores unit =
      (written setting comparator artefacts unit).elim scores (write scores) := by
  unfold Phase.perform written
  by_cases inside : unit < setting.pairCount
  · have present : unit < (comparison setting comparator artefacts).count := inside
    rw [dif_pos present, dif_pos inside]
    refine (comparePair_shared ⟨unit, inside⟩ scores).trans ?_
    cases scoreOf? setting comparator artefacts ⟨unit, inside⟩ with
    | none => rfl
    | some score => rfl
  · have absent : ¬ unit < (comparison setting comparator artefacts).count := inside
    rw [dif_neg absent, dif_neg inside, Option.elim_none]

theorem map_written {units : List Nat}
    (fit : ∀ unit ∈ units, ∃ entry, written setting comparator artefacts unit = some entry) :
    (units.filterMap (written setting comparator artefacts)).map (·.1.val) = units := by
  induction units with
  | nil => rfl
  | cons unit units ih =>
      obtain ⟨entry, found⟩ := fit unit List.mem_cons_self
      have place : entry.1.val = unit := by
        unfold written at found
        split at found
        · obtain ⟨score, -, same⟩ := Option.map_eq_some_iff.mp found
          rw [← same]
        · cases found
      rw [List.filterMap_cons_some found, List.map_cons, place,
        ih fun other member => fit other (List.mem_cons_of_mem unit member)]

end Written

def preparing (setting : Setting) (comparator : Comparator) (state : State setting.pairCount) :
    Visit where
  phase := preparation setting comparator
  schedule := setting.plan.preparation comparator
  pool := state.pool
  shared := {
    cache := state.cache
    artefacts := Vector.replicate setting.fileCount (Artefact.missing comparator) }

def comparing (setting : Setting) (comparator : Comparator) (pool : Pool)
    (artefacts : Vector (Artefact comparator) setting.fileCount) : Visit where
  phase := comparison setting comparator artefacts
  schedule := setting.plan.comparison comparator
  pool := pool
  shared := Vector.replicate setting.pairCount 0

def prepared (setting : Setting) (comparator : Comparator) (state : State setting.pairCount) :
    Pool.Ending (Preparation comparator setting.fileCount) UnitError :=
  (preparing setting comparator state).ending setting.observer

def visitsOf (setting : Setting) (state : State setting.pairCount) (comparator : Comparator) :
    List Visit :=
  let first := prepared setting comparator state
  match first.error, setting.config.fault? first.shared.cache setting.fileCount with
  | none, none =>
    [preparing setting comparator state,
      comparing setting comparator first.pool first.shared.artefacts]
  | _, _ => [preparing setting comparator state]

/-- The phases of some comparators that are entered, until one fails. -/
def visitsFrom (setting : Setting) (state : State setting.pairCount) :
    List Comparator → List Visit
  | [] => []
  | comparator :: comparators =>
    visitsOf setting state comparator ++ match runComparator setting state comparator with
      | (after, none) => visitsFrom setting after comparators
      | (_, some _) => []

/-- That the scores of a comparator are those that the units of its comparison have written, with
one written to each place. -/
def Filled (setting : Setting) (visits : List Visit) (table : ScoreTable setting.pairCount)
    (comparator : Comparator) : Prop :=
  ∃ pool artefacts, comparing setting comparator pool artefacts ∈ visits ∧
    let entries := ((comparing setting comparator pool artefacts).units setting.observer).filterMap
      (written setting comparator artefacts)
    table.get? comparator = some (entries.foldl write (Vector.replicate setting.pairCount 0)) ∧
      ∀ place, (entries.map (·.1)).count place = 1

theorem Filled.mono {setting : Setting} {visits more : List Visit}
    {table other : ScoreTable setting.pairCount} {comparator : Comparator}
    (filled : Filled setting visits table comparator) (within : visits ⊆ more)
    (same : other.get? comparator = table.get? comparator) : Filled setting more other comparator := by
  obtain ⟨pool, artefacts, member, scores, once⟩ := filled
  exact ⟨pool, artefacts, within member, same.trans scores, once⟩

theorem filled_of_complete {setting : Setting} {comparator : Comparator} {pool : Pool}
    {artefacts : Vector (Artefact comparator) setting.fileCount}
    (complete : (comparing setting comparator pool artefacts).Complete setting.observer) :
    let visit := comparing setting comparator pool artefacts
    ∀ table : ScoreTable setting.pairCount,
      table.get? comparator = some (visit.ending setting.observer).shared →
      Filled setting [visit] table comparator := by
  intro visit table found
  have fit : ∀ unit ∈ visit.units setting.observer,
      ∃ entry, written setting comparator artefacts unit = some entry := by
    intro unit member
    have inside : unit < setting.pairCount := List.mem_range.mp (complete.units.mem_iff.mp member)
    obtain ⟨scores, succeeds⟩ := complete.succeeds ⟨unit, inside⟩
    have fits : ∃ score, scoreOf? setting comparator artefacts ⟨unit, inside⟩ = some score :=
      exists_score succeeds
    obtain ⟨score, fits⟩ := fits
    exact ⟨_, by rw [written, dif_pos inside, fits, Option.map_some]⟩
  refine ⟨pool, artefacts, List.mem_singleton_self _, ?_, ?_⟩
  · rw [found, complete.shared, List.foldl_filterMap]
    refine congrArg some (congrArg (List.foldl · _ _) ?_)
    funext scores unit
    refine (perform_comparison scores unit).trans ?_
    cases written setting comparator artefacts unit with
    | none => rfl
    | some entry => rfl
  · intro place
    rw [← List.count_map_of_injective _ Fin.val fun _ _ => Fin.ext, List.map_map]
    show ((List.filterMap _ _).map fun entry : Fin setting.pairCount × Score => entry.1.val).count
      place.val = 1
    rw [map_written fit, complete.units.count_eq]
    exact List.count_eq_one_of_mem List.nodup_range (List.mem_range.mpr place.2)

/-- What a run of some comparators from one state comes to, for the phases that it enters. -/
structure Course (setting : Setting) (comparators : List Comparator)
    (state after : State setting.pairCount) (error : Option ScanError) (visits : List Visit) :
    Prop where
  threads : after.pool.threads = state.pool.threads
  reports : after.pool.journal.reports =
    state.pool.journal.reports ++ visits.flatMap (Visit.reports setting.observer)
  pools : ∀ visit ∈ visits, visit.pool.threads = state.pool.threads
  failed : ∀ visit ∈ visits, ∀ e, (visit.ending setting.observer).error = some e →
    error = some (errorOf e)
  passed : visits.Pairwise fun earlier _ => (earlier.ending setting.observer).error = none
  caused : ∀ e, error = some e →
    (∃ visit ∈ visits, ∃ failure, (visit.ending setting.observer).error = some failure ∧
      e = errorOf failure) ∨
    ∃ fault, e = .unreadable fault
  entered : visits.map Visit.entry <+: setting.entries comparators
  whole : error = none → visits.map Visit.entry = setting.entries comparators
  filled : error = none → ∀ comparator ∈ comparators, Filled setting visits after.table comparator
  kept : ∀ comparator, comparator ∉ comparators →
    after.table.get? comparator = state.table.get? comparator

namespace Course

variable {setting : Setting}

theorem nil (state : State setting.pairCount) : Course setting [] state state none [] where
  threads := rfl
  reports := (List.append_nil _).symm
  pools := by simp
  failed := by simp
  passed := .nil
  caused := by simp
  entered := List.nil_prefix
  whole _ := rfl
  filled := by simp
  kept _ _ := rfl

theorem append {comparator : Comparator} {comparators : List Comparator}
    {state between after : State setting.pairCount} {error : Option ScanError}
    {first second : List Visit} (fresh : comparator ∉ comparators)
    (before : Course setting [comparator] state between none first)
    (later : Course setting comparators between after error second) :
    Course setting (comparator :: comparators) state after error (first ++ second) where
  threads := later.threads.trans before.threads
  reports := by
    rw [later.reports, before.reports, List.flatMap_append, List.append_assoc]
  pools := by
    intro visit member
    rcases List.mem_append.mp member with early | late
    · exact before.pools visit early
    · exact (later.pools visit late).trans before.threads
  failed := by
    intro visit member e fails
    rcases List.mem_append.mp member with early | late
    · cases before.failed visit early e fails
    · exact later.failed visit late e fails
  passed := by
    refine List.pairwise_append.mpr ⟨before.passed, later.passed, fun visit member _ _ => ?_⟩
    cases ends : (visit.ending setting.observer).error with
    | none => rfl
    | some e => cases before.failed visit member e ends
  caused := by
    intro e fails
    refine (later.caused e fails).imp_left ?_
    rintro ⟨visit, member, failure, cause⟩
    exact ⟨visit, List.mem_append_right first member, failure, cause⟩
  entered := by
    rw [List.map_append, before.whole rfl, Setting.entries_cons]
    exact (List.prefix_append_right_inj _).mpr later.entered
  whole passed := by
    rw [setting.entries_cons comparator comparators, List.map_append, before.whole rfl,
      later.whole passed]
  filled passed other member := by
    rcases List.mem_cons.mp member with rfl | member
    · exact (before.filled rfl other List.mem_cons_self).mono (List.subset_append_left first second)
        (later.kept other fresh)
    · exact (later.filled passed other member).mono (List.subset_append_right first second) rfl
  kept other absent := by
    rw [List.mem_cons, not_or] at absent
    exact (later.kept other absent.2).trans (before.kept other (by simpa using absent.1))

/-- A run that ends with an error is the same for any comparators that would have followed. -/
theorem stop {comparator : Comparator} {comparators : List Comparator}
    {state after : State setting.pairCount} {e : ScanError} {visits : List Visit}
    (course : Course setting [comparator] state after (some e) visits) :
    Course setting (comparator :: comparators) state after (some e) visits where
  threads := course.threads
  reports := course.reports
  pools := course.pools
  failed := course.failed
  passed := course.passed
  caused := course.caused
  entered := by
    rw [setting.entries_cons comparator comparators]
    exact course.entered.trans (List.prefix_append _ _)
  whole := by simp
  filled := by simp
  kept other absent := course.kept other fun member =>
    absent (List.mem_cons.mpr (.inl (List.mem_singleton.mp member)))

end Course

theorem runComparator_eq (setting : Setting) (state : State setting.pairCount)
    (comparator : Comparator) :
    runComparator setting state comparator =
      let first := prepared setting comparator state
      let between := { state with pool := first.pool, cache := first.shared.cache }
      match first.error with
      | some e => (between, some (errorOf e))
      | none =>
        match setting.config.fault? first.shared.cache setting.fileCount with
        | some fault => (between, some (.unreadable fault))
        | none =>
          let second := (comparing setting comparator first.pool first.shared.artefacts).ending
            setting.observer
          ({ between with pool := second.pool, table := state.table.insert comparator second.shared },
            second.error.map errorOf) := rfl

section Comparator

variable {setting : Setting} {state : State setting.pairCount} {comparator : Comparator}

theorem reports_prepared : (prepared setting comparator state).pool.journal.reports =
    state.pool.journal.reports ++ (preparing setting comparator state).reports setting.observer :=
  Visit.reports_ending

theorem threads_prepared : (prepared setting comparator state).pool.threads = state.pool.threads :=
  Visit.threads_ending

theorem course_of_preparing {e : ScanError}
    (failed : ∀ failure, (prepared setting comparator state).error = some failure →
      e = errorOf failure)
    (caused : (∃ failure, (prepared setting comparator state).error = some failure) ∨
      ∃ fault, e = .unreadable fault) :
    Course setting [comparator] state
      { state with
        pool := (prepared setting comparator state).pool
        cache := (prepared setting comparator state).shared.cache }
      (some e) [preparing setting comparator state] where
  threads := threads_prepared
  reports := by
    rw [List.flatMap_singleton]
    exact reports_prepared
  pools := by
    intro visit member
    obtain rfl := List.mem_singleton.mp member
    rfl
  failed := by
    intro visit member failure fails
    obtain rfl := List.mem_singleton.mp member
    rw [failed failure fails]
  passed := List.pairwise_singleton _ _
  caused := by
    rintro _ ⟨⟩
    refine caused.imp_left ?_
    rintro ⟨failure, fails⟩
    exact ⟨_, List.mem_singleton_self _, failure, fails, failed failure fails⟩
  entered := ⟨[_], rfl⟩
  whole := by simp
  filled := by simp
  kept _ _ := rfl

theorem course_of_comparing (positive : 1 ≤ state.pool.threads)
    (passed : (prepared setting comparator state).error = none) :
    let first := prepared setting comparator state
    let visit := comparing setting comparator first.pool first.shared.artefacts
    let second := visit.ending setting.observer
    Course setting [comparator] state
      { state with
        pool := second.pool
        cache := first.shared.cache
        table := state.table.insert comparator second.shared }
      (second.error.map errorOf) [preparing setting comparator state, visit] := by
  intro first visit second
  exact {
    threads := Visit.threads_ending.trans threads_prepared
    reports := by
      have both : second.pool.journal.reports = _ := Visit.reports_ending
      show second.pool.journal.reports = _
      rw [both]
      show first.pool.journal.reports ++ _ = _
      rw [reports_prepared, List.append_assoc, List.flatMap_cons, List.flatMap_singleton]
    pools := by
      intro other member
      rcases List.mem_cons.mp member with rfl | member
      · rfl
      · obtain rfl := List.mem_singleton.mp member
        exact threads_prepared
    failed := by
      intro other member failure fails
      rcases List.mem_cons.mp member with rfl | member
      · cases passed.symm.trans fails
      · obtain rfl := List.mem_singleton.mp member
        exact congrArg (Option.map errorOf) fails
    passed := List.pairwise_pair.mpr passed
    caused := by
      intro e fails
      obtain ⟨failure, ends, rfl⟩ := Option.map_eq_some_iff.mp fails
      exact .inl ⟨visit, List.mem_cons_of_mem _ List.mem_cons_self, failure, ends, rfl⟩
    entered := List.prefix_rfl
    whole := fun _ => rfl
    filled := by
      intro finished other member
      obtain rfl := List.mem_singleton.mp member
      have positive : 1 ≤ visit.pool.threads := threads_prepared.symm ▸ positive
      have complete := Visit.complete positive (Option.map_eq_none_iff.mp finished)
      refine (filled_of_complete complete _ ?_).mono (List.subset_cons_self _ _) rfl
      exact ScoreTable.get?_insert_self _ _ _
    kept := fun other absent =>
      ScoreTable.get?_insert_of_ne _ _ fun same => absent (List.mem_singleton.mpr same) }

theorem runComparator_course (positive : 1 ≤ state.pool.threads) (comparator : Comparator) :
    Course setting [comparator] state (runComparator setting state comparator).1
      (runComparator setting state comparator).2 (visitsOf setting state comparator) := by
  rw [runComparator_eq, visitsOf]
  cases ends : (prepared setting comparator state).error with
  | some failure =>
      simp only [ends]
      refine course_of_preparing (fun other same => ?_) (.inl ⟨failure, ends⟩)
      rw [Option.some.inj (ends.symm.trans same)]
  | none =>
      cases reads : setting.config.fault? (prepared setting comparator state).shared.cache
        setting.fileCount with
      | some fault =>
          simp only [ends, reads]
          refine course_of_preparing (fun other same => ?_) (.inr ⟨fault, rfl⟩)
          cases ends.symm.trans same
      | none =>
          simp only [ends, reads]
          exact course_of_comparing positive ends

end Comparator

theorem runComparators_course {setting : Setting} {comparators : List Comparator}
    (nodup : comparators.Nodup) {state : State setting.pairCount}
    (positive : 1 ≤ state.pool.threads) :
    Course setting comparators state (runComparators setting state comparators).1
      (runComparators setting state comparators).2 (visitsFrom setting state comparators) := by
  induction comparators generalizing state with
  | nil => exact .nil state
  | cons comparator comparators ih =>
      obtain ⟨fresh, nodup⟩ := List.nodup_cons.mp nodup
      have first := runComparator_course positive comparator
      rw [runComparators, visitsFrom]
      cases ran : runComparator setting state comparator with
      | mk after error =>
          rw [ran] at first
          cases error with
          | none => exact first.append fresh (ih nodup (first.threads ▸ positive))
          | some e =>
              rw [List.append_nil]
              exact first.stop

end SourceSimilarity.Scan
