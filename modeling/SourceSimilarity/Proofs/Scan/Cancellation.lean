import SourceSimilarity.Proofs.Scan.Course
import SourceSimilarity.Proofs.Scan.Refinement

namespace SourceSimilarity.Scan

def started (setting : Setting) (halted : Bool) : State setting.pairCount :=
  let first := opened setting
  { first with pool := { first.pool with halted } }

def visits (setting : Setting) (halted : Bool) : List Visit :=
  visitsFrom setting (started setting halted) setting.config.enabled

structure NoPartialScan (setting : Setting) (halted : Bool) (outcome : Outcome setting.pairCount)
    (visits : List Visit) : Prop where
  first : ∃ visit ∈ visits.head?, visit.pool.halted = halted
  entered : visits.map Visit.entry <+:
    setting.entries (Comparator.arrange setting.config.enabled)
  reports : outcome.journal.reports = visits.flatMap (Visit.reports setting.observer)
  trace : outcome.journal.reports <+: setting.fullTrace
  /-- A table has every score written once, and nothing is missing from the reports. -/
  table : ∀ table, outcome.scores = .ok table →
    outcome.journal.reports = setting.fullTrace ∧
      visits.map Visit.entry = setting.entries (Comparator.arrange setting.config.enabled) ∧
      (∀ comparator ∈ setting.config.enabled, Filled setting visits table comparator) ∧
      ∀ comparator, table.contains comparator = true ↔ comparator ∈ setting.config.enabled
  /-- A scan that is halted at any moment gives no table. -/
  refused : halted = true ∨
    (∃ entry ∈ setting.entries (Comparator.arrange setting.config.enabled),
      entry.schedule.haltedBefore = true ∨ Turn.halt ∈ entry.schedule.turns) ∨
    (∃ report ∈ outcome.journal.reports, setting.observer report = true) →
    ∀ table, outcome.scores ≠ .ok table
  /-- A phase that is entered when the scan is halted reports nothing. -/
  flagged : ∀ visit ∈ visits, visit.isFlagged = true →
    visit.reports setting.observer = [] ∧ outcome.scores = .error (.cancelled visit.phase.name)
  /-- Whoever halts a scan before a phase or during it, it is halted at the end of the phase. -/
  halts : ∀ visit ∈ visits, visit.isFlagged = true ∨ Turn.halt ∈ visit.schedule.turns ∨
    (∃ report ∈ visit.reports setting.observer, setting.observer report = true) →
    visit.isHalted setting.observer = true
  interrupts : ∀ visit ∈ visits, .interrupted ∈ visit.failures setting.observer →
    visit.isHalted setting.observer = true ∨ ∃ e, .raised e ∈ visit.failures setting.observer
  /-- A scan that is halted during a phase is cancelled, unless a unit of the phase has failed. -/
  cancelled : ∀ visit ∈ visits, visit.isHalted setting.observer = true →
    outcome.scores = .error (.cancelled visit.phase.name) ∨
      ∃ e, .raised e ∈ visit.failures setting.observer ∧ outcome.scores = .error (.unit e)
  /-- No phase is entered after one during which the scan was halted. -/
  last : visits.Pairwise fun earlier _ => earlier.isHalted setting.observer = false
  failed : ∀ e, outcome.scores = .error e →
    (∃ visit ∈ visits, visit.isHalted setting.observer = true ∧ e = .cancelled visit.phase.name) ∨
      (∃ visit ∈ visits, ∃ cause, .raised cause ∈ visit.failures setting.observer ∧
        e = .unit cause) ∨
      ∃ fault, e = .unreadable fault

theorem reports_prefix_of_passed {observer : Observer} {visits : List Visit}
    (positive : ∀ visit ∈ visits, 1 ≤ visit.pool.threads)
    (passed : visits.Pairwise fun earlier _ => (earlier.ending observer).error = none) :
    visits.flatMap (Visit.reports observer) <+: (visits.map Visit.entry).flatMap Entry.trace := by
  induction visits with
  | nil => exact List.nil_prefix
  | cons visit visits ih =>
      obtain ⟨ends, passed⟩ := List.pairwise_cons.mp passed
      have rest := ih (fun later member => positive later (List.mem_cons_of_mem visit member)) passed
      rw [List.flatMap_cons, List.map_cons, List.flatMap_cons]
      show _ <+: visit.trace ++ _
      cases visits with
      | nil =>
          rw [List.flatMap_nil, List.append_nil]
          exact Visit.reports_prefix.trans (List.prefix_append _ _)
      | cons next later =>
          have complete := Visit.complete (positive visit List.mem_cons_self)
            (ends next List.mem_cons_self)
          rw [complete.reports]
          exact (List.prefix_append_right_inj _).mpr rest

theorem reports_of_passed {observer : Observer} {visits : List Visit}
    (positive : ∀ visit ∈ visits, 1 ≤ visit.pool.threads)
    (passed : ∀ visit ∈ visits, (visit.ending observer).error = none) :
    visits.flatMap (Visit.reports observer) = (visits.map Visit.entry).flatMap Entry.trace := by
  rw [List.flatMap_map]
  refine List.flatMap_congr fun visit member => ?_
  exact (Visit.complete (positive visit member) (passed visit member)).reports

namespace Course

variable {setting : Setting} {comparators : List Comparator}
  {state after : State setting.pairCount} {error : Option ScanError} {visits : List Visit}

theorem positive (course : Course setting comparators state after error visits)
    (positive : 1 ≤ state.pool.threads) : ∀ visit ∈ visits, 1 ≤ visit.pool.threads :=
  fun visit member => course.pools visit member ▸ positive

theorem reports_prefix (course : Course setting comparators state after error visits)
    (positive : 1 ≤ state.pool.threads) :
    visits.flatMap (Visit.reports setting.observer) <+:
      (setting.entries comparators).flatMap Entry.trace := by
  refine (reports_prefix_of_passed (course.positive positive) course.passed).trans ?_
  obtain ⟨others, all⟩ := course.entered
  rw [← all, List.flatMap_append]
  exact List.prefix_append _ _

theorem reports_of_finished (course : Course setting comparators state after none visits)
    (positive : 1 ≤ state.pool.threads) :
    visits.flatMap (Visit.reports setting.observer) =
      (setting.entries comparators).flatMap Entry.trace := by
  rw [← course.whole rfl]
  refine reports_of_passed (course.positive positive) fun visit member => ?_
  cases ends : (visit.ending setting.observer).error with
  | none => rfl
  | some e => cases course.failed visit member e ends

theorem contains_iff (course : Course setting comparators state after none visits)
    (empty : state.table = .empty) (comparator : Comparator) :
    after.table.contains comparator = true ↔ comparator ∈ comparators := by
  rw [ScoreTable.contains, Option.isSome_iff_exists]
  constructor
  · rintro ⟨scores, present⟩
    by_contra absent
    rw [course.kept comparator absent, empty, ScoreTable.get?_empty] at present
    cases present
  · intro member
    obtain ⟨pool, artefacts, -, filled, -⟩ := course.filled rfl comparator member
    exact ⟨_, filled⟩

theorem error_of_halted (course : Course setting comparators state after error visits)
    {visit : Visit} (member : visit ∈ visits) (halted : visit.isHalted setting.observer = true) :
    error = some (.cancelled visit.phase.name) ∨
      ∃ e, .raised e ∈ visit.failures setting.observer ∧ error = some (.unit e) := by
  refine (Visit.error_of_halted halted).imp (course.failed visit member _) ?_
  rintro ⟨e, raised, ends⟩
  exact ⟨e, raised, course.failed visit member _ ends⟩

theorem going (course : Course setting comparators state after none visits) {visit : Visit}
    (member : visit ∈ visits) : visit.isHalted setting.observer = false := by
  by_contra halted
  rcases course.error_of_halted member (Bool.eq_true_of_not_eq_false halted) with
    cancelled | ⟨e, -, failed⟩
  · cases cancelled
  · cases failed

theorem not_halts (course : Course setting comparators state after none visits) :
    (∀ visit ∈ visits.head?, visit.pool.halted = false) ∧
      (∀ entry ∈ setting.entries comparators,
        entry.schedule.haltedBefore = false ∧ Turn.halt ∉ entry.schedule.turns) ∧
      ∀ report ∈ visits.flatMap (Visit.reports setting.observer), setting.observer report = false := by
  have free : ∀ visit ∈ visits, visit.isFlagged = false := by
    intro visit member
    cases flagged : visit.isFlagged with
    | false => rfl
    | true => cases (course.going member).symm.trans (Visit.isHalted_of_flagged flagged)
  refine ⟨fun visit member => ?_, fun entry member => ?_, fun report member => ?_⟩
  · exact (Bool.or_eq_false_iff.mp (free visit (List.mem_of_mem_head? member))).1
  · rw [← course.whole rfl] at member
    obtain ⟨visit, entered, rfl⟩ := List.mem_map.mp member
    refine ⟨(Bool.or_eq_false_iff.mp (free visit entered)).2, fun turn => ?_⟩
    cases (course.going entered).symm.trans (Visit.isHalted_of_turn turn)
  · obtain ⟨visit, entered, reported⟩ := List.mem_flatMap.mp member
    cases halts : setting.observer report with
    | false => rfl
    | true => cases (course.going entered).symm.trans (Visit.isHalted_of_report reported halts)

theorem last (course : Course setting comparators state after error visits)
    (positive : 1 ≤ state.pool.threads) :
    visits.Pairwise fun earlier _ => earlier.isHalted setting.observer = false := by
  refine course.passed.imp_of_mem ?_
  intro visit _ member _ ends
  exact (Visit.complete (course.positive positive visit member) ends).going

theorem error_cases {e : ScanError} (course : Course setting comparators state after (some e) visits) :
    (∃ visit ∈ visits, visit.isHalted setting.observer = true ∧ e = .cancelled visit.phase.name) ∨
      (∃ visit ∈ visits, ∃ cause, .raised cause ∈ visit.failures setting.observer ∧
        e = .unit cause) ∨
      ∃ fault, e = .unreadable fault := by
  rcases course.caused e rfl with ⟨visit, member, failure, ends, rfl⟩ | unreadable
  · rcases Visit.error_cases ends with ⟨rfl, halted⟩ | ⟨cause, rfl, raised⟩
    · exact .inl ⟨visit, member, halted, rfl⟩
    · exact .inr (.inl ⟨visit, member, cause, raised, rfl⟩)
  · exact .inr (.inr unreadable)

end Course

variable {setting : Setting}

theorem nodup_arrange (members : List Comparator) : (Comparator.arrange members).Nodup :=
  List.Nodup.filter _ (by decide)

theorem threads_started (setting : Setting) (halted : Bool) :
    1 ≤ (started setting halted).pool.threads := by
  show 1 ≤ (max 1 (setting.config.threads : Int)).toNat
  omega

theorem head?_visitsFrom (state : State setting.pairCount) (comparator : Comparator)
    (comparators : List Comparator) :
    (visitsFrom setting state (comparator :: comparators)).head? =
      some (preparing setting comparator state) := by
  rw [visitsFrom, visitsOf]
  cases (prepared setting comparator state).error with
  | some e => rfl
  | none =>
      cases setting.config.fault? (prepared setting comparator state).shared.cache
        setting.fileCount with
      | some fault => rfl
      | none => rfl

theorem exists_course (arranged : Comparator.arrange setting.config.enabled = setting.config.enabled)
    (halted : Bool) :
    ∃ after error, Course setting setting.config.enabled (started setting halted) after error
        (visits setting halted) ∧
      (run setting halted).journal.reports =
        (visits setting halted).flatMap (Visit.reports setting.observer) ∧
      (run setting halted).scores = match error with
        | some e => .error e
        | none => .ok after.table := by
  have nodup : setting.config.enabled.Nodup := arranged ▸ nodup_arrange setting.config.enabled
  have course := runComparators_course nodup (threads_started setting halted)
  refine ⟨_, _, course, course.reports.trans ?_, rfl⟩
  show Journal.reports (Journal.log _ _ _) ++ _ = _
  rw [Journal.reports_log]
  rfl

theorem no_partial_scan (valid : setting.config.toDraft.check = .ok setting.config) (halted : Bool) :
    NoPartialScan setting halted (run setting halted) (visits setting halted) := by
  obtain ⟨-, nonempty, arranged, -⟩ := setting.config.check_toDraft_iff.mp valid
  obtain ⟨after, error, course, reports, scores⟩ := exists_course arranged halted
  have positive := threads_started setting halted
  have trace : setting.fullTrace = (setting.entries setting.config.enabled).flatMap Entry.trace := by
    rw [Setting.flatMap_trace_entries, Setting.fullTrace, arranged]
  have first : ∃ visit ∈ (visits setting halted).head?, visit.pool.halted = halted := by
    obtain ⟨comparator, comparators, equal⟩ := List.exists_cons_of_ne_nil nonempty
    rw [visits, equal, head?_visitsFrom]
    exact ⟨_, rfl, rfl⟩
  exact {
    first
    entered := by
      rw [arranged]
      exact course.entered
    reports
    trace := by
      rw [reports, trace]
      exact course.reports_prefix positive
    table := by
      intro table found
      rw [found] at scores
      cases error with
      | some e => cases scores
      | none =>
          obtain rfl := Except.ok.inj scores
          refine ⟨?_, ?_, course.filled rfl, course.contains_iff rfl⟩
          · rw [reports, trace]
            exact course.reports_of_finished positive
          · rw [arranged]
            exact course.whole rfl
    refused := by
      intro halts table found
      rw [found] at scores
      cases error with
      | some e => cases scores
      | none =>
          obtain ⟨before, during, observed⟩ := course.not_halts
          rcases halts with early | ⟨entry, member, halts⟩ | ⟨report, member, halts⟩
          · obtain ⟨visit, member, same⟩ := first
            cases (before visit member).symm.trans (same.trans early)
          · rw [arranged] at member
            obtain ⟨free, calm⟩ := during entry member
            rcases halts with flag | turn
            · cases free.symm.trans flag
            · exact calm turn
          · rw [reports] at member
            cases (observed report member).symm.trans halts
    flagged := by
      intro visit member flagged
      obtain rfl := course.failed visit member _ (Visit.error_of_flagged flagged)
      exact ⟨Visit.reports_of_flagged flagged, scores⟩
    halts := by
      rintro visit member (flagged | turn | ⟨report, reported, halts⟩)
      · exact Visit.isHalted_of_flagged flagged
      · exact Visit.isHalted_of_turn turn
      · exact Visit.isHalted_of_report reported halts
    interrupts := fun visit _ => Visit.isHalted_of_interrupted
    cancelled := by
      intro visit member halted
      rcases course.error_of_halted member halted with rfl | ⟨e, raised, rfl⟩
      · exact .inl scores
      · exact .inr ⟨e, raised, scores⟩
    last := course.last positive
    failed := by
      intro e found
      rw [found] at scores
      cases error with
      | some cause =>
          obtain rfl := Except.error.inj scores
          exact course.error_cases
      | none => cases scores }

def haltedAtLast : Setting :=
  { twoFiles with observer := fun report => report = ⟨some "Edit Distance comparison", 1, 1⟩ }

theorem no_partial_scan_of_haltedAtLast :
    haltedAtLast.config.toDraft.check = .ok haltedAtLast.config ∧
      (run haltedAtLast false).journal.reports = haltedAtLast.fullTrace ∧
      ∃ e, (run haltedAtLast false).scores = .error e := by
  have valid : haltedAtLast.config.toDraft.check = .ok haltedAtLast.config :=
    haltedAtLast.config.check_toDraft_iff.mpr (by decide)
  have whole : (run haltedAtLast false).journal.reports = haltedAtLast.fullTrace := by
    decide +kernel
  refine ⟨valid, whole, ?_⟩
  have scan := no_partial_scan valid false
  have last : ⟨some "Edit Distance comparison", 1, 1⟩ ∈ haltedAtLast.fullTrace := by decide +kernel
  rw [← whole, scan.reports, List.mem_flatMap] at last
  obtain ⟨visit, member, reported⟩ := last
  have halted := scan.halts visit member (.inr (.inr ⟨_, reported, by decide⟩))
  rcases scan.cancelled visit member halted with cancelled | ⟨e, -, failed⟩
  · exact ⟨_, cancelled⟩
  · exact ⟨_, failed⟩

end SourceSimilarity.Scan
