import Mathlib.Data.Finset.Card
import Mathlib.Data.Finset.Dedup
import SourceSimilarity.Proofs.Scan.CacheInUse
import SourceSimilarity.Proofs.Scan.Cancellation

/-!
In a scan that nobody halts and of which no unit fails, the first preparation has opened every file.
So what its fault is told of is settled then: all files that cannot be read. The preparations that
follow find them in the cache, and come to the same.
-/

namespace SourceSimilarity

namespace Decimal

open Float.Model (UnpackedFloat Format)

theorem mul_zero_cases (x : UnpackedFloat) :
    (∃ sign, .mul Format.binary64 x (.zero .positive) = UnpackedFloat.zero sign) ∨
      .mul Format.binary64 x (.zero .positive) = UnpackedFloat.notANumber := by
  cases x with
  | zero sign => exact .inl ⟨_, rfl⟩
  | finite sign mantissa exponent positive => exact .inl ⟨_, rfl⟩
  | infinity sign => exact .inr rfl
  | notANumber => exact .inr rfl

/-- The product of a number and zero is a zero of either sign or no number. -/
theorem not_mul_zero_lt (x : Float) : ¬ x * 0.0 < 0.0 := by
  have product : (Float.Model.pack (.mul Format.binary64 x.toModel.unpack
      (.zero .positive))).unpack.lt (.zero .positive) = false := by
    rcases mul_zero_cases x.toModel.unpack with ⟨sign, zero⟩ | nothing
    · rw [zero]
      cases sign <;> rfl
    · rw [nothing]
      rfl
  intro less
  cases product.symm.trans (of_decide_eq_true less)

end Decimal

theorem Config.exceeds_zero (config : Config) : config.exceeds 0 0 = false := by
  unfold Config.exceeds
  cases config.unreadableShare with
  | whole n => simp
  | float x =>
      have zero : Decimal.floatOfInt (0 : Nat) = 0.0 := by decide +kernel
      rw [zero]
      exact decide_eq_false (Decimal.not_mul_zero_lt x)

def Sources.refuses (sources : Sources) (path : String) : Bool :=
  match sources.files.read path with
  | .error (.refused _) => true
  | _ => false

namespace Cache

variable {calls : List Call} {sources : Sources} {path : String}

theorem replySeen_of_constant (constant : ∀ call ∈ calls, call.sources = sources)
    (accessed : ∃ call ∈ calls, call.request.path? = some path) :
    replySeen calls path = some (sources.files.read path) := by
  obtain ⟨call, member, accesses⟩ := accessed
  have found : ∃ first, calls.find? (fun call => call.request.path? = some path) = some first := by
    rw [← Option.isSome_iff_exists, List.find?_isSome]
    exact ⟨call, member, decide_eq_true accesses⟩
  obtain ⟨first, found⟩ := found
  rw [replySeen, found, Option.map_some, constant first (List.mem_of_find?_eq_some found)]

theorem contentKnown_eq_none_iff_refuses (constant : ∀ call ∈ calls, call.sources = sources) :
    contentKnown calls path = some none ↔
      (∃ call ∈ calls, call.request.path? = some path) ∧ sources.refuses path = true := by
  by_cases accessed : ∃ call ∈ calls, call.request.path? = some path
  · rw [and_iff_right accessed, contentKnown, contentSeen, replySeen_of_constant constant accessed,
      Sources.refuses]
    cases sources.files.read path with
    | ok bytes => simp [Plain.content, Except.toOption]
    | error e => cases e <;> simp [Plain.content, Except.toOption]
  · have unseen : replySeen calls path = none := by simpa [replySeen] using accessed
    rw [contentKnown_of_unseen unseen]
    exact ⟨fun found => (by cases found), fun both => absurd both.1 accessed⟩

end Cache

namespace Scan

open Cache (Call)

def Setting.unreadable (setting : Setting) : Finset String :=
  setting.task.files.toList.toFinset.filter fun path => setting.sources.refuses path = true

def callOf (setting : Setting) (path : String) (comparator : Comparator) : Call where
  sources := setting.sources
  request := match comparator with
    | .byteEdit | .moss => .normalize path setting.config.normalizer
    | .tokenEdit | .treeEdit | .isomorphism => .parse path

section Calls

variable {setting : Setting} {comparator : Comparator}

theorem cache_take (cache : Cache) (path : String) :
    (Artefact.take cache setting.sources setting.config path comparator).cache =
      (cache.serve (callOf setting path comparator)).1 := by
  cases comparator <;> rfl

theorem path?_callOf (path : String) :
    (callOf setting path comparator).request.path? = some path := by
  cases comparator <;> rfl

theorem callOf_ne_clear (path : String) :
    (callOf setting path comparator).request ≠ .clear := by
  intro clear
  cases comparator <;> cases clear

def callsOf (setting : Setting) (comparator : Comparator) (units : List Nat) : List Call :=
  units.filterMap fun unit =>
    setting.task.files[unit]?.map fun path => callOf setting path comparator

theorem mem_callsOf {units : List Nat} {call : Call} :
    call ∈ callsOf setting comparator units ↔ ∃ unit ∈ units, ∃ path,
      setting.task.files[unit]? = some path ∧ callOf setting path comparator = call := by
  simp [callsOf]

theorem exists_mem_callsOf {units : List Nat} (all : units.Perm (List.range setting.fileCount))
    {path : String} (member : path ∈ setting.task.files) :
    ∃ call ∈ callsOf setting comparator units, call.request.path? = some path := by
  obtain ⟨unit, inside, found⟩ := Array.mem_iff_getElem.mp member
  have begun : unit ∈ units := all.mem_iff.mpr (List.mem_range.mpr inside)
  refine ⟨callOf setting path comparator, mem_callsOf.mpr ⟨unit, begun, path, ?_, rfl⟩,
    path?_callOf path⟩
  exact Array.getElem?_eq_some_iff.mpr ⟨inside, found⟩

theorem cache_perform (shared : Preparation comparator setting.fileCount) (unit : Nat) :
    ((preparation setting comparator).perform shared unit).cache =
      shared.cache.after (callsOf setting comparator [unit]) := by
  unfold Phase.perform
  by_cases inside : unit < setting.fileCount
  · have present : unit < (preparation setting comparator).count := inside
    have one : callsOf setting comparator [unit] =
        [callOf setting setting.task.files[unit] comparator] := by
      rw [callsOf, List.filterMap_cons, Array.getElem?_eq_getElem inside]
      rfl
    rw [dif_pos present, one]
    refine Eq.trans ?_ (cache_take shared.cache setting.task.files[unit])
    show (prepareFile setting comparator ⟨unit, inside⟩ shared).shared.cache = _
    unfold prepareFile
    dsimp only
    split
    · rfl
    · rfl
  · have absent : ¬ unit < (preparation setting comparator).count := inside
    have none : callsOf setting comparator [unit] = [] := by simp [callsOf, inside]
    rw [dif_neg absent, none]
    rfl

theorem cache_foldl_perform (units : List Nat) (shared : Preparation comparator setting.fileCount) :
    (units.foldl (preparation setting comparator).perform shared).cache =
      shared.cache.after (callsOf setting comparator units) := by
  induction units generalizing shared with
  | nil => rfl
  | cons unit units ih =>
      have calls : callsOf setting comparator (unit :: units) =
          callsOf setting comparator [unit] ++ callsOf setting comparator units := by
        rw [callsOf, ← List.singleton_append, List.filterMap_append]
        rfl
      rw [List.foldl_cons, ih, cache_perform, calls, Cache.after, Cache.after, Cache.after,
        List.foldl_append]

end Calls

structure Setting.Fills (setting : Setting) (cache : Cache) (calls : List Call) : Prop where
  describes : cache.Describes calls
  calls : ∀ call ∈ calls, ∃ path ∈ setting.task.files, ∃ comparator,
    callOf setting path comparator = call

namespace Setting.Fills

variable {setting : Setting} {cache : Cache} {calls : List Call}

theorem after (fills : setting.Fills cache calls) (comparator : Comparator) (units : List Nat) :
    setting.Fills (cache.after (callsOf setting comparator units))
      (calls ++ callsOf setting comparator units) where
  describes := by
    refine fills.describes.after fun call member => ?_
    obtain ⟨unit, -, path, -, rfl⟩ := mem_callsOf.mp member
    exact callOf_ne_clear path
  calls call member := by
    rcases List.mem_append.mp member with earlier | new
    · exact fills.calls call earlier
    · obtain ⟨unit, -, path, found, rfl⟩ := mem_callsOf.mp new
      exact ⟨path, Array.mem_of_getElem? found, comparator, rfl⟩

theorem constant (fills : setting.Fills cache calls) :
    ∀ call ∈ calls, call.sources = setting.sources := by
  intro call member
  obtain ⟨path, -, comparator, rfl⟩ := fills.calls call member
  rfl

theorem inside (fills : setting.Fills cache calls) {call : Call} (member : call ∈ calls)
    {path : String} (accesses : call.request.path? = some path) : path ∈ setting.task.files := by
  obtain ⟨other, inside, comparator, rfl⟩ := fills.calls call member
  rw [path?_callOf] at accesses
  exact Option.some.inj accesses ▸ inside

theorem mem_unreadablePaths (fills : setting.Fills cache calls)
    (opened : ∀ path ∈ setting.task.files, ∃ call ∈ calls, call.request.path? = some path)
    (path : String) : path ∈ cache.unreadablePaths ↔ path ∈ setting.unreadable := by
  rw [Cache.unreadablePaths, mem_ascending, fills.describes.unreadable,
    Cache.contentKnown_eq_none_iff_refuses fills.constant, Setting.unreadable, Finset.mem_filter,
    List.mem_toFinset, Array.mem_toList_iff]
  refine and_congr_left' ⟨?_, opened path⟩
  rintro ⟨call, member, accesses⟩
  exact fills.inside member accesses

end Setting.Fills

structure Setting.Decided (setting : Setting) (unreadable : List String) : Prop where
  ascending : unreadable.Pairwise Text.Before
  members : ∀ path, path ∈ unreadable ↔ path ∈ setting.unreadable

theorem Setting.Decided.length_eq {setting : Setting} {unreadable : List String}
    (decided : setting.Decided unreadable) : unreadable.length = setting.unreadable.card := by
  have nodup : unreadable.Nodup := decided.ascending.imp fun before => before.ne
  have same : unreadable.toFinset = setting.unreadable := by
    ext path
    rw [List.mem_toFinset, decided.members]
  rw [← same, List.toFinset_card_of_nodup nodup]

theorem Setting.exceeds_of_noFiles {setting : Setting} (none : setting.fileCount = 0) :
    setting.config.exceeds setting.unreadable.card setting.fileCount = false := by
  have files : setting.task.files = #[] := Array.eq_empty_of_size_eq_zero none
  have unreadable : setting.unreadable = ∅ := by simp [Setting.unreadable, files]
  -- the limit may be infinite, whose product with zero files is no number
  rw [unreadable, none, Finset.card_empty, Config.exceeds_zero]

theorem fault?_of_decided {setting : Setting} {cache : Cache}
    (decided : setting.Decided cache.unreadablePaths) :
    setting.config.fault? cache setting.fileCount =
      if setting.config.exceeds setting.unreadable.card setting.fileCount then
        some ⟨cache.unreadablePaths, setting.fileCount, setting.config.unreadableShare⟩
      else none := by
  unfold Config.fault?
  dsimp only
  rw [decided.length_eq]
  by_cases none : setting.fileCount = 0
  · rw [if_neg fun both => both.1 none, if_neg (by simp [Setting.exceeds_of_noFiles none])]
  · simp only [ne_eq, none, not_false_eq_true, true_and]

section Preparing

variable {setting : Setting} {comparator : Comparator} {state : State setting.pairCount}
  {calls : List Call}

theorem prepared_decided (fills : setting.Fills state.cache calls)
    (positive : 1 ≤ state.pool.threads)
    (passed : (prepared setting comparator state).error = none) :
    setting.Decided (prepared setting comparator state).shared.cache.unreadablePaths ∧
      ∃ more, setting.Fills (prepared setting comparator state).shared.cache more := by
  have complete : (preparing setting comparator state).Complete setting.observer :=
    Visit.complete positive passed
  -- the units ran in some order of their own: what counts is that each of them did
  have all := complete.units
  have shared := complete.shared
  generalize (preparing setting comparator state).units setting.observer = units at all shared
  have cache : (prepared setting comparator state).shared.cache =
      state.cache.after (callsOf setting comparator units) :=
    (congrArg Preparation.cache shared).trans (cache_foldl_perform units _)
  have later := fills.after comparator units
  rw [← cache] at later
  refine ⟨⟨pairwise_ascending _, later.mem_unreadablePaths fun path member => ?_⟩, _, later⟩
  obtain ⟨call, called, accesses⟩ := exists_mem_callsOf all member
  exact ⟨call, List.mem_append_right calls called, accesses⟩

end Preparing

theorem Visit.error_of_calm {observer : Observer} {visit : Visit}
    (going : visit.isHalted observer = false) (unfailed : visit.failures observer = []) :
    (visit.ending observer).error = none := by
  have free : visit.isFlagged = false := by
    by_contra flagged
    cases going.symm.trans (Visit.isHalted_of_flagged (Bool.eq_true_of_not_eq_false flagged))
  rcases Visit.error_of_free free with ⟨e, raised, -⟩ | ⟨-, error⟩
  · rw [unfailed] at raised
    cases raised
  · rw [error, going]
    rfl

section Comparators

variable {setting : Setting} {comparator : Comparator} {state : State setting.pairCount}
  {calls : List Call}

theorem runComparator_of_many (fills : setting.Fills state.cache calls)
    (positive : 1 ≤ state.pool.threads)
    (many : setting.config.exceeds setting.unreadable.card setting.fileCount = true)
    (passed : (prepared setting comparator state).error = none) :
    visitsOf setting state comparator = [preparing setting comparator state] ∧
      ∃ after unreadable, setting.Decided unreadable ∧ runComparator setting state comparator =
        (after, some (.unreadable
          ⟨unreadable, setting.fileCount, setting.config.unreadableShare⟩)) := by
  obtain ⟨decided, -⟩ := prepared_decided fills positive passed
  have fault := fault?_of_decided decided
  rw [if_pos many] at fault
  rw [runComparator_eq, visitsOf]
  simp only [passed, fault]
  exact ⟨trivial, _, _, decided, rfl⟩

theorem preparing_mem_visitsOf :
    preparing setting comparator state ∈ visitsOf setting state comparator := by
  unfold visitsOf
  dsimp only
  split
  · exact List.mem_cons_self
  · exact List.mem_singleton_self _

theorem runComparator_of_few (fills : setting.Fills state.cache calls)
    (positive : 1 ≤ state.pool.threads)
    (few : setting.config.exceeds setting.unreadable.card setting.fileCount = false)
    (passed : ∀ visit ∈ visitsOf setting state comparator,
      (visit.ending setting.observer).error = none) :
    ∃ after more, runComparator setting state comparator = (after, none) ∧
      setting.Fills after.cache more ∧ 1 ≤ after.pool.threads := by
  have first : (prepared setting comparator state).error = none :=
    passed _ preparing_mem_visitsOf
  obtain ⟨decided, more, fillsLater⟩ := prepared_decided fills positive first
  have fault := fault?_of_decided decided
  rw [if_neg (by simp [few])] at fault
  have visits : visitsOf setting state comparator = [preparing setting comparator state,
      comparing setting comparator (prepared setting comparator state).pool
        (prepared setting comparator state).shared.artefacts] := by
    simp only [visitsOf, first, fault]
  have second := passed _ (visits ▸ List.mem_cons_of_mem _ List.mem_cons_self)
  have threads := (runComparator_course positive comparator).threads
  rw [runComparator_eq] at threads ⊢
  simp only [first, fault, second, Option.map_none] at threads ⊢
  exact ⟨_, more, rfl, fillsLater, threads ▸ positive⟩

theorem runComparators_of_few {comparators : List Comparator}
    (fills : setting.Fills state.cache calls) (positive : 1 ≤ state.pool.threads)
    (few : setting.config.exceeds setting.unreadable.card setting.fileCount = false)
    (passed : ∀ visit ∈ visitsFrom setting state comparators,
      (visit.ending setting.observer).error = none) :
    (runComparators setting state comparators).2 = none := by
  induction comparators generalizing state calls with
  | nil => rfl
  | cons comparator comparators ih =>
      rw [visitsFrom] at passed
      obtain ⟨after, more, ran, fillsAfter, positiveAfter⟩ :=
        runComparator_of_few fills positive few fun visit member =>
          passed visit (List.mem_append_left _ member)
      rw [ran] at passed
      rw [runComparators, ran]
      exact ih fillsAfter positiveAfter fun visit member =>
        passed visit (List.mem_append_right _ member)

end Comparators

theorem fills_started (setting : Setting) (halted : Bool) :
    setting.Fills (started setting halted).cache [] :=
  ⟨Cache.describes_empty, fun _ member => by cases member⟩

theorem scores_of_started (setting : Setting) (halted : Bool) : (run setting halted).scores =
    match (runComparators setting (started setting halted) setting.config.enabled).2 with
    | some e => .error e
    | none =>
      .ok (runComparators setting (started setting halted) setting.config.enabled).1.table := rfl

structure DecidesFirst (setting : Setting) (outcome : Outcome setting.pairCount)
    (visits : List Visit) : Prop where
  faults : (∃ fault, outcome.scores = .error (.unreadable fault)) ↔
    setting.config.exceeds setting.unreadable.card setting.fileCount = true
  fault : ∀ fault, outcome.scores = .error (.unreadable fault) →
    fault.unreadable.Pairwise Text.Before ∧
      (∀ path, path ∈ fault.unreadable ↔ path ∈ setting.unreadable) ∧
      fault.total = setting.fileCount ∧ fault.share = setting.config.unreadableShare
  /-- It ends directly after the first preparation, with no comparison begun. -/
  first : ∀ fault, outcome.scores = .error (.unreadable fault) →
    ∃ comparator ∈ (Comparator.arrange setting.config.enabled).head?,
      visits.map Visit.entry = [⟨s!"{comparator.title} preprocessing", setting.fileCount,
        setting.plan.preparation comparator⟩] ∧
      outcome.journal.reports = phaseTrace s!"{comparator.title} preprocessing" setting.fileCount
  /-- A scan that does not end there is not ended for its files later. -/
  otherwise : setting.config.exceeds setting.unreadable.card setting.fileCount = false →
    ∃ table, outcome.scores = .ok table

theorem run_of_many {setting : Setting} {halted : Bool} {comparator : Comparator}
    {comparators : List Comparator} (enabled : setting.config.enabled = comparator :: comparators)
    (many : setting.config.exceeds setting.unreadable.card setting.fileCount = true)
    (passed : (prepared setting comparator (started setting halted)).error = none) :
    visits setting halted = [preparing setting comparator (started setting halted)] ∧
      ∃ unreadable, setting.Decided unreadable ∧ (run setting halted).scores =
        .error (.unreadable ⟨unreadable, setting.fileCount, setting.config.unreadableShare⟩) := by
  obtain ⟨only, after, unreadable, decided, ran⟩ := runComparator_of_many
    (fills_started setting halted) (threads_started setting halted) many passed
  refine ⟨?_, unreadable, decided, ?_⟩
  · rw [visits, enabled, visitsFrom, only, ran]
    rfl
  · rw [scores_of_started, enabled, runComparators, ran]

/-- The fault of the unreadable files is decided once, by all of them and before any comparison,
whatever the schedule, if nobody halts the scan and no unit fails. -/
theorem unreadable_decided_first {setting : Setting}
    (valid : setting.config.toDraft.check = .ok setting.config) (halted : Bool)
    (calm : ∀ visit ∈ visits setting halted,
      visit.isHalted setting.observer = false ∧ visit.failures setting.observer = []) :
    DecidesFirst setting (run setting halted) (visits setting halted) := by
  obtain ⟨-, nonempty, arranged, -⟩ := setting.config.check_toDraft_iff.mp valid
  obtain ⟨-, -, -, reports, -⟩ := exists_course arranged halted
  obtain ⟨comparator, comparators, enabled⟩ := List.exists_cons_of_ne_nil nonempty
  have positive := threads_started setting halted
  have passed : ∀ visit ∈ visits setting halted, (visit.ending setting.observer).error = none :=
    fun visit member => Visit.error_of_calm (calm visit member).1 (calm visit member).2
  cases exceeds : setting.config.exceeds setting.unreadable.card setting.fileCount with
  | false =>
      have scores := scores_of_started setting halted
      rw [runComparators_of_few (fills_started setting halted) positive exceeds passed] at scores
      have faultless : ∀ fault, (run setting halted).scores ≠ .error (.unreadable fault) := by
        intro fault faults
        cases scores.symm.trans faults
      exact {
        faults := ⟨fun ⟨fault, faults⟩ => absurd faults (faultless fault),
          fun many => by cases exceeds.symm.trans many⟩
        fault := fun fault faults => absurd faults (faultless fault)
        first := fun fault faults => absurd faults (faultless fault)
        otherwise := fun _ => ⟨_, scores⟩ }
  | true =>
      have entered : preparing setting comparator (started setting halted) ∈
          (visits setting halted).head? := by
        rw [visits, enabled, head?_visitsFrom]
        rfl
      have first := passed _ (List.mem_of_mem_head? entered)
      obtain ⟨visited, unreadable, decided, scores⟩ := run_of_many enabled exceeds first
      have complete : (preparing setting comparator (started setting halted)).Complete
          setting.observer := Visit.complete positive first
      refine {
        faults := ⟨fun _ => exceeds, fun _ => ⟨_, scores⟩⟩
        fault := fun fault faults => ?_
        first := fun _ _ => ⟨comparator, ?_, ?_, ?_⟩
        otherwise := fun few => by cases exceeds.symm.trans few }
      · cases scores.symm.trans faults
        exact ⟨decided.ascending, decided.members, rfl, rfl⟩
      · rw [arranged, enabled]
        rfl
      · rw [visited]
        rfl
      · rw [reports, visited, List.flatMap_singleton]
        exact complete.reports

def twoMissing : Setting where
  sources := {
    files := { root := .directory [("b.c", .file [98])], workingDirectory := [] }
    parser _ _ := .unanswered }
  config := {
    threads := 2
    enabled := [.moss, .byteEdit]
    normalizer := .whitespaceOnly
    k := 1
    w := 1
    unreadableShare := .float 0.5 }
  task := { files := #["c.c", "b.c", "a.c"], pairs := #[(0, 1)] }

theorem unreadable_decided_first_of_twoMissing :
    twoMissing.config.toDraft.check = .ok twoMissing.config ∧
      (∃ fault, (run twoMissing false).scores = .error (.unreadable fault) ∧
        "a.c" ∈ fault.unreadable ∧ "b.c" ∉ fault.unreadable ∧ fault.total = 3) ∧
      (run twoMissing false).journal.reports = phaseTrace "Moss preprocessing" 3 := by
  have valid : twoMissing.config.toDraft.check = .ok twoMissing.config :=
    twoMissing.config.check_toDraft_iff.mpr (by decide +kernel)
  have many : twoMissing.config.exceeds twoMissing.unreadable.card twoMissing.fileCount = true := by
    decide +kernel
  let first := preparing twoMissing .moss (started twoMissing false)
  have passed : (first.ending twoMissing.observer).error = none :=
    Option.isNone_iff_eq_none.mp (by decide +kernel)
  have calm : ∀ visit ∈ visits twoMissing false,
      visit.isHalted twoMissing.observer = false ∧ visit.failures twoMissing.observer = [] := by
    intro visit member
    rw [(run_of_many rfl many passed).1, List.mem_singleton] at member
    obtain rfl : visit = first := member
    decide +kernel
  have decided := unreadable_decided_first valid false calm
  obtain ⟨fault, faults⟩ := decided.faults.mpr many
  obtain ⟨-, members, total, -⟩ := decided.fault fault faults
  obtain ⟨comparator, head, -, reports⟩ := decided.first fault faults
  obtain rfl : Comparator.moss = comparator := Option.some.inj head
  exact ⟨valid, ⟨fault, faults, (members "a.c").mpr (by decide +kernel),
    (members "b.c").not.mpr (by decide +kernel), total⟩, reports⟩

end Scan

end SourceSimilarity
