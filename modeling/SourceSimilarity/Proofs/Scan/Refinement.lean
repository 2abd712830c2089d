import SourceSimilarity.Scan.Run
import SourceSimilarity.Proofs.Scan.Snapshot
import SourceSimilarity.Proofs.Scan.Undisturbed

/-!
The scores of a scan that is not disturbed are those of the plain definition: the artefact of each of
the two files, taken with a cache that holds nothing, and their comparison. The cache that all
comparators share and the order in which the workers take their turns leave no trace.
-/

namespace SourceSimilarity.Scan

namespace Setting

def artefactOf (setting : Setting) (comparator : Comparator) (path : String) :
    Except UnitError (Artefact comparator) :=
  (Artefact.take .empty setting.sources setting.config path comparator).value

/-- That a score is the comparison of the artefacts of the two files of a pair. -/
inductive IsScore (setting : Setting) (comparator : Comparator) (pair : Fin setting.pairCount)
    (score : Score) : Prop
  | compared (first second : Artefact comparator)
      (firstTaken :
        setting.artefactOf comparator setting.task.files[setting.task.pairs[pair].1] = .ok first)
      (secondTaken :
        setting.artefactOf comparator setting.task.files[setting.task.pairs[pair].2] = .ok second)
      (scored : score.toInt = (Artefact.compare comparator first second).1)

/-- A scan that is never halted. -/
structure Quiet (setting : Setting) : Prop where
  observer : setting.observer.Quiet
  preparation : ∀ comparator, (setting.plan.preparation comparator).Quiet
  comparison : ∀ comparator, (setting.plan.comparison comparator).Quiet

/-- A scan of which no unit fails: every file has its artefacts, and every score fits. -/
structure Succeeds (setting : Setting) : Prop where
  artefact : ∀ comparator ∈ setting.config.enabled, ∀ file : Fin setting.fileCount,
    ∃ artefact, setting.artefactOf comparator setting.task.files[file] = .ok artefact
  score : ∀ comparator ∈ setting.config.enabled, ∀ (pair : Fin setting.pairCount) first second,
    setting.artefactOf comparator setting.task.files[setting.task.pairs[pair].1] = .ok first →
    setting.artefactOf comparator setting.task.files[setting.task.pairs[pair].2] = .ok second →
    ∃ score, Score.ofInt? (Artefact.compare comparator first second).1 = some score

/-- Two scans with pairs of the same two files. They may differ in the number of threads, in the
comparators, in the other files and pairs and in their order. -/
structure SamePair (setting other : Setting) (pair : Fin setting.pairCount)
    (otherPair : Fin other.pairCount) : Prop where
  parser : other.sources.parser = setting.sources.parser
  normalizer : other.config.normalizer = setting.config.normalizer
  k : other.config.k = setting.config.k
  w : other.config.w = setting.config.w
  first : other.task.files[other.task.pairs[otherPair].1] =
    setting.task.files[setting.task.pairs[pair].1]
  second : other.task.files[other.task.pairs[otherPair].2] =
    setting.task.files[setting.task.pairs[pair].2]
  firstContent : other.sources.files.read setting.task.files[setting.task.pairs[pair].1] =
    setting.sources.files.read setting.task.files[setting.task.pairs[pair].1]
  secondContent : other.sources.files.read setting.task.files[setting.task.pairs[pair].2] =
    setting.sources.files.read setting.task.files[setting.task.pairs[pair].2]

theorem artefactOf_eq (setting : Setting) (comparator : Comparator) (path : String) :
    setting.artefactOf comparator path =
      Plain.artefact setting.sources.parser setting.config.normalizer setting.config.k
        setting.config.w path (Plain.content (setting.sources.files.read path)) comparator :=
  ((Cache.Snapshot.empty setting.sources).take setting.config path comparator).value_eq

theorem take_value_eq {setting : Setting} {cache : Cache} (snapshot : cache.Snapshot setting.sources)
    (comparator : Comparator) (path : String) :
    (Artefact.take cache setting.sources setting.config path comparator).value =
      setting.artefactOf comparator path := by
  rw [(snapshot.take setting.config path comparator).value_eq, setting.artefactOf_eq]
  rfl

theorem IsScore.eq_of_samePair {setting other : Setting} {comparator : Comparator}
    {pair : Fin setting.pairCount} {otherPair : Fin other.pairCount} {score otherScore : Score}
    (isScore : setting.IsScore comparator pair score)
    (isOther : other.IsScore comparator otherPair otherScore)
    (same : setting.SamePair other pair otherPair) : otherScore = score := by
  obtain ⟨first, second, firstEq, secondEq, scored⟩ := isScore
  obtain ⟨first', second', firstEq', secondEq', scored'⟩ := isOther
  rw [artefactOf_eq] at firstEq secondEq firstEq' secondEq'
  rw [same.parser, same.normalizer, same.k, same.w, same.first, same.firstContent, firstEq]
    at firstEq'
  rw [same.parser, same.normalizer, same.k, same.w, same.second, same.secondContent, secondEq]
    at secondEq'
  obtain rfl := Except.ok.inj firstEq'
  obtain rfl := Except.ok.inj secondEq'
  exact Int32.toInt_inj.mp (scored'.trans scored.symm)

end Setting

theorem toInt_of_ofInt? {n : Int} {score : Score} (fits : Score.ofInt? n = some score) :
    score.toInt = n := by
  unfold Score.ofInt? at fits
  split at fits
  · cases fits
  · rename_i range
    obtain rfl := Option.some.inj fits
    exact Int32.toInt_ofInt_of_le (by omega) (by omega)

theorem get_set_self {α : Type} {n : Nat} (items : Vector α n) (place : Fin n) (item : α) :
    (items.set place item place.isLt).get place = item :=
  Vector.getElem_set_self place.2

theorem get_set_of_ne {α : Type} {n : Nat} (items : Vector α n) {place other : Fin n} (item : α)
    (differ : other ≠ place) : (items.set place item place.isLt).get other = items.get other :=
  Vector.getElem_set_ne place.2 other.2 fun same => differ (Fin.ext same.symm)

variable {setting : Setting} {comparator : Comparator}

theorem prepareFile_spec {file : Fin setting.fileCount} {artefact : Artefact comparator}
    {shared : Preparation comparator setting.fileCount}
    (snapshot : shared.cache.Snapshot setting.sources)
    (found : setting.artefactOf comparator setting.task.files[file] = .ok artefact) :
    let outcome := prepareFile setting comparator file shared
    outcome.failure = none ∧ outcome.halts = false ∧
      outcome.shared.cache.Snapshot setting.sources ∧
      outcome.shared.artefacts.get file = artefact ∧
      ∀ other, other ≠ file → outcome.shared.artefacts.get other = shared.artefacts.get other := by
  have value := Setting.take_value_eq snapshot comparator setting.task.files[file]
  rw [found] at value
  have after := (snapshot.take setting.config setting.task.files[file] comparator).snapshot
  simp only [prepareFile, value]
  exact ⟨trivial, trivial, after, get_set_self shared.artefacts file artefact,
    fun other differ => get_set_of_ne shared.artefacts artefact differ⟩

theorem preparation_succeeds (succeeds : setting.Succeeds)
    (member : comparator ∈ setting.config.enabled) :
    (preparation setting comparator).Succeeds (fun shared => shared.cache.Snapshot setting.sources)
      (fun file shared =>
        setting.artefactOf comparator setting.task.files[file] = .ok (shared.artefacts.get file)) where
  failure file shared snapshot := by
    obtain ⟨artefact, found⟩ := succeeds.artefact comparator member file
    exact (prepareFile_spec snapshot found).1
  halts file shared snapshot := by
    obtain ⟨artefact, found⟩ := succeeds.artefact comparator member file
    exact (prepareFile_spec snapshot found).2.1
  holds file shared snapshot := by
    obtain ⟨artefact, found⟩ := succeeds.artefact comparator member file
    exact (prepareFile_spec snapshot found).2.2.1
  finishes file shared snapshot := by
    obtain ⟨artefact, found⟩ := succeeds.artefact comparator member file
    exact found.trans (congrArg Except.ok (prepareFile_spec snapshot found).2.2.2.1.symm)
  keeps file other shared snapshot kept := by
    obtain ⟨artefact, found⟩ := succeeds.artefact comparator member file
    obtain ⟨-, -, -, own, others⟩ := prepareFile_spec snapshot found
    by_cases same : other = file
    · subst same
      exact found.trans (congrArg Except.ok own.symm)
    · exact kept.trans (congrArg Except.ok (others other same).symm)

theorem comparePair_spec {artefacts : Vector (Artefact comparator) setting.fileCount}
    (succeeds : setting.Succeeds) (member : comparator ∈ setting.config.enabled)
    (complete : ∀ file : Fin setting.fileCount,
      setting.artefactOf comparator setting.task.files[file] = .ok (artefacts.get file))
    (pair : Fin setting.pairCount) (scores : Vector Score setting.pairCount) :
    let outcome := comparePair setting comparator artefacts pair scores
    outcome.failure = none ∧ outcome.halts = false ∧
      setting.IsScore comparator pair (outcome.shared.get pair) ∧
      ∀ other, other ≠ pair → outcome.shared.get other = scores.get other := by
  have first := complete setting.task.pairs[pair].1
  have second := complete setting.task.pairs[pair].2
  obtain ⟨score, fits⟩ := succeeds.score comparator member pair _ _ first second
  simp only [comparePair, fits]
  refine ⟨trivial, trivial, ?_, ?_⟩
  · rw [get_set_self]
    exact ⟨_, _, first, second, toInt_of_ofInt? fits⟩
  · intro other differ
    exact get_set_of_ne scores score differ

theorem comparison_succeeds (succeeds : setting.Succeeds)
    (member : comparator ∈ setting.config.enabled)
    {artefacts : Vector (Artefact comparator) setting.fileCount}
    (complete : ∀ file : Fin setting.fileCount,
      setting.artefactOf comparator setting.task.files[file] = .ok (artefacts.get file)) :
    (comparison setting comparator artefacts).Succeeds (fun _ => True)
      (fun pair scores => setting.IsScore comparator pair (scores.get pair)) where
  failure pair scores _ := (comparePair_spec succeeds member complete pair scores).1
  halts pair scores _ := (comparePair_spec succeeds member complete pair scores).2.1
  holds _ _ _ := trivial
  finishes pair scores _ := (comparePair_spec succeeds member complete pair scores).2.2.1
  keeps pair other scores _ kept := by
    obtain ⟨-, -, own, others⟩ := comparePair_spec succeeds member complete pair scores
    by_cases same : other = pair
    · subst same
      exact own
    · have place : ((comparison setting comparator artefacts).work pair scores).shared.get other =
          scores.get other := others other same
      rw [place]
      exact kept

structure State.Sound (setting : Setting) (state : State setting.pairCount)
    (finished : List Comparator) : Prop where
  threads : 1 ≤ state.pool.threads
  free : state.pool.halted = false
  snapshot : state.cache.Snapshot setting.sources
  contains : ∀ comparator, state.table.contains comparator = true ↔ comparator ∈ finished
  isScore : ∀ comparator scores, state.table.get? comparator = some scores →
    ∀ pair, setting.IsScore comparator pair (scores.get pair)

theorem contains_insert {pairs : Nat} (table : ScoreTable pairs) (comparator other : Comparator)
    (scores : Vector Score pairs) :
    (table.insert comparator scores).contains other = true ↔
      other = comparator ∨ table.contains other = true := by
  unfold ScoreTable.contains
  by_cases same : other = comparator
  · subst same
    simp
  · rw [ScoreTable.get?_insert_of_ne table scores same]
    simp [same]

theorem runComparator_sound (quiet : setting.Quiet) (succeeds : setting.Succeeds)
    (member : comparator ∈ setting.config.enabled) {state : State setting.pairCount}
    {finished : List Comparator} (sound : state.Sound setting finished) :
    (∃ after fault, runComparator setting state comparator = (after, some (.unreadable fault))) ∨
    ∃ after, runComparator setting state comparator = (after, none) ∧
      after.Sound setting (comparator :: finished) := by
  obtain ⟨preparedError, preparedFree, preparedThreads, snapshot, complete⟩ :=
    Pool.run_undisturbed sound.threads sound.free quiet.observer (quiet.preparation comparator)
      (preparation_succeeds succeeds member)
      { cache := state.cache
        artefacts := Vector.replicate setting.fileCount (Artefact.missing comparator) }
      sound.snapshot
  unfold runComparator
  generalize state.pool.run setting.observer (setting.plan.preparation comparator)
    (preparation setting comparator) _ = prepared at *
  simp only [preparedError]
  cases setting.config.fault? prepared.shared.cache setting.fileCount with
  | some fault => exact .inl ⟨_, _, rfl⟩
  | none =>
      obtain ⟨comparedError, comparedFree, comparedThreads, -, scored⟩ :=
        Pool.run_undisturbed (preparedThreads ▸ sound.threads) preparedFree quiet.observer
          (quiet.comparison comparator) (comparison_succeeds succeeds member complete)
          (Vector.replicate setting.pairCount 0) trivial
      generalize prepared.pool.run setting.observer (setting.plan.comparison comparator)
        (comparison setting comparator prepared.shared.artefacts) _ = compared at *
      simp only [comparedError, Option.map_none]
      refine .inr ⟨_, rfl, ?_, comparedFree, snapshot, ?_, ?_⟩
      · show 1 ≤ compared.pool.threads
        rw [comparedThreads, preparedThreads]
        exact sound.threads
      · intro other
        rw [contains_insert, sound.contains, List.mem_cons]
      · intro other scores found
        by_cases same : other = comparator
        · subst same
          rw [ScoreTable.get?_insert_self] at found
          obtain rfl := Option.some.inj found
          exact scored
        · rw [ScoreTable.get?_insert_of_ne _ _ same] at found
          exact sound.isScore other scores found

theorem runComparators_sound (quiet : setting.Quiet) (succeeds : setting.Succeeds)
    {comparators : List Comparator}
    (members : ∀ comparator ∈ comparators, comparator ∈ setting.config.enabled)
    {state : State setting.pairCount} {finished : List Comparator}
    (sound : state.Sound setting finished) :
    (∃ after fault, runComparators setting state comparators =
      (after, some (.unreadable fault))) ∨
    ∃ after, runComparators setting state comparators = (after, none) ∧
      after.Sound setting (comparators.reverse ++ finished) := by
  induction comparators generalizing state finished with
  | nil => exact .inr ⟨state, rfl, sound⟩
  | cons comparator comparators ih =>
      rw [runComparators, List.reverse_cons, List.append_assoc, List.singleton_append]
      rcases runComparator_sound quiet succeeds (members comparator List.mem_cons_self) sound with
        ⟨after, fault, outcome⟩ | ⟨after, outcome, soundAfter⟩
      · rw [outcome]
        exact .inl ⟨after, fault, rfl⟩
      · rw [outcome]
        exact ih (fun later member => members later (List.mem_cons_of_mem comparator member))
          soundAfter

def opened (setting : Setting) : State setting.pairCount :=
  let pool := Pool.ofThreads setting.config.threads false
  { pool := { pool with journal := pool.journal.log .debug (openingText setting) }
    cache := .empty
    table := .empty }

theorem scores_run (setting : Setting) :
    (run setting false).scores =
      match (runComparators setting (opened setting) setting.config.enabled).2 with
      | some e => .error e
      | none => .ok (runComparators setting (opened setting) setting.config.enabled).1.table := rfl

theorem exists_table (quiet : setting.Quiet) (succeeds : setting.Succeeds)
    (readable : ∀ fault, (run setting false).scores ≠ .error (.unreadable fault)) :
    ∃ table, (run setting false).scores = .ok table ∧
      (∀ comparator, table.contains comparator = true ↔ comparator ∈ setting.config.enabled) ∧
      ∀ comparator scores, table.get? comparator = some scores →
        ∀ pair, setting.IsScore comparator pair (scores.get pair) := by
  have sound : State.Sound setting (opened setting) [] := {
    threads := by
      show 1 ≤ (max 1 (setting.config.threads : Int)).toNat
      omega
    free := rfl
    snapshot := .empty setting.sources
    contains := by simp [opened, ScoreTable.contains]
    isScore := by simp [opened] }
  rcases runComparators_sound quiet succeeds (fun _ member => member) sound with
    ⟨after, fault, outcome⟩ | ⟨after, outcome, soundAfter⟩
  · refine absurd ?_ (readable fault)
    rw [scores_run, outcome]
  · refine ⟨after.table, by rw [scores_run, outcome], ?_, soundAfter.isScore⟩
    intro comparator
    rw [soundAfter.contains, List.append_nil, List.mem_reverse]

/-- A scan that nobody halts, of which no unit fails and which does not end for its unreadable files
gives a table. It has scores of just the comparators that are enabled, and each of them is that of
its pair. So a score is the same in every other such scan that compares the same two files. -/
theorem run_refines_pairs (quiet : setting.Quiet) (succeeds : setting.Succeeds)
    (readable : ∀ fault, (run setting false).scores ≠ .error (.unreadable fault)) :
    ∃ table, (run setting false).scores = .ok table ∧
      (∀ comparator, table.contains comparator = true ↔ comparator ∈ setting.config.enabled) ∧
      ∀ comparator scores, table.get? comparator = some scores → ∀ pair,
        setting.IsScore comparator pair (scores.get pair) ∧
        ∀ other : Setting, other.Quiet → other.Succeeds → ∀ otherTable otherScores,
          (run other false).scores = .ok otherTable →
          otherTable.get? comparator = some otherScores →
          ∀ otherPair, setting.SamePair other pair otherPair →
            otherScores.get otherPair = scores.get pair := by
  obtain ⟨table, ran, contains, isScore⟩ := exists_table quiet succeeds readable
  refine ⟨table, ran, contains, fun comparator scores found pair => ?_⟩
  have own := isScore comparator scores found pair
  refine ⟨own, fun other otherQuiet otherSucceeds otherTable otherScores otherRan otherFound
    otherPair same => ?_⟩
  obtain ⟨table', ran', -, isScore'⟩ := exists_table otherQuiet otherSucceeds
    (by rw [otherRan]; exact fun fault equal => nomatch equal)
  obtain rfl := Except.ok.inj (otherRan.symm.trans ran')
  exact own.eq_of_samePair (isScore' comparator otherScores otherFound otherPair) same

def twoFiles : Setting where
  sources := {
    files := { root := .directory [("a", .file [97]), ("b", .file [98])], workingDirectory := [] }
    parser := fun _ _ => .unanswered }
  config := {
    threads := 2
    enabled := [.byteEdit]
    normalizer := .unchanged
    k := 1
    w := 1
    unreadableShare := .whole 0 }
  task := { files := #["a", "b"], pairs := #[(0, 1)] }
  plan := { preparation := fun _ => { turns := [.worker 1, .worker 1, .worker 0, .worker 1] } }

theorem run_refines_pairs_of_twoFiles :
    ∃ table, (run twoFiles false).scores = .ok table ∧ table.contains .byteEdit = true := by
  have quiet : twoFiles.Quiet := {
    observer := fun _ => rfl
    preparation := fun _ => ⟨rfl, by simp [twoFiles]⟩
    comparison := fun _ => ⟨rfl, by simp [twoFiles]⟩ }
  have first : twoFiles.artefactOf .byteEdit "a" = .ok ([97] : Bytes) := by rfl
  have second : twoFiles.artefactOf .byteEdit "b" = .ok ([98] : Bytes) := by rfl
  have succeeds : twoFiles.Succeeds := {
    artefact := by
      rintro comparator member ⟨number, inside⟩
      obtain rfl := List.mem_singleton.mp member
      match number, inside with
      | 0, _ => exact ⟨_, first⟩
      | 1, _ => exact ⟨_, second⟩
    score := by
      rintro comparator member ⟨number, inside⟩ a b firstEq secondEq
      obtain rfl := List.mem_singleton.mp member
      obtain rfl : number = 0 := Nat.lt_one_iff.mp inside
      obtain rfl := Except.ok.inj (first.symm.trans firstEq)
      obtain rfl := Except.ok.inj (second.symm.trans secondEq)
      exact ⟨1, by decide⟩ }
  have readable : (match (run twoFiles false).scores with
      | .error (.unreadable _) => false
      | _ => true) = true := by decide +kernel
  obtain ⟨table, ran, contains, -⟩ := run_refines_pairs quiet succeeds fun fault equal => by
    rw [equal] at readable
    cases readable
  exact ⟨table, ran, (contains .byteEdit).mpr List.mem_cons_self⟩

end SourceSimilarity.Scan
