import SourceSimilarity.Proofs.Config.Reading
import SourceSimilarity.Proofs.SavedScan.Loading

namespace SourceSimilarity.SavedScan

open Json

variable {pairs : Nat} {path : String} {inputs : Inputs} {manifest : Value} {limits : Limits}

theorem members?_eq_none_iff {v : Value} : members? v = none ↔ v.IsScalar := by
  cases v with
  | null => exact iff_of_true rfl .null
  | bool b => exact iff_of_true rfl (.bool b)
  | number n => exact iff_of_true rfl (.number n)
  | string s => exact iff_of_false nofun nofun
  | array items => exact iff_of_false nofun nofun
  | object fields => exact iff_of_false nofun nofun

theorem mapM_members?_eq_none_iff {items : List Value} :
    items.mapM members? = none ↔ ∃ item ∈ items, item.IsScalar := by
  induction items with
  | nil => simp
  | cons item items ih =>
      rw [List.mapM_cons, List.exists_mem_cons_iff, ← ih, ← members?_eq_none_iff]
      cases members? item <;> cases items.mapM members? <;> simp

/-- A scalar, or an array with a scalar in it. -/
def HoldsScalar (given : Value) : Prop :=
  given.IsScalar ∨ ∃ items, given = .array items ∧ ∃ item ∈ items, item.IsScalar

theorem mapM_members?_strings {α : Type} (names : List α) (name : α → String) :
    (names.map fun a => Value.string (name a)).mapM members? ≠ none := by
  rw [ne_eq, mapM_members?_eq_none_iff]
  rintro ⟨item, member, scalar⟩
  obtain ⟨a, -, rfl⟩ := List.mem_map.mp member
  cases scalar

theorem members_eq_none_iff {given : Value} :
    ((members? given).bind fun items => items.mapM members?) = none ↔ HoldsScalar given := by
  cases given with
  | null => exact iff_of_true rfl (.inl .null)
  | bool b => exact iff_of_true rfl (.inl (.bool b))
  | number n => exact iff_of_true rfl (.inl (.number n))
  | string s =>
      refine iff_of_false (mapM_members?_strings (Text.points s.toList) _) ?_
      rintro (⟨⟨⟩⟩ | ⟨items, ⟨⟩, -⟩)
  | object fields =>
      refine iff_of_false (mapM_members?_strings fields _) ?_
      rintro (⟨⟨⟩⟩ | ⟨items, ⟨⟩, -⟩)
  | array items =>
      refine mapM_members?_eq_none_iff.trans ⟨fun scalar => .inr ⟨items, rfl, scalar⟩, ?_⟩
      rintro (⟨⟨⟩⟩ | ⟨_, ⟨⟩, scalar⟩)
      exact scalar

theorem listedPairs?_eq_none_iff :
    listedPairs? manifest = none ↔
      ∃ given, manifest.get? "pairs" = some given ∧ HoldsScalar given := by
  cases listed : manifest.get? "pairs" with
  | none =>
      have empty : listedPairs? manifest = some [] := by
        rw [listedPairs?, listed]
        rfl
      simp [empty]
  | some given =>
      have same : listedPairs? manifest =
          (members? given).bind fun items => items.mapM members? := by
        rw [listedPairs?, listed]
        rfl
      rw [same, members_eq_none_iff]
      simp

theorem all_zip_iff_forall₂ {α β : Type} {same : α → β → Bool} {expected : List α}
    {actual : List β} :
    (decide (actual.length = expected.length) &&
      (expected.zip actual).all fun (a, b) => same a b) = true ↔
      List.Forall₂ (fun a b => same a b = true) expected actual := by
  rw [Bool.and_eq_true, decide_eq_true_eq, List.forall₂_iff_zip, List.all_eq_true, eq_comm]
  exact and_congr_right fun _ => ⟨fun all a b member => all (a, b) member,
    fun all pair member => all member⟩

theorem isString_iff {s : String} {v : Value} : isString s v = true ↔ Value.string s = v := by
  cases v <;> simp [isString, eq_comm]

theorem listsFiles_iff_get? :
    listsFiles inputs manifest = true ↔
      manifest.get? "files" = some (.array (inputs.files.map .string)) := by
  have arrays (items : List Value) :
      isArrayOf isString inputs.files items = true ↔ inputs.files.map .string = items := by
    rw [isArrayOf, all_zip_iff_forall₂, ← List.forall₂_eq_eq_eq, List.forall₂_map_left_iff]
    simp only [isString_iff]
  unfold listsFiles
  split
  · rename_i items given
    rw [given, arrays, Option.some.injEq, Value.array.injEq, eq_comm]
  · rename_i notArray
    exact iff_of_false Bool.false_ne_true (notArray _)

/-- A manifest lists the files of these inputs and, by their numbers, the pairs. -/
structure MadeFor (inputs : Inputs) (manifest : Value) : Prop where
  files : manifest.get? "files" = some (.array (inputs.files.map .string))
  pairs : ∃ listed, listedPairs? manifest = some listed ∧
    List.Forall₂ (fun pair members => isPair pair members = true) inputs.pairs listed

def IsScore (n : Int) : Prop := -2147483648 ≤ n ∧ n < 2147483648

theorem isScore_toInt (score : Score) : IsScore score.toInt := ⟨score.le_toInt, score.toInt_lt⟩

theorem IsScore.scoreOf {n : Int} (isScore : IsScore n) :
    ∃ score : Score, score.toInt = n ∧ scoreOf n = .ok score := by
  refine ⟨Int32.ofInt n, Int32.toInt_ofInt_of_le isScore.1 isScore.2, ?_⟩
  have inside : ¬(n < -2147483648 ∨ 2147483648 ≤ n) := by
    unfold IsScore at isScore
    omega
  rw [SavedScan.scoreOf, Score.ofInt?, if_neg inside]

theorem scoreOf_of_not_isScore {n : Int} (notScore : ¬IsScore n) :
    scoreOf n = .error (.scoreTooLarge n) := by
  have outside : n < -2147483648 ∨ 2147483648 ≤ n := by
    unfold IsScore at notScore
    omega
  rw [scoreOf, Score.ofInt?, if_pos outside]

theorem mapM_scoreOf_append {front : List Int} {n : Int} (back : List Int)
    (scores : ∀ m ∈ front, IsScore m) (notScore : ¬IsScore n) :
    (front ++ n :: back).mapM scoreOf = .error (.scoreTooLarge n) := by
  induction front with
  | nil =>
      rw [List.nil_append, List.mapM_cons, scoreOf_of_not_isScore notScore]
      rfl
  | cons m front ih =>
      obtain ⟨first, others⟩ := List.forall_mem_cons.mp scores
      obtain ⟨score, -, here⟩ := first.scoreOf
      rw [List.cons_append, List.mapM_cons, here, ih others]
      rfl

theorem scores_cases (numbers : List Int) :
    (∃ scores : List Score, scores.map Int32.toInt = numbers) ∨
    ∃ front n back, numbers = front ++ n :: back ∧ (∀ m ∈ front, IsScore m) ∧ ¬IsScore n := by
  induction numbers with
  | nil => exact .inl ⟨[], rfl⟩
  | cons m numbers ih =>
      by_cases isScore : IsScore m
      · obtain ⟨score, rfl, -⟩ := isScore.scoreOf
        rcases ih with ⟨scores, rfl⟩ | ⟨front, n, back, rfl, inside, outside⟩
        · exact .inl ⟨score :: scores, rfl⟩
        · exact .inr ⟨score.toInt :: front, n, back, rfl,
            List.forall_mem_cons.mpr ⟨isScore, inside⟩, outside⟩
      · exact .inr ⟨[], m, numbers, rfl, nofun, isScore⟩

inductive TreeScores (pairs : Nat) (manifest : Value) : Option (Vector Score pairs) → Prop
  | absent : manifest.get? "tree_scores" = none → TreeScores pairs manifest none
  | null : manifest.get? "tree_scores" = some .null → TreeScores pairs manifest none
  | listed {items : List Value} {scores : Vector Score pairs} :
    manifest.get? "tree_scores" = some (.array items) →
    items.mapM integer? = some (scores.toList.map Int32.toInt) →
    TreeScores pairs manifest (some scores)

/-- There is a whole number for each pair, and this is the first that 32 bits do not hold. -/
inductive TreeScoreTooLarge (pairs : Nat) (manifest : Value) : Int → Prop
  | listed {items : List Value} {front back : List Int} {n : Int} :
    manifest.get? "tree_scores" = some (.array items) →
    items.mapM integer? = some (front ++ n :: back) → (front ++ n :: back).length = pairs →
    (∀ m ∈ front, IsScore m) → ¬IsScore n → TreeScoreTooLarge pairs manifest n

theorem withTreeScores_of_treeScores (path : String) (sections : ScoreTable pairs)
    {trees : Option (Vector Score pairs)} (given : TreeScores pairs manifest trees) :
    withTreeScores path manifest sections = .ok (sections.insert? .treeEdit trees) := by
  cases given with
  | absent none => rw [withTreeScores, none]; rfl
  | null null => rw [withTreeScores, null]; rfl
  | @listed items scores given numbers =>
      have size : scores.toList.toArray.size = pairs := by simp
      have same : (⟨scores.toList.toArray, size⟩ : Vector Score pairs) = scores := by
        simp [Vector.toList]
      rw [withTreeScores, given]
      simp only [numbers, List.length_map, Vector.length_toList, ne_eq, not_true_eq_false,
        if_false, mapM_scoreOf, bind, Except.bind, dif_pos size, same]
      rfl

theorem withTreeScores_of_tooLarge (path : String) (sections : ScoreTable pairs) {n : Int}
    (tooLarge : TreeScoreTooLarge pairs manifest n) :
    withTreeScores path manifest sections = .error (.scoreTooLarge n) := by
  cases tooLarge with
  | listed given numbers length inside outside =>
      rw [withTreeScores, given]
      simp only [numbers, length, ne_eq, not_true_eq_false, if_false,
        mapM_scoreOf_append _ inside outside]
      rfl

theorem withTreeScores_cases (path : String) (manifest : Value) (sections : ScoreTable pairs) :
    (∃ trees, TreeScores pairs manifest trees) ∨ (∃ n, TreeScoreTooLarge pairs manifest n) ∨
      withTreeScores path manifest sections = .error (.treeScores path) := by
  cases given : manifest.get? "tree_scores" with
  | none => exact .inl ⟨none, .absent given⟩
  | some v =>
      cases v with
      | null => exact .inl ⟨none, .null given⟩
      | bool b => exact .inr (.inr (by rw [withTreeScores, given]))
      | number n => exact .inr (.inr (by rw [withTreeScores, given]))
      | string s => exact .inr (.inr (by rw [withTreeScores, given]))
      | object fields => exact .inr (.inr (by rw [withTreeScores, given]))
      | array items =>
          cases integers : items.mapM integer? with
          | none =>
              refine .inr (.inr ?_)
              simp only [withTreeScores, given, integers]
          | some numbers =>
              by_cases length : numbers.length = pairs
              · rcases scores_cases numbers with
                  ⟨scores, rfl⟩ | ⟨front, n, back, rfl, inside, outside⟩
                · have size : scores.toArray.size = pairs := by simpa using length
                  exact .inl ⟨some ⟨scores.toArray, size⟩, .listed given (by simpa using integers)⟩
                · exact .inr (.inl ⟨n, .listed given integers length inside outside⟩)
              · refine .inr (.inr ?_)
                simp only [withTreeScores, given, integers, ne_eq, length, not_false_eq_true,
                  if_true]

/-- Bytes hold sections of scores, and this is read from the text behind them. -/
def Holds (limits : Limits) (bytes : Bytes) (sections : ScoreTable pairs)
    (read : Except ReadError Value) : Prop :=
  ∃ rest text, ScoreTable.load pairs bytes = .ok (sections, rest) ∧
    Text.decode? rest = some text ∧ Json.read (String.ofList text) limits = read

/-- A table holds the scores of the sections and, as the scores of the trees, those of the manifest,
which was made for these inputs. -/
inductive Restores (limits : Limits) (inputs : Inputs) (bytes : Bytes) :
    ScoreTable inputs.pairCount → Prop
  | manifest {sections : ScoreTable inputs.pairCount} {fields : List (String × Value)}
    {trees : Option (Vector Score inputs.pairCount)} :
    Holds limits bytes sections (.ok (.object fields)) → MadeFor inputs (.object fields) →
    TreeScores inputs.pairCount (.object fields) trees →
    Restores limits inputs bytes (sections.insert? .treeEdit trees)

/-- Bytes for which no error is told in words. -/
inductive Unworded (limits : Limits) (inputs : Inputs) (bytes : Bytes) : SavedScanError → Prop
  | integerTooLong {sections : ScoreTable inputs.pairCount} :
    Holds limits bytes sections (.error .integerTooLong) →
    Unworded limits inputs bytes .integerTooLong
  | tooDeep {sections : ScoreTable inputs.pairCount} :
    Holds limits bytes sections (.error .tooDeep) → Unworded limits inputs bytes .tooDeep
  | pairsNotListed {sections : ScoreTable inputs.pairCount} {fields : List (String × Value)}
    {given : Value} : Holds limits bytes sections (.ok (.object fields)) →
    (Value.object fields).get? "pairs" = some given → HoldsScalar given →
    Unworded limits inputs bytes .pairsNotListed
  | scoreTooLarge {sections : ScoreTable inputs.pairCount} {fields : List (String × Value)}
    {n : Int} : Holds limits bytes sections (.ok (.object fields)) →
    MadeFor inputs (.object fields) → TreeScoreTooLarge inputs.pairCount (.object fields) n →
    Unworded limits inputs bytes (.scoreTooLarge n)

theorem Unworded.message?_eq_none {bytes : Bytes} {e : SavedScanError}
    (unworded : Unworded limits inputs bytes e) : e.message? = none := by
  cases unworded <;> rfl

def ofManifest (path : String) (inputs : Inputs) (sections : ScoreTable inputs.pairCount)
    (manifest : Value) : Except SavedScanError (ScoreTable inputs.pairCount) :=
  match listedPairs? manifest with
  | none => .error .pairsNotListed
  | some listed =>
    if listsFiles inputs manifest && arePairs inputs listed then
      withTreeScores path manifest sections
    else .error (.otherFiles path)

theorem ofBytes_of_load (path : String) {bytes rest : Bytes}
    {sections : ScoreTable inputs.pairCount}
    (loaded : ScoreTable.load inputs.pairCount bytes = .ok (sections, rest)) :
    ofBytes path inputs bytes limits =
      readManifest path rest limits >>= ofManifest path inputs sections := by
  rw [ofBytes, loaded]
  simp only [Except.mapError, bind, Except.bind]
  cases readManifest path rest limits with
  | error e => rfl
  | ok manifest =>
      dsimp only [ofManifest]
      cases listedPairs? manifest <;> rfl

theorem ofBytes_of_holds (path : String) {bytes : Bytes} {sections : ScoreTable inputs.pairCount}
    {fields : List (String × Value)} (holds : Holds limits bytes sections (.ok (.object fields))) :
    ofBytes path inputs bytes limits = ofManifest path inputs sections (.object fields) := by
  obtain ⟨rest, text, loaded, decoded, read⟩ := holds
  have manifest : readManifest path rest limits = .ok (.object fields) := by
    simp only [readManifest, decoded, read]
  rw [ofBytes_of_load path loaded, manifest]
  rfl

theorem ofManifest_of_madeFor (path : String) (sections : ScoreTable inputs.pairCount)
    (made : MadeFor inputs manifest) :
    ofManifest path inputs sections manifest = withTreeScores path manifest sections := by
  obtain ⟨listed, pairs, same⟩ := made.pairs
  have own : arePairs inputs listed = true := all_zip_iff_forall₂.mpr same
  have files : listsFiles inputs manifest = true := listsFiles_iff_get?.mpr made.files
  simp only [ofManifest, pairs, files, own, Bool.and_self, if_true]

theorem ofManifest_cases (path : String) (sections : ScoreTable inputs.pairCount)
    (manifest : Value) :
    MadeFor inputs manifest ∨
      (∃ given, manifest.get? "pairs" = some given ∧ HoldsScalar given) ∨
      ofManifest path inputs sections manifest = .error (.otherFiles path) := by
  cases pairs : listedPairs? manifest with
  | none => exact .inr (.inl (listedPairs?_eq_none_iff.mp pairs))
  | some listed =>
      by_cases own : (listsFiles inputs manifest && arePairs inputs listed) = true
      · obtain ⟨files, same⟩ := Bool.and_eq_true_iff.mp own
        exact .inl ⟨listsFiles_iff_get?.mp files, listed, pairs, all_zip_iff_forall₂.mp same⟩
      · refine .inr (.inr ?_)
        simp only [ofManifest, pairs, own, Bool.false_eq_true, if_false]

theorem ofBytes_of_restores (path : String) {bytes : Bytes} {table : ScoreTable inputs.pairCount}
    (restores : Restores limits inputs bytes table) : ofBytes path inputs bytes limits = .ok table := by
  cases restores with
  | @manifest sections fields trees holds made given =>
      rw [ofBytes_of_holds path holds, ofManifest_of_madeFor path sections made,
        withTreeScores_of_treeScores path sections given]

theorem ofBytes_of_unworded (path : String) {bytes : Bytes} {e : SavedScanError}
    (unworded : Unworded limits inputs bytes e) : ofBytes path inputs bytes limits = .error e := by
  cases unworded with
  | integerTooLong holds =>
      obtain ⟨rest, text, loaded, decoded, read⟩ := holds
      rw [ofBytes_of_load path loaded]
      simp only [readManifest, decoded, read]
      rfl
  | tooDeep holds =>
      obtain ⟨rest, text, loaded, decoded, read⟩ := holds
      rw [ofBytes_of_load path loaded]
      simp only [readManifest, decoded, read]
      rfl
  | pairsNotListed holds given scalar =>
      rw [ofBytes_of_holds path holds, ofManifest,
        listedPairs?_eq_none_iff.mpr ⟨_, given, scalar⟩]
  | @scoreTooLarge sections fields n holds made tooLarge =>
      rw [ofBytes_of_holds path holds, ofManifest_of_madeFor path sections made,
        withTreeScores_of_tooLarge path sections tooLarge]

theorem ofBytes_cases_of_holds (path : String) {bytes : Bytes}
    {sections : ScoreTable inputs.pairCount} {fields : List (String × Value)}
    (holds : Holds limits bytes sections (.ok (.object fields))) :
    (∃ table, Restores limits inputs bytes table) ∨ (∃ e, Unworded limits inputs bytes e) ∨
      ∃ e, ofBytes path inputs bytes limits = .error e ∧ e.message?.isSome = true := by
  have reading : ofBytes path inputs bytes limits = ofManifest path inputs sections (.object fields) :=
    ofBytes_of_holds path holds
  rcases ofManifest_cases path sections (.object fields) with
    made | ⟨given, pairs, scalar⟩ | others
  · rw [ofManifest_of_madeFor path sections made] at reading
    rcases withTreeScores_cases path (.object fields) sections with
      ⟨trees, scores⟩ | ⟨n, tooLarge⟩ | refused
    · exact .inl ⟨_, .manifest holds made scores⟩
    · exact .inr (.inl ⟨_, .scoreTooLarge holds made tooLarge⟩)
    · exact .inr (.inr ⟨.treeScores path, reading.trans refused, rfl⟩)
  · exact .inr (.inl ⟨_, .pairsNotListed holds pairs scalar⟩)
  · exact .inr (.inr ⟨.otherFiles path, reading.trans others, rfl⟩)

theorem ofBytes_cases (limits : Limits) (path : String) (inputs : Inputs) (bytes : Bytes) :
    (∃ table, Restores limits inputs bytes table) ∨ (∃ e, Unworded limits inputs bytes e) ∨
      ∃ e, ofBytes path inputs bytes limits = .error e ∧ e.message?.isSome = true := by
  cases loaded : ScoreTable.load inputs.pairCount bytes with
  | error e => exact .inr (.inr ⟨.stream e, by rw [ofBytes, loaded]; rfl, rfl⟩)
  | ok result =>
      obtain ⟨sections, rest⟩ := result
      have unread (noManifest : readManifest path rest limits = .error (.noManifest path)) :
          ∃ e, ofBytes path inputs bytes limits = .error e ∧ e.message?.isSome = true := by
        refine ⟨.noManifest path, ?_, rfl⟩
        rw [ofBytes_of_load path loaded, noManifest]
        rfl
      cases decoded : Text.decode? rest with
      | none => exact .inr (.inr (unread (by simp only [readManifest, decoded])))
      | some text =>
          have holds : Holds limits bytes sections (Json.read (String.ofList text) limits) :=
            ⟨rest, text, loaded, decoded, rfl⟩
          cases read : Json.read (String.ofList text) limits with
          | error e =>
              rw [read] at holds
              cases e with
              | integerTooLong => exact .inr (.inl ⟨_, .integerTooLong holds⟩)
              | tooDeep => exact .inr (.inl ⟨_, .tooDeep holds⟩)
              | malformed problem line column offset =>
                  exact .inr (.inr (unread (by simp only [readManifest, decoded, read])))
          | ok v =>
              rw [read] at holds
              cases v with
              | null | bool b | number n | string s | array items =>
                  exact .inr (.inr (unread (by simp only [readManifest, decoded, read])))
              | object fields => exact ofBytes_cases_of_holds path holds

inductive Unloadable (limits : Limits) (files : FileTree) (path : String) (inputs : Inputs) :
    SavedScanError → Prop
  | unfitPath {fault : Path.Fault} : files.read path = .error (.unfit fault) →
    Unloadable limits files path inputs (.unfitPath fault)
  | content {bytes : Bytes} {e : SavedScanError} : files.read path = .ok bytes →
    Unworded limits inputs bytes e → Unloadable limits files path inputs e

variable {files : FileTree} {e : SavedScanError}

theorem Unloadable.message?_eq_none (unloadable : Unloadable limits files path inputs e) :
    e.message? = none := by
  cases unloadable with
  | unfitPath _ => rfl
  | content _ unworded => exact unworded.message?_eq_none

theorem load_of_unloadable (unloadable : Unloadable limits files path inputs e) :
    load files path inputs limits = .error e := by
  cases unloadable with
  | unfitPath unfit => rw [load, unfit]
  | content here unworded =>
      rw [load, here]
      exact ofBytes_of_unworded path unworded

theorem load_cases (limits : Limits) (files : FileTree) (path : String) (inputs : Inputs) :
    (∃ bytes table, files.read path = .ok bytes ∧ Restores limits inputs bytes table) ∨
      (∃ e, Unloadable limits files path inputs e) ∨
      ∃ e, load files path inputs limits = .error e ∧ e.message?.isSome = true := by
  cases here : files.read path with
  | ok bytes =>
      rw [load, here]
      rcases ofBytes_cases limits path inputs bytes with ⟨table, restores⟩ | ⟨e, unworded⟩ | worded
      · exact .inl ⟨bytes, table, rfl, restores⟩
      · exact .inr (.inl ⟨e, .content here unworded⟩)
      · exact .inr (.inr worded)
  | error e =>
      cases e with
      | unfit fault => exact .inr (.inl ⟨_, .unfitPath here⟩)
      | refused e => exact .inr (.inr ⟨.unreadable path e, by rw [load, here], rfl⟩)

theorem load_eq_ok_iff {table : ScoreTable inputs.pairCount} :
    load files path inputs limits = .ok table ↔
      ∃ bytes, files.read path = .ok bytes ∧ Restores limits inputs bytes table := by
  have loads {bytes : Bytes} {table : ScoreTable inputs.pairCount}
      (here : files.read path = .ok bytes) (restores : Restores limits inputs bytes table) :
      load files path inputs limits = .ok table := by
    rw [load, here]
    exact ofBytes_of_restores path restores
  constructor
  · intro found
    rcases load_cases limits files path inputs with
      ⟨bytes, other, here, restores⟩ | ⟨e, unloadable⟩ | ⟨e, refused, -⟩
    · rw [loads here restores] at found
      obtain rfl := Except.ok.inj found
      exact ⟨bytes, here, restores⟩
    · rw [load_of_unloadable unloadable] at found
      cases found
    · rw [refused] at found
      cases found
  · rintro ⟨bytes, here, restores⟩
    exact loads here restores

def IsComplete (table : ScoreTable pairs) : Prop :=
  ∀ comparator scores, table.get? comparator = some scores →
    scores.toList.length = pairs ∧ ∀ score ∈ scores.toList, IsScore score.toInt

theorem isComplete (table : ScoreTable pairs) : IsComplete table := fun _ scores _ =>
  ⟨scores.length_toList, fun score _ => isScore_toInt score⟩

/-- A table with a score for each pair is loaded or an error is told in words, but for files of
which is said how they fail, and the tables that are loaded are those that a file holds. -/
theorem load_table_or_worded_iff (limits : Limits) (files : FileTree) (path : String)
    (inputs : Inputs) :
    (Worded SavedScanError.message? IsComplete (load files path inputs limits) ↔
      ∀ e, ¬Unloadable limits files path inputs e) ∧
    (∀ e, Unloadable limits files path inputs e →
      load files path inputs limits = .error e ∧ e.message? = none) ∧
    ∀ table, load files path inputs limits = .ok table ↔
      ∃ bytes, files.read path = .ok bytes ∧ Restores limits inputs bytes table := by
  refine ⟨⟨fun worded e unloadable => ?_, fun loadable => ?_⟩, fun e unloadable =>
    ⟨load_of_unloadable unloadable, unloadable.message?_eq_none⟩, fun table => load_eq_ok_iff⟩
  · exact not_worded (load_of_unloadable unloadable) unloadable.message?_eq_none worded
  · cases result : load files path inputs limits with
    | ok table => exact isComplete table
    | error e =>
        rcases load_cases limits files path inputs with
          ⟨bytes, table, here, restores⟩ | ⟨e, unloadable⟩ | ⟨other, refused, worded⟩
        · rw [load_eq_ok_iff.mpr ⟨bytes, here, restores⟩] at result
          cases result
        · exact absurd unloadable (loadable e)
        · rw [refused] at result
          obtain rfl := Except.error.inj result
          exact worded

def twoFiles : Inputs := ⟨["/vroot/t/a.txt", "/vroot/t/b.txt"], [(0, 1)]⟩

def wideManifest : List (String × Value) := [
  ("files", .array (twoFiles.files.map .string)),
  ("pairs", pairsJson twoFiles),
  ("tree_scores", .array [.whole 2147483648])]

theorem wideManifest_fits (room : Nat) : (Value.object wideManifest).Fits (room + 3) := by
  have short : ∀ n ∈ [0, 1, 2147483648], IsShort n := by
    unfold IsShort
    decide
  refine .object_of_names ["files", "pairs", "tree_scores"] rfl (by decide) (by decide)
    fun field member => ?_
  simp only [wideManifest, List.mem_cons, List.not_mem_nil, or_false] at member
  rcases member with rfl | rfl | rfl
  · refine .array fun item member => ?_
    obtain ⟨path, -, rfl⟩ := List.mem_map.mp member
    exact .string path
  · exact fits_pairs (List.forall_mem_singleton.mpr ⟨short 0 (by decide), short 1 (by decide)⟩) room
  · exact .array (List.forall_mem_singleton.mpr (.whole (short _ (by decide))))

def wideBytes : Bytes := [0, 0, 0, 0] ++ Text.encode ((Value.object wideManifest).write .spaced)

theorem wideBytes_unworded : Unworded {} twoFiles wideBytes (.scoreTooLarge 2147483648) := by
  have holds : Holds {} wideBytes (.empty : ScoreTable twoFiles.pairCount)
      (.ok (.object wideManifest)) := by
    refine ⟨_, _, rfl, Text.decode?_encode_of_plain (Value.object wideManifest).plain_spaced, ?_⟩
    simp only [Json.read, String.toList_ofList, (wideManifest_fits 987).document]
    rfl
  refine .scoreTooLarge holds ⟨rfl, _, rfl, .cons (by decide) .nil⟩ ?_
  have none : ∀ m ∈ ([] : List Int), IsScore m := fun _ member => absurd member List.not_mem_nil
  exact .listed rfl rfl rfl none (by unfold IsScore; decide)

theorem load_wideBytes :
    ¬∀ (files : FileTree) (path : String) (inputs : Inputs) (bytes : Bytes),
      files.read path = .ok bytes →
      Worded SavedScanError.message? IsComplete (load files path inputs) := by
  intro always
  let files : FileTree := ⟨.directory [("s.scan", .file wideBytes)], []⟩
  have here : files.read "s.scan" = .ok wideBytes := rfl
  exact not_worded (load_of_unloadable (.content here wideBytes_unworded)) rfl
    (always files "s.scan" twoFiles wideBytes here)

end SourceSimilarity.SavedScan
