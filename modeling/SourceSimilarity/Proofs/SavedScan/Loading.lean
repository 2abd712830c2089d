import SourceSimilarity.Proofs.Config.Valid
import SourceSimilarity.Proofs.Json.Document
import SourceSimilarity.Proofs.Score.Stream
import SourceSimilarity.SavedScan

namespace SourceSimilarity.SavedScan

open Json

theorem isShort_score (score : Score) : IsShort score.toInt := by
  have lower := score.le_toInt
  have upper := score.toInt_lt
  have digits : (Nat.toDigits 10 score.toInt.natAbs).length ≤ 10 :=
    (Nat.length_toDigits_le_iff (by decide) (by decide)).mpr (by omega)
  exact digits.trans (by decide)

theorem fits_share {config : Config} (valid : config.toDraft.check = .ok config) (room : Nat) :
    (Value.number config.unreadableShare).Fits room := by
  obtain ⟨-, -, -, -, -, share⟩ := config.check_toDraft_iff.mp valid
  cases given : config.unreadableShare with
  | float x => exact .float x
  | whole n =>
      simp only [given, isShare, Bool.and_eq_true, decide_eq_true_eq] at share
      refine .whole ?_
      obtain rfl | rfl : n = 0 ∨ n = 1 := by omega
      · show (Nat.toDigits 10 0).length ≤ _
        decide
      · show (Nat.toDigits 10 1).length ≤ _
        decide

theorem fits_config {config : Config} (valid : config.toDraft.check = .ok config)
    (threads : IsShort config.threads) (k : IsShort config.k) (w : IsShort config.w) (room : Nat) :
    config.toJson.Fits (room + 2) := by
  refine .object_of_names
    ["threads", "enabled", "normalizer", "moss", "max_unreadable_fraction"] rfl (by decide)
    (by decide) fun field member => ?_
  simp only [List.mem_cons, List.not_mem_nil, or_false] at member
  rcases member with rfl | rfl | rfl | rfl | rfl
  · exact .whole threads
  · refine .array fun item member => ?_
    obtain ⟨comparator, -, rfl⟩ := List.mem_map.mp member
    exact .string _
  · exact .string _
  · refine .object_of_names ["k", "w"] rfl (by decide) (by decide) fun field member => ?_
    simp only [List.mem_cons, List.not_mem_nil, or_false] at member
    rcases member with rfl | rfl
    · exact .whole k
    · exact .whole w
  · exact fits_share valid _

theorem fits_pairs {inputs : Inputs}
    (pairs : ∀ pair ∈ inputs.pairs, IsShort pair.1 ∧ IsShort pair.2) (room : Nat) :
    (pairsJson inputs).Fits (room + 2) := by
  refine .array fun item member => ?_
  obtain ⟨pair, inPairs, rfl⟩ := List.mem_map.mp member
  refine .array fun number member => ?_
  obtain ⟨first, second⟩ := pairs pair inPairs
  simp only [List.mem_cons, List.not_mem_nil, or_false] at member
  rcases member with rfl | rfl
  · exact .whole first
  · exact .whole second

theorem manifest_fits {inputs : Inputs} {config : Config}
    (pairs : ∀ pair ∈ inputs.pairs, IsShort pair.1 ∧ IsShort pair.2)
    (valid : config.toDraft.check = .ok config) (threads : IsShort config.threads)
    (k : IsShort config.k) (w : IsShort config.w) (table : ScoreTable inputs.pairCount)
    (room : Nat) : (manifest inputs config table).Fits (room + 3) := by
  have fits : ∀ field ∈ [("version", .string Release.version),
      ("files", .array (inputs.files.map .string)), ("pairs", pairsJson inputs),
      ("config", config.toJson)], Value.Fits (room + 2) field.2 := by
    intro field member
    simp only [List.mem_cons, List.not_mem_nil, or_false] at member
    rcases member with rfl | rfl | rfl | rfl
    · exact .string _
    · refine .array fun item member => ?_
      obtain ⟨path, -, rfl⟩ := List.mem_map.mp member
      exact .string path
    · exact fits_pairs pairs room
    · exact fits_config valid threads k w room
  rw [manifest, treeFields]
  cases table.get? .treeEdit with
  | none =>
      exact .object_of_names ["version", "files", "pairs", "config"] rfl (by decide) (by decide) fits
  | some scores =>
      refine .object_of_names ["version", "files", "pairs", "config", "tree_scores"] rfl (by decide)
        (by decide) fun field member => ?_
      rcases List.mem_append.mp member with inFront | inTrees
      · exact fits field inFront
      · rw [List.mem_singleton.mp inTrees]
        refine .array fun item member => ?_
        obtain ⟨score, -, rfl⟩ := List.mem_map.mp member
        exact .whole (isShort_score score)

theorem get?_reread (name : String) (v : Value) :
    v.reread.get? name = (v.get? name).map Value.reread := by
  cases v with
  | object fields =>
      rw [Value.reread, Value.get?, Value.get?, rereadFields_eq]
      induction fields with
      | nil => rfl
      | cons field fields ih =>
          rw [List.map_cons, List.lookup_cons, List.lookup_cons]
          cases name == field.1 with
          | true => rfl
          | false => exact ih
  | number n => cases n <;> rfl
  | null | bool b | string s | array items => rfl

theorem get?_files (inputs : Inputs) (config : Config) (table : ScoreTable inputs.pairCount) :
    (manifest inputs config table).reread.get? "files" =
      some (.array ((inputs.files.map rejoined).map .string)) := by
  have here : (manifest inputs config table).get? "files" =
      some (.array (inputs.files.map .string)) := rfl
  rw [get?_reread, here, Option.map_some, Value.reread, rereadItems_eq, List.map_map, List.map_map]
  rfl

theorem get?_pairs (inputs : Inputs) (config : Config) (table : ScoreTable inputs.pairCount) :
    (manifest inputs config table).reread.get? "pairs" = some (pairsJson inputs) := by
  have here : (manifest inputs config table).get? "pairs" = some (pairsJson inputs) := rfl
  rw [get?_reread, here, Option.map_some, pairsJson, Value.reread, rereadItems_eq, List.map_map]
  rfl

theorem get?_treeScores (inputs : Inputs) (config : Config) (table : ScoreTable inputs.pairCount) :
    (manifest inputs config table).reread.get? "tree_scores" =
      (table.get? .treeEdit).map fun scores =>
        .array (scores.toList.map fun score => .whole score.toInt) := by
  have here : (manifest inputs config table).get? "tree_scores" =
      (treeFields table).lookup "tree_scores" := rfl
  rw [get?_reread, here, treeFields]
  cases table.get? .treeEdit with
  | none => rfl
  | some scores =>
      show some (Value.array (scores.toList.map fun score => .whole score.toInt)).reread = _
      rw [Value.reread, rereadItems_eq, List.map_map]
      rfl

theorem all_zip_map_iff {α β : Type} {isItem : α → β → Bool} {item : α → β}
    (same : ∀ a b, isItem a (item b) = true ↔ b = a) (expected actual : List α) :
    ((actual.map item).length = expected.length ∧
      (expected.zip (actual.map item)).all (fun (a, b) => isItem a b) = true) ↔
        actual = expected := by
  induction actual generalizing expected with
  | nil => cases expected <;> simp
  | cons b actual ih =>
      cases expected with
      | nil => simp
      | cons a expected =>
          simp only [List.map_cons, List.length_cons, Nat.add_right_cancel_iff, List.zip_cons_cons,
            List.all_cons, Bool.and_eq_true, same, List.cons.injEq, ← ih expected]
          tauto

theorem isArrayOf_map_iff {α : Type} {isItem : α → Value → Bool} {item : α → Value}
    (same : ∀ a b, isItem a (item b) = true ↔ b = a) (expected actual : List α) :
    isArrayOf isItem expected (actual.map item) = true ↔ actual = expected := by
  rw [isArrayOf, Bool.and_eq_true, decide_eq_true_eq]
  exact all_zip_map_iff same expected actual

theorem listsFiles_iff (saved inputs : Inputs) (config : Config)
    (table : ScoreTable saved.pairCount) :
    listsFiles inputs (manifest saved config table).reread = true ↔
      saved.files.map rejoined = inputs.files := by
  rw [listsFiles, get?_files]
  exact isArrayOf_map_iff (fun a b => decide_eq_true_iff) inputs.files _

def numbersOf (pair : Int × Int) : List Value := [.whole pair.1, .whole pair.2]

theorem listedPairs?_manifest (saved : Inputs) (config : Config)
    (table : ScoreTable saved.pairCount) :
    listedPairs? (manifest saved config table).reread = some (saved.pairs.map numbersOf) := by
  rw [listedPairs?, get?_pairs, Option.getD_some, pairsJson]
  show (saved.pairs.map fun pair => Value.array (numbersOf pair)).mapM members? = _
  induction saved.pairs with
  | nil => rfl
  | cons pair pairs ih =>
      rw [List.map_cons, List.mapM_cons, ih]
      rfl

theorem isPair_iff (pair listed : Int × Int) :
    isPair pair (numbersOf listed) = true ↔ listed = pair := by
  have numbers : isArrayOf isNumber [pair.1, pair.2] ([listed.1, listed.2].map .whole) = true ↔
      [listed.1, listed.2] = [pair.1, pair.2] :=
    isArrayOf_map_iff (fun a b => decide_eq_true_iff) _ _
  rw [List.cons.injEq, List.cons.injEq] at numbers
  exact numbers.trans (by rw [Prod.ext_iff]; tauto)

theorem arePairs_iff (saved inputs : Inputs) :
    arePairs inputs (saved.pairs.map numbersOf) = true ↔ saved.pairs = inputs.pairs := by
  rw [arePairs, Bool.and_eq_true, decide_eq_true_eq]
  exact all_zip_map_iff isPair_iff inputs.pairs saved.pairs

theorem ofInt?_toInt (score : Score) : Score.ofInt? score.toInt = some score := by
  have lower := score.le_toInt
  have upper := score.toInt_lt
  rw [Score.ofInt?, if_neg (by omega), Int32.ofInt_toInt]

theorem mapM_integer? (scores : List Score) :
    (scores.map fun score => Value.whole score.toInt).mapM integer? =
      some (scores.map Int32.toInt) := by
  induction scores with
  | nil => rfl
  | cons score scores ih =>
      rw [List.map_cons, List.mapM_cons, ih]
      rfl

theorem mapM_scoreOf (scores : List Score) :
    (scores.map Int32.toInt).mapM scoreOf = .ok scores := by
  induction scores with
  | nil => rfl
  | cons score scores ih =>
      rw [List.map_cons, List.mapM_cons, scoreOf, ofInt?_toInt, ih]
      rfl

theorem withTreeScores_manifest (path : String) (inputs : Inputs) (config : Config)
    (table loaded : ScoreTable inputs.pairCount)
    (sections : ∀ comparator, loaded.get? comparator =
      if comparator ∈ Comparator.saved then table.get? comparator else none) :
    withTreeScores path (manifest inputs config table).reread loaded = .ok table := by
  rw [withTreeScores, get?_treeScores]
  cases trees : table.get? .treeEdit with
  | none =>
      refine congrArg Except.ok (ScoreTable.ext_get? fun comparator => ?_)
      rw [sections]
      cases comparator with
      | treeEdit => exact trees.symm
      | byteEdit | tokenEdit | moss | isomorphism => rfl
  | some scores =>
      have complete : loaded.insert .treeEdit scores = table := by
        refine ScoreTable.ext_get? fun comparator => ?_
        by_cases onTrees : comparator = .treeEdit
        · rw [onTrees, ScoreTable.get?_insert_self, trees]
        · rw [ScoreTable.get?_insert_of_ne _ _ onTrees, sections]
          cases comparator with
          | treeEdit => exact absurd rfl onTrees
          | byteEdit | tokenEdit | moss | isomorphism => rfl
      have size : scores.toList.toArray.size = inputs.pairCount := by simp
      simp only [Option.map_some, mapM_integer?, List.length_map, Vector.length_toList,
        ne_eq, not_true_eq_false, if_false, mapM_scoreOf, bind, Except.bind, dif_pos size]
      have same : (⟨scores.toList.toArray, size⟩ : Vector Score inputs.pairCount) = scores := by
        simp [Vector.toList]
      exact congrArg Except.ok ((congrArg (loaded.insert .treeEdit) same).trans complete)

variable {limits : Limits}

/-- Bytes that end like the text of an object hold no other object. -/
theorem readManifest_of_suffix {path : String} {fields : List (String × Value)}
    (fits : (Value.object fields).Fits limits.containers) {bytes whole : Bytes} {read : Value}
    (ending : bytes <:+ whole)
    (written : Text.encode ((Value.object fields).write .spaced) <:+ whole)
    (found : readManifest path bytes limits = .ok read) : read = (Value.object fields).reread := by
  have plain := (Value.object fields).plain_spaced
  rw [readManifest] at found
  cases decoded : Text.decode? bytes with
  | none => rw [decoded] at found; cases found
  | some text =>
      have together : text <:+ (Value.object fields).write .spaced ∨
          (Value.object fields).write .spaced <:+ text := by
        rcases List.suffix_or_suffix_of_suffix ending written with shorter | ⟨front, longer⟩
        · exact .inl (Text.suffix_of_decode? plain shorter decoded)
        · rw [← longer] at decoded
          obtain ⟨before, rfl⟩ := Text.decode?_append_encode plain front decoded
          exact .inr (List.suffix_append before _)
      rw [decoded] at found
      simp only [Json.read, String.toList_ofList] at found
      cases document : Json.document limits.containers text with
      | error fault => rw [document] at found; cases fault <;> cases found
      | ok v =>
          rw [document] at found
          cases v with
          | object others =>
              rw [← Except.ok.inj found]
              exact fits.eq_of_document document together
          | null | bool b | number n | string s | array items => cases found

theorem readManifest_encode {path : String} {fields : List (String × Value)}
    (fits : (Value.object fields).Fits limits.containers) :
    readManifest path (Text.encode ((Value.object fields).write .spaced)) limits =
      .ok (Value.object fields).reread := by
  rw [readManifest, Text.decode?_encode_of_plain (Value.object fields).plain_spaced]
  simp only [Json.read, String.toList_ofList, fits.document]
  rfl

theorem ofBytes_eq_ok {path : String} {inputs : Inputs} {bytes : Bytes}
    {loaded : ScoreTable inputs.pairCount}
    (found : ofBytes path inputs bytes limits = .ok loaded) :
    ∃ table rest read listed, ScoreTable.load inputs.pairCount bytes = .ok (table, rest) ∧
      readManifest path rest limits = .ok read ∧ listedPairs? read = some listed ∧
      listsFiles inputs read = true ∧ arePairs inputs listed = true ∧
      withTreeScores path read table = .ok loaded := by
  rw [ofBytes] at found
  cases sections : ScoreTable.load inputs.pairCount bytes with
  | error e => rw [sections] at found; cases found
  | ok result =>
      obtain ⟨table, rest⟩ := result
      rw [sections] at found
      cases manifest : readManifest path rest limits with
      | error e => simp [Except.mapError, bind, Except.bind, manifest] at found
      | ok read =>
          simp only [Except.mapError, bind, Except.bind, manifest] at found
          split at found
          · rename_i listed pairs
            split_ifs at found with own
            · rw [Bool.and_eq_true] at own
              exact ⟨table, rest, read, listed, rfl, manifest, pairs, own.1, own.2, found⟩
          · cases found

theorem eq_inputs_of_ofBytes {path : String} {saved inputs : Inputs} {config : Config}
    {table : ScoreTable saved.pairCount} {loaded : ScoreTable inputs.pairCount}
    (fits : (manifest saved config table).Fits limits.containers)
    (found : ofBytes path inputs (toBytes saved config table) limits = .ok loaded) :
    saved.files.map rejoined = inputs.files ∧ saved.pairs = inputs.pairs := by
  obtain ⟨sections, rest, read, listed, stream, manifest, pairs, files, own, -⟩ :=
    ofBytes_eq_ok found
  have ending : rest <:+ toBytes saved config table := by
    rw [← (ScoreTable.save_of_load stream).1]
    exact List.suffix_append _ _
  obtain rfl : read = (SavedScan.manifest saved config table).reread :=
    readManifest_of_suffix fits ending (List.suffix_append _ _) manifest
  rw [listedPairs?_manifest, Option.some.injEq] at pairs
  rw [← pairs] at own
  exact ⟨(listsFiles_iff saved inputs config table).mp files, (arePairs_iff saved inputs).mp own⟩

theorem ofBytes_toBytes (path : String) {saved : Inputs} {config : Config}
    {table : ScoreTable saved.pairCount}
    (fits : (manifest saved config table).Fits limits.containers) {files : List String}
    (same : saved.files.map rejoined = files) :
    ofBytes path ⟨files, saved.pairs⟩ (toBytes saved config table) limits = .ok table := by
  obtain ⟨sections, stream, kept⟩ :=
    table.load_save (Text.encode ((manifest saved config table).write .spaced))
  have stream : ScoreTable.load (Inputs.mk files saved.pairs).pairCount
      (toBytes saved config table) = _ := stream
  have read : readManifest path (Text.encode ((manifest saved config table).write .spaced))
      limits = .ok (manifest saved config table).reread := readManifest_encode fits
  have listed := (listsFiles_iff saved ⟨files, saved.pairs⟩ config table).mpr same
  have pairs := (arePairs_iff saved ⟨files, saved.pairs⟩).mpr rfl
  have trees : withTreeScores path (manifest saved config table).reread sections = .ok table :=
    withTreeScores_manifest path saved config table sections kept
  rw [ofBytes, stream]
  simp only [Except.mapError, bind, Except.bind, read, listedPairs?_manifest, listed, pairs,
    Bool.and_self, if_true]
  exact trees

/-- A saved scan is loaded just for the files and pairs it was made for, and what is loaded is the
table that was saved. Its numbers are not too long to be written. A path is read back as itself unless
halves of a pair that stand alone in it are joined. -/
theorem load_saved {files : FileTree} {path : String} {saved : Inputs} (inputs : Inputs)
    (limits : Limits) {config : Config} {table : ScoreTable saved.pairCount}
    (written : files.read path = .ok (toBytes saved config table))
    (pairs : ∀ pair ∈ saved.pairs, IsShort pair.1 ∧ IsShort pair.2)
    (valid : config.toDraft.check = .ok config) (threads : IsShort config.threads)
    (k : IsShort config.k) (w : IsShort config.w) (enough : 3 ≤ limits.containers) :
    ((∃ loaded, load files path inputs limits = .ok loaded) ↔
      saved.files.map rejoined = inputs.files ∧ saved.pairs = inputs.pairs) ∧
    (∀ loaded, load files path inputs limits = .ok loaded → table.same loaded = true) ∧
    ((∀ path ∈ saved.files, (Text.whole? (Text.points path.toList)).isSome) →
      saved.files.map rejoined = saved.files) := by
  have fits : (manifest saved config table).Fits limits.containers := by
    rw [← Nat.sub_add_cancel enough]
    exact manifest_fits pairs valid threads k w table _
  have reading : load files path inputs limits =
      ofBytes path inputs (toBytes saved config table) limits := by
    rw [load, written]
  have own : saved.files.map rejoined = inputs.files ∧ saved.pairs = inputs.pairs →
      ∃ loaded, load files path inputs limits = .ok loaded ∧ table.same loaded = true := by
    obtain ⟨files, pairs⟩ := saved
    obtain ⟨files', pairs'⟩ := inputs
    rintro ⟨same, rfl⟩
    have equal : table.same table = true := by simp [ScoreTable.same]
    exact ⟨table, reading.trans (ofBytes_toBytes path fits same), equal⟩
  refine ⟨⟨fun ⟨loaded, found⟩ => eq_inputs_of_ofBytes fits (reading ▸ found), fun same => ?_⟩,
    fun loaded found => ?_, fun whole => ?_⟩
  · obtain ⟨loaded, found, -⟩ := own same
    exact ⟨loaded, found⟩
  · obtain ⟨other, otherFound, same⟩ := own (eq_inputs_of_ofBytes fits (reading ▸ found))
    rw [found] at otherFound
    rwa [Except.ok.inj otherFound]
  · exact (List.map_congr_left fun path member => rejoined_of_whole (whole path member)).trans
      (List.map_id _)

def onePair : Inputs := ⟨["a", "b"], [(0, 1)]⟩

def onePairConfig : Config where
  threads := 1
  enabled := [.moss, .treeEdit]
  normalizer := .variables
  k := 15
  w := 8
  unreadableShare := .whole 1

def onePairScores : ScoreTable onePair.pairCount where
  moss := some #v[3]
  treeEdit := some #v[-7]

def onePairSaved : FileTree where
  root := .directory [("scan", .file (toBytes onePair onePairConfig onePairScores))]
  workingDirectory := []

theorem load_saved_of_onePair :
    (∃ loaded, load onePairSaved "scan" onePair = .ok loaded ∧
      onePairScores.same loaded = true) ∧
    ¬∃ loaded, load onePairSaved "scan" ⟨["a", "b", "c"], [(0, 1), (1, 2)]⟩ = .ok loaded := by
  have written : onePairSaved.read "scan" =
      .ok (toBytes onePair onePairConfig onePairScores) := rfl
  have pairs : ∀ pair ∈ onePair.pairs, IsShort pair.1 ∧ IsShort pair.2 := by
    unfold IsShort
    decide
  have valid : onePairConfig.toDraft.check = .ok onePairConfig :=
    onePairConfig.check_toDraft_iff.mpr (by decide)
  have short : ∀ n ∈ [1, 15, 8], IsShort n := by
    unfold IsShort
    decide
  have always (inputs : Inputs) := load_saved inputs {} written pairs valid
    (short 1 (by decide)) (short 15 (by decide)) (short 8 (by decide)) (by decide)
  have same : onePair.files.map rejoined = onePair.files := (always onePair).2.2 (by decide +kernel)
  refine ⟨?_, fun other => ?_⟩
  · obtain ⟨loaded, found⟩ := (always onePair).1.mpr ⟨same, rfl⟩
    exact ⟨loaded, found, (always onePair).2.1 loaded found⟩
  · exact absurd (same.symm.trans ((always _).1.mp other).1) (by decide)

end SourceSimilarity.SavedScan
