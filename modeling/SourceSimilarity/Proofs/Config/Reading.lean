import SourceSimilarity.Config.Reading
import SourceSimilarity.Proofs.Config.Valid
import SourceSimilarity.Proofs.Json.Readable

/-!
Of whatever a file holds, a valid configuration is read or an error is told in words, except for
content that is not text, for numbers with too many digits, for too many containers within one
another, and for comparators that are given by a value without members. Of values this is said as
far as JSON text holds them: a whole number with more digits cannot be shown in a message either.
-/

namespace SourceSimilarity

open Json (Value)

inductive Json.Value.IsScalar : Value → Prop
  | null : IsScalar .null
  | bool (b : Bool) : IsScalar (.bool b)
  | number (n : Decimal.Number) : IsScalar (.number n)

section Words

variable {ε α β : Type} {message? : ε → Option String} {good : α → Prop} {better : β → Prop}

/-- A good result, or an error with a wording. -/
def Worded (message? : ε → Option String) (good : α → Prop) : Except ε α → Prop
  | .ok a => good a
  | .error e => (message? e).isSome = true

theorem Worded.bind {first : Except ε α} {next : α → Except ε β}
    (worded : Worded message? good first)
    (later : ∀ a, good a → Worded message? better (next a)) :
    Worded message? better (first >>= next) := by
  cases first with
  | error e => exact worded
  | ok a => exact later a worded

theorem not_worded {result : Except ε α} {e : ε} (refused : result = .error e)
    (silent : message? e = none) : ¬Worded message? good result := by
  rw [refused, Worded, silent]
  exact Bool.false_ne_true

theorem worded_mapError {result : Except ConfigError α} (found : ∀ a, result = .ok a → good a) :
    Worded ConfigFailure.message? good (result.mapError .invalid) := by
  cases result with
  | error e => rfl
  | ok a => exact found a rfl

end Words

namespace Draft

def given (draft : Draft) (option : Option Value)
    (set : Draft → Value → Except ConfigFailure Draft) : Except ConfigFailure Draft :=
  match option with
  | some v => set draft v
  | none => .ok draft

theorem given_bind {α : Type} (draft : Draft) (option : Option Value)
    (set : Draft → Value → Except ConfigFailure Draft) (next : Draft → Except ConfigFailure α) :
    draft.given option set >>= next =
      match option with
      | some v => set draft v >>= next
      | _ => next draft := by
  cases option <;> rfl

theorem given_worded (draft : Draft) {option : Option Value}
    {set : Draft → Value → Except ConfigFailure Draft}
    (worded : ∀ v, option = some v → Worded ConfigFailure.message? (fun _ => True) (set draft v)) :
    Worded ConfigFailure.message? (fun _ => True) (draft.given option set) := by
  cases option with
  | none => trivial
  | some v => exact worded v rfl

end Draft

theorem parseComparators_of_scalar {names : Value} (scalar : names.IsScalar) :
    parseComparators names = .error .notAList := by
  cases scalar <;> rfl

theorem parseComparators_worded {names : Value} (listed : ¬names.IsScalar) :
    Worded ConfigFailure.message? (fun _ => True) (parseComparators names) := by
  cases names with
  | null => exact absurd .null listed
  | bool b => exact absurd (.bool b) listed
  | number n => exact absurd (.number n) listed
  | string text => exact worded_mapError fun _ _ => trivial
  | array items => exact worded_mapError fun _ _ => trivial
  | object fields => exact worded_mapError fun _ _ => trivial

namespace Config

variable {data : Value}

structure Valid (config : Config) : Prop where
  threads_pos : 1 ≤ config.threads
  enabled_ne_nil : config.enabled ≠ []
  arranged : Comparator.arrange config.enabled = config.enabled
  k_pos : 1 ≤ config.k
  w_pos : 1 ≤ config.w
  share : isShare config.unreadableShare = true

theorem valid_iff {config : Config} : config.Valid ↔ config.toDraft.check = .ok config := by
  rw [check_toDraft_iff]
  exact ⟨fun ⟨threads, enabled, arranged, k, w, share⟩ =>
      ⟨threads, enabled, arranged, k, w, share⟩,
    fun ⟨threads, enabled, arranged, k, w, share⟩ => ⟨threads, enabled, arranged, k, w, share⟩⟩

theorem one_le_of_positive? {v : Value} {n : Nat} (found : positive? v = some n) : 1 ≤ n := by
  unfold positive? at found
  split at found
  · split at found
    · obtain rfl := Option.some.inj found
      omega
    · cases found
  · cases found

theorem arrange_arrange (members : List Comparator) :
    Comparator.arrange (Comparator.arrange members) = Comparator.arrange members := by
  refine List.filter_congr fun comparator _ => ?_
  rw [Bool.eq_iff_iff, List.contains_iff_mem, List.contains_iff_mem, Comparator.mem_arrange]

theorem arrange_ne_nil {members : List Comparator} (some : members ≠ []) :
    Comparator.arrange members ≠ [] := by
  obtain ⟨comparator, member⟩ := List.exists_mem_of_ne_nil members some
  exact List.ne_nil_of_mem (Comparator.mem_arrange.mpr member)

theorem valid_of_check {draft : Draft} {config : Config} (checked : draft.check = .ok config) :
    config.Valid := by
  unfold Draft.check at checked
  dsimp only at checked
  -- a check that fails gives an error, so one course is left
  repeat' split at checked
  all_goals try cases checked
  rename_i threads someThreads chosen _ noStranger _ _ _ _ k someK _ w someW _ share _ between
  have noStrangers : draft.strangers = [] := by
    cases strangers : draft.strangers with
    | nil => rfl
    | cons stranger rest => exact absurd strangers (noStranger stranger rest)
  have some : draft.enabled ≠ [] := by simpa [noStrangers] using chosen
  exact {
    threads_pos := one_le_of_positive? someThreads
    enabled_ne_nil := arrange_ne_nil some
    arranged := arrange_arrange draft.enabled
    k_pos := one_le_of_positive? someK
    w_pos := one_le_of_positive? someW
    share := by simpa using between }

theorem ofJson_object (threads : Nat) {fields : List (String × Value)}
    (known : ∀ field ∈ fields, field.1 ∈ keys) :
    ofJson threads (.object fields) = (do
      let draft ← (Draft.initial threads).given (fields.lookup "threads") fun draft threads =>
        pure { draft with threads }
      let draft ← draft.given (fields.lookup "enabled") fun draft names => do
        let enabled ← parseComparators names
        pure { draft with enabled }
      let draft ← draft.given (fields.lookup "normalizer") fun draft name => do
        let normalizer ← (Normalizer.parse name).mapError .invalid
        pure { draft with normalizer := .ok normalizer }
      let draft ← draft.given (fields.lookup "moss") fun draft moss =>
        (draft.withMoss moss).mapError .invalid
      let draft ← draft.given (fields.lookup "max_unreadable_fraction") fun draft share =>
        pure { draft with unreadableShare := share }
      draft.check.mapError .invalid) := by
  have noneUnknown : (fields.map (·.1)).filter (fun key => !keys.contains key) = [] := by
    simpa using known
  rw [ofJson]
  simp only [noneUnknown, Draft.given_bind, bind_assoc, pure_bind]
  rfl

/-- Objects in which all names are known and the comparators are given by a scalar. -/
def EnablesScalar (data : Value) : Prop :=
  ∃ fields names, data = .object fields ∧ (∀ field ∈ fields, field.1 ∈ keys) ∧
    fields.lookup "enabled" = some names ∧ names.IsScalar

theorem ofJson_of_enablesScalar (threads : Nat) (scalar : EnablesScalar data) :
    ofJson threads data = .error .notAList := by
  obtain ⟨fields, names, rfl, known, enabled, scalar⟩ := scalar
  rw [ofJson_object threads known, enabled]
  cases fields.lookup "threads" <;>
    simp only [Draft.given, parseComparators_of_scalar scalar] <;> rfl

theorem ofJson_worded (threads : Nat) (listed : ¬EnablesScalar data) :
    Worded ConfigFailure.message? Valid (ofJson threads data) := by
  cases data with
  | object fields =>
      by_cases known : ∀ field ∈ fields, field.1 ∈ keys
      · rw [ofJson_object threads known]
        refine .bind (Draft.given_worded _ fun _ _ => trivial) fun draft _ => ?_
        refine .bind (draft.given_worded fun names enabled => ?_) fun draft _ => ?_
        · have notScalar : ¬names.IsScalar := fun scalar =>
            listed ⟨fields, names, rfl, known, enabled, scalar⟩
          exact .bind (parseComparators_worded notScalar) fun _ _ => trivial
        refine .bind (draft.given_worded fun name _ => ?_) fun draft _ => ?_
        · have parsed : Worded ConfigFailure.message? (fun _ => True)
              ((Normalizer.parse name).mapError .invalid) := worded_mapError fun _ _ => trivial
          exact parsed.bind fun _ _ => trivial
        refine .bind (draft.given_worded fun moss _ => ?_) fun draft _ => ?_
        · exact worded_mapError fun _ _ => trivial
        refine .bind (draft.given_worded fun _ _ => trivial) fun draft _ => ?_
        exact worded_mapError fun config => valid_of_check
      · have unknown :
            (!((fields.map (·.1)).filter fun key => !keys.contains key).isEmpty) = true := by
          simpa using known
        rw [ofJson]
        simp only [unknown, if_true]
        rfl
  | null => rfl
  | bool b => rfl
  | number n => rfl
  | string s => rfl
  | array items => rfl

theorem parse_comparator_name (comparator : Comparator) :
    Comparator.parse (.string comparator.name) = .ok comparator := by
  have named : Comparator.ofName? comparator.name = some comparator := by
    cases comparator <;> decide +kernel
  rw [Comparator.parse, Value.display, named]

theorem parse_normalizer_name (normalizer : Normalizer) :
    Normalizer.parse (.string normalizer.name) = .ok normalizer := by
  have named : Normalizer.ofName? normalizer.name = some normalizer := by
    cases normalizer <;> decide +kernel
  rw [Normalizer.parse, Value.display, named]

theorem mapM_parse_name (comparators : List Comparator) :
    (comparators.map fun comparator => Value.string comparator.name).mapM Comparator.parse =
      .ok comparators := by
  induction comparators with
  | nil => rfl
  | cons comparator comparators ih =>
      rw [List.map_cons, List.mapM_cons, parse_comparator_name, ih]
      rfl

theorem ofJson_toJson (threads : Nat) {config : Config} (valid : config.Valid) :
    ofJson threads config.toJson = .ok config := by
  have enabled : parseComparators (.array (config.enabled.map fun comparator =>
      .string comparator.name)) = .ok config.enabled := by
    simp only [parseComparators, mapM_parse_name]
    rfl
  have normalizer : (Normalizer.parse (.string config.normalizer.name)).mapError
      ConfigFailure.invalid = .ok config.normalizer := by
    rw [parse_normalizer_name]
    rfl
  have moss (draft : Draft) :
      (draft.withMoss (.object [("k", .whole config.k), ("w", .whole config.w)])).mapError
        ConfigFailure.invalid = .ok { draft with k := .whole config.k, w := .whole config.w } := rfl
  have read : ofJson threads config.toJson = config.toDraft.check.mapError .invalid := by
    rw [toJson, ofJson_object threads (by simp [keys])]
    simp [Draft.given, List.lookup_cons, enabled, normalizer, moss, pure, bind, Except.bind,
      Except.pure]
    rfl
  rw [read, valid_iff.mp valid]
  rfl

section Contents

variable (limits : Limits)

/-- Contents for which no error is told in words. -/
inductive Unworded : Bytes → ConfigFailure → Prop
  | notText {content : Bytes} : Text.decode? content = none → Unworded content .notText
  | integerTooLong {content : Bytes} {text : List Char} : Text.decode? content = some text →
    Json.read (String.ofList (unifyLineEnds text)) limits = .error .integerTooLong →
    Unworded content .integerTooLong
  | tooDeep {content : Bytes} {text : List Char} : Text.decode? content = some text →
    Json.read (String.ofList (unifyLineEnds text)) limits = .error .tooDeep →
    Unworded content .tooDeep
  | notAList {content : Bytes} {text : List Char} {data : Value} :
    Text.decode? content = some text →
    Json.read (String.ofList (unifyLineEnds text)) limits = .ok data → EnablesScalar data →
    Unworded content .notAList

inductive Unloadable (files : FileTree) (path : String) : ConfigFailure → Prop
  | unfitPath {fault : Path.Fault} : files.read path = .error (.unfit fault) →
    Unloadable files path (.unfitPath fault)
  | content {content : Bytes} {failure : ConfigFailure} : files.read path = .ok content →
    Unworded limits content failure → Unloadable files path failure

end Contents

section Loading

variable {limits : Limits} {files : FileTree} {path : String} {failure : ConfigFailure}

theorem ofContent_of_unworded (threads : Nat) (path : String) {content : Bytes}
    (unworded : Unworded limits content failure) :
    ofContent threads path content limits = .error failure := by
  cases unworded with
  | notText noText => rw [ofContent, noText]
  | integerTooLong decoded read => simp only [ofContent, decoded, read]
  | tooDeep decoded read => simp only [ofContent, decoded, read]
  | notAList decoded read scalar =>
      simp only [ofContent, decoded, read, ofJson_of_enablesScalar threads scalar]

theorem Unworded.message?_eq_none {content : Bytes} (unworded : Unworded limits content failure) :
    failure.message? = none := by
  cases unworded <;> rfl

theorem ofContent_cases (threads : Nat) (path : String) (content : Bytes) (limits : Limits) :
    (∃ failure, Unworded limits content failure) ∨
      Worded ConfigFailure.message? Valid (ofContent threads path content limits) := by
  cases decoded : Text.decode? content with
  | none => exact .inl ⟨_, .notText decoded⟩
  | some text =>
      cases read : Json.read (String.ofList (unifyLineEnds text)) limits with
      | ok data =>
          by_cases scalar : EnablesScalar data
          · exact .inl ⟨_, .notAList decoded read scalar⟩
          · simp only [ofContent, decoded, read]
            exact .inr (ofJson_worded threads scalar)
      | error e =>
          cases e with
          | malformed problem line column offset =>
              simp only [ofContent, decoded, read]
              exact .inr rfl
          | integerTooLong => exact .inl ⟨_, .integerTooLong decoded read⟩
          | tooDeep => exact .inl ⟨_, .tooDeep decoded read⟩

theorem Unloadable.message?_eq_none (unloadable : Unloadable limits files path failure) :
    failure.message? = none := by
  cases unloadable with
  | unfitPath _ => rfl
  | content _ unworded => exact unworded.message?_eq_none

theorem load_of_unloadable (threads : Nat) (unloadable : Unloadable limits files path failure) :
    load threads files path limits = .error failure := by
  cases unloadable with
  | unfitPath unfit => rw [load, unfit]
  | content here unworded =>
      rw [load, here]
      exact ofContent_of_unworded threads path unworded

theorem load_cases (threads : Nat) (files : FileTree) (path : String) (limits : Limits) :
    (∃ failure, Unloadable limits files path failure) ∨
      Worded ConfigFailure.message? Valid (load threads files path limits) := by
  cases here : files.read path with
  | ok content =>
      rw [load, here]
      exact (ofContent_cases threads path content limits).imp_left fun ⟨failure, unworded⟩ =>
        ⟨failure, .content here unworded⟩
  | error e =>
      cases e with
      | unfit fault => exact .inl ⟨_, .unfitPath here⟩
      | refused e =>
          rw [load, here]
          exact .inr rfl

end Loading

/-- From a file and from a value that JSON text may hold a valid configuration is read or an error is
told in words, but for files and values of which is said how they fail, and a valid configuration is
read from the value it is written as. -/
theorem load_valid_or_worded_iff (limits : Limits) (threads : Nat) (files : FileTree)
    (path : String) :
    (Worded ConfigFailure.message? Valid (load threads files path limits) ↔
      ∀ failure, ¬Unloadable limits files path failure) ∧
    (∀ failure, Unloadable limits files path failure →
      load threads files path limits = .error failure ∧ failure.message? = none) ∧
    (∀ text data, Json.read text limits = .ok data → data.Readable limits.containers) ∧
    (∀ data, data.Readable limits.containers →
      (Worded ConfigFailure.message? Valid (ofJson threads data) ↔ ¬EnablesScalar data)) ∧
    (∀ data, EnablesScalar data → ofJson threads data = .error .notAList) ∧
    ∀ config, Valid config → ofJson threads config.toJson = .ok config := by
  refine ⟨⟨fun worded failure unloadable => ?_, fun loadable => ?_⟩, fun failure unloadable => ?_,
    fun text data => Json.readable_of_read,
    fun data _ => ⟨fun worded scalar => ?_, ofJson_worded threads⟩,
    fun data => ofJson_of_enablesScalar threads, fun config => ofJson_toJson threads⟩
  · exact not_worded (load_of_unloadable threads unloadable) unloadable.message?_eq_none worded
  · rcases load_cases threads files path limits with ⟨failure, unloadable⟩ | worded
    · exact absurd unloadable (loadable failure)
    · exact worded
  · exact ⟨load_of_unloadable threads unloadable, unloadable.message?_eq_none⟩
  · exact not_worded (ofJson_of_enablesScalar threads scalar) rfl worded

def oneByte : FileTree where
  root := .directory [("c.json", .file [0xff])]
  workingDirectory := []

theorem load_oneByte : ¬∀ (threads : Nat) (files : FileTree) (path : String) (content : Bytes),
    files.read path = .ok content →
      Worded ConfigFailure.message? Valid (load threads files path) := by
  intro always
  have here : oneByte.read "c.json" = .ok [0xff] := rfl
  have noText : Unworded {} [0xff] .notText := .notText (by decide +kernel)
  exact not_worded (load_of_unloadable 1 (.content here noText)) rfl
    (always 1 oneByte "c.json" [0xff] here)

end Config

end SourceSimilarity
