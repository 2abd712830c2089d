import SourceSimilarity.Proofs.Json.Number
import SourceSimilarity.Proofs.Result

namespace SourceSimilarity.Json

/-- The words that are values, but for the names of numbers with their signs. -/
def constants : List (List Char × Value) := [
  ("null".toList, .null), ("true".toList, .bool true), ("false".toList, .bool false),
  ("NaN".toList, .number (.float (0.0 / 0.0))), ("Infinity".toList, .number (.float (1.0 / 0.0))),
  ("-Infinity".toList, .number (.float (-1.0 / 0.0)))]

mutual

/-- What a text begins with, and what follows it. Containers may be opened within one another up to
a depth. -/
inductive BeginsWith : Nat → List Char → Value → List Char → Prop
  | string {room : Nat} {text rest : List Char} {s : List Text.Point} :
    stringBody ('"' :: text) [] text = .ok (s, rest) →
    BeginsWith room ('"' :: text) (.string (Text.ofPoints s)) rest
  | constant {room : Nat} {word rest : List Char} {v : Value} : (word, v) ∈ constants →
    BeginsWith room (word ++ rest) v rest
  | number {room : Nat} {text rest : List Char} {v : Value} : number text = .ok (v, rest) →
    BeginsWith room text v rest
  | emptyArray {room : Nat} {text rest : List Char} : skip text = ']' :: rest →
    BeginsWith (room + 1) ('[' :: text) (.array []) rest
  | array {room : Nat} {text rest : List Char} {items : List Value} :
    BeginsWithItems room (skip text) items rest →
    BeginsWith (room + 1) ('[' :: text) (.array items) rest
  | emptyObject {room : Nat} {text rest : List Char} : skip text = '}' :: rest →
    BeginsWith (room + 1) ('{' :: text) (.object []) rest
  | object {room : Nat} {text rest : List Char} {fields : List (String × Value)} :
    BeginsWithFields room (skip text) fields rest →
    BeginsWith (room + 1) ('{' :: text) (.object (fieldsOf fields)) rest

inductive BeginsWithItems : Nat → List Char → List Value → List Char → Prop
  | last {room : Nat} {text after rest : List Char} {item : Value} :
    BeginsWith room text item after → skip after = ']' :: rest →
    BeginsWithItems room text [item] rest
  | next {room : Nat} {text after more rest : List Char} {item : Value} {items : List Value} :
    BeginsWith room text item after → skip after = ',' :: more →
    BeginsWithItems room (skip more) items rest →
    BeginsWithItems room text (item :: items) rest

inductive BeginsWithFields : Nat → List Char → List (String × Value) → List Char → Prop
  | last {room : Nat} {text afterName behind after rest : List Char} {name : List Text.Point}
    {item : Value} : stringBody ('"' :: text) [] text = .ok (name, afterName) →
    skip afterName = ':' :: behind → BeginsWith room (skip behind) item after →
    skip after = '}' :: rest →
    BeginsWithFields room ('"' :: text) [(Text.ofPoints name, item)] rest
  | next {room : Nat} {text afterName behind after more rest : List Char}
    {name : List Text.Point} {item : Value} {fields : List (String × Value)} :
    stringBody ('"' :: text) [] text = .ok (name, afterName) →
    skip afterName = ':' :: behind → BeginsWith room (skip behind) item after →
    skip after = ',' :: more → BeginsWithFields room (skip more) fields rest →
    BeginsWithFields room ('"' :: text) ((Text.ofPoints name, item) :: fields) rest

end

theorem value_string (fuel room : Nat) (text : List Char) :
    value (fuel + 1) room ('"' :: text) = (do
      let (s, rest) ← stringBody ('"' :: text) [] text
      pure (.string (Text.ofPoints s), rest)) := rfl

theorem value_object (fuel room : Nat) (text : List Char) :
    value (fuel + 1) room ('{' :: text) =
      match room, skip text with
      | 0, _ => .error .tooDeep
      | _, '}' :: rest => .ok (.object [], rest)
      | room + 1, rest => (do
        let (fields, rest) ← members fuel room rest
        pure (.object (fieldsOf fields), rest)) := rfl

theorem value_array (fuel room : Nat) (text : List Char) :
    value (fuel + 1) room ('[' :: text) =
      match room, skip text with
      | 0, _ => .error .tooDeep
      | _, ']' :: rest => .ok (.array [], rest)
      | room + 1, rest => (do
        let (items, rest) ← elements fuel room rest
        pure (.array items, rest)) := rfl

section Fuel

variable {fuel : Nat}

def ValuesDerived (fuel : Nat) : Prop :=
  ∀ {room : Nat} {text rest : List Char} {v : Value},
    value fuel room text = .ok (v, rest) → BeginsWith room text v rest

def ItemsDerived (fuel : Nat) : Prop :=
  ∀ {room : Nat} {text rest : List Char} {items : List Value},
    elements fuel room text = .ok (items, rest) → BeginsWithItems room text items rest

def FieldsDerived (fuel : Nat) : Prop :=
  ∀ {room : Nat} {text rest : List Char} {fields : List (String × Value)},
    members fuel room text = .ok (fields, rest) → BeginsWithFields room text fields rest

theorem object_derived (fieldsDerived : FieldsDerived fuel) {room : Nat} {text rest : List Char}
    {v : Value} (found : value (fuel + 1) room ('{' :: text) = .ok (v, rest)) :
    BeginsWith room ('{' :: text) v rest := by
  rw [value_object] at found
  split at found
  · cases found
  · rename_i more here
    obtain ⟨rfl, rfl⟩ := Prod.mk.inj (Except.ok.inj found)
    obtain ⟨room, rfl⟩ := Nat.exists_eq_succ_of_ne_zero more
    exact .emptyObject here
  · obtain ⟨⟨fields, after⟩, members, found⟩ := bind_eq_ok.mp found
    obtain ⟨rfl, rfl⟩ := Prod.mk.inj (pure_eq_ok.mp found)
    exact .object (fieldsDerived members)

theorem array_derived (itemsDerived : ItemsDerived fuel) {room : Nat} {text rest : List Char}
    {v : Value} (found : value (fuel + 1) room ('[' :: text) = .ok (v, rest)) :
    BeginsWith room ('[' :: text) v rest := by
  rw [value_array] at found
  split at found
  · cases found
  · rename_i more here
    obtain ⟨rfl, rfl⟩ := Prod.mk.inj (Except.ok.inj found)
    obtain ⟨room, rfl⟩ := Nat.exists_eq_succ_of_ne_zero more
    exact .emptyArray here
  · obtain ⟨⟨items, after⟩, elements, found⟩ := bind_eq_ok.mp found
    obtain ⟨rfl, rfl⟩ := Prod.mk.inj (pure_eq_ok.mp found)
    exact .array (itemsDerived elements)

theorem valuesDerived_succ (itemsDerived : ItemsDerived fuel)
    (fieldsDerived : FieldsDerived fuel) : ValuesDerived (fuel + 1) := by
  intro room text rest v found
  have again := found
  have constant : ∀ (word : List Char) {read : Value} {after : List Char},
      (word, read) ∈ constants →
      (.ok (read, after) : Except Fault (Value × List Char)) = .ok (v, rest) →
      BeginsWith room (word ++ after) v rest := by
    intro word read after known same
    obtain ⟨rfl, rfl⟩ := Prod.mk.inj (Except.ok.inj same)
    exact .constant known
  rw [value.eq_def] at found
  dsimp only at found
  split at found
  · obtain ⟨⟨s, after⟩, string, found⟩ := bind_eq_ok.mp found
    obtain ⟨rfl, rfl⟩ := Prod.mk.inj (pure_eq_ok.mp found)
    exact .string string
  · exact object_derived fieldsDerived again
  · exact array_derived itemsDerived again
  · exact constant "null".toList (by simp [constants]) found
  · exact constant "true".toList (by simp [constants]) found
  · exact constant "false".toList (by simp [constants]) found
  · exact constant "NaN".toList (by simp [constants]) found
  · exact constant "Infinity".toList (by simp [constants]) found
  · exact constant "-Infinity".toList (by simp [constants]) found
  · exact .number found

theorem itemsDerived_succ (valuesDerived : ValuesDerived fuel) (itemsDerived : ItemsDerived fuel) :
    ItemsDerived (fuel + 1) := by
  intro room text rest items found
  rw [elements] at found
  obtain ⟨⟨item, after⟩, read, found⟩ := bind_eq_ok.mp found
  dsimp only at found
  split at found
  · rename_i here
    obtain ⟨rfl, rfl⟩ := Prod.mk.inj (pure_eq_ok.mp found)
    exact .last (valuesDerived read) here
  · rename_i here
    obtain ⟨⟨items, last⟩, later, found⟩ := bind_eq_ok.mp found
    obtain ⟨rfl, rfl⟩ := Prod.mk.inj (pure_eq_ok.mp found)
    exact .next (valuesDerived read) here (itemsDerived later)
  · cases found

theorem fieldsDerived_succ (valuesDerived : ValuesDerived fuel)
    (fieldsDerived : FieldsDerived fuel) : FieldsDerived (fuel + 1) := by
  intro room text rest fields found
  rw [members.eq_def] at found
  dsimp only at found
  split at found
  · obtain ⟨⟨name, afterName⟩, named, found⟩ := bind_eq_ok.mp found
    dsimp only at found
    split at found
    · rename_i colon
      obtain ⟨⟨item, after⟩, read, found⟩ := bind_eq_ok.mp found
      dsimp only at found
      split at found
      · rename_i here
        obtain ⟨rfl, rfl⟩ := Prod.mk.inj (pure_eq_ok.mp found)
        exact .last named colon (valuesDerived read) here
      · rename_i here
        obtain ⟨⟨fields, last⟩, later, found⟩ := bind_eq_ok.mp found
        obtain ⟨rfl, rfl⟩ := Prod.mk.inj (pure_eq_ok.mp found)
        exact .next named colon (valuesDerived read) here (fieldsDerived later)
      · cases found
    · cases found
  · cases found

theorem all_derived (fuel : Nat) :
    ValuesDerived fuel ∧ ItemsDerived fuel ∧ FieldsDerived fuel := by
  induction fuel with
  | zero => exact ⟨(nomatch ·), (nomatch ·), (nomatch ·)⟩
  | succ fuel ih =>
      obtain ⟨valuesDerived, itemsDerived, fieldsDerived⟩ := ih
      exact ⟨valuesDerived_succ itemsDerived fieldsDerived,
        itemsDerived_succ valuesDerived itemsDerived,
        fieldsDerived_succ valuesDerived fieldsDerived⟩

end Fuel

/-- Whatever is read has a derivation, and its text begins with it. -/
theorem beginsWith_of_value {fuel room : Nat} {text rest : List Char} {v : Value}
    (found : value fuel room text = .ok (v, rest)) : BeginsWith room text v rest :=
  (all_derived fuel).1 found

theorem withExponent_kind {negative : Bool} {whole fraction text rest : List Char} {v : Value}
    (found : withExponent negative whole fraction text = .ok (v, rest)) : ∃ n, v = .number n := by
  unfold withExponent at found
  split at found
  · exact ⟨_, (Prod.mk.inj (Except.ok.inj found)).1.symm⟩
  · split_ifs at found <;> exact ⟨_, (Prod.mk.inj (Except.ok.inj found)).1.symm⟩

theorem number_kind {text rest : List Char} {v : Value} (found : number text = .ok (v, rest)) :
    ∃ n, v = .number n := by
  rw [number_eq] at found
  split_ifs at found
  exact withExponent_kind found

end SourceSimilarity.Json
