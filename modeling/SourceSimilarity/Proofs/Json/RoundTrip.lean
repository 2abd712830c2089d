import SourceSimilarity.Proofs.Json.Extent
import SourceSimilarity.Proofs.Json.Number
import SourceSimilarity.Proofs.Json.Strings

/-!
What is written on one line is read as the value it was written for, except that a floating-point
number is the one that its own text is read as, and that halves of a pair side by side are read as
its character. This holds of all values that have a text the reader takes: whole numbers of not too
many digits, objects with distinct names, and not too many containers within one another.
-/

namespace SourceSimilarity.Json

open Decimal (Number)

/-- The number that the text of a floating-point number is read as. -/
def rereadFloat (x : Float) : Float :=
  match value 1 0 (Decimal.floatText numberSpelling x).toList with
  | .ok (.number (.float y), _) => y
  | _ => x

mutual

def Value.reread : Value → Value
  | .number (.float x) => .number (.float (rereadFloat x))
  | .string s => .string (rejoined s)
  | .array items => .array (rereadItems items)
  | .object fields => .object (rereadFields fields)
  | v => v

def rereadItems : List Value → List Value
  | [] => []
  | item :: items => item.reread :: rereadItems items

def rereadFields : List (String × Value) → List (String × Value)
  | [] => []
  | (name, item) :: fields => (name, item.reread) :: rereadFields fields

end

/-- Values that have a text the reader takes, with at most so many containers within one another. -/
inductive Value.Fits : Nat → Value → Prop
  | null {room : Nat} : Fits room .null
  | bool {room : Nat} (b : Bool) : Fits room (.bool b)
  | whole {room : Nat} {n : Int} (short : IsShort n) : Fits room (.whole n)
  | float {room : Nat} (x : Float) : Fits room (.number (.float x))
  | string {room : Nat} (s : String) : Fits room (.string s)
  | array {room : Nat} {items : List Value} (fit : ∀ item ∈ items, Fits room item) :
      Fits (room + 1) (.array items)
  | object {room : Nat} {fields : List (String × Value)} (distinct : (fields.map (·.1)).Nodup)
      (names : ∀ field ∈ fields, rejoined field.1 = field.1)
      (fit : ∀ field ∈ fields, Fits room field.2) : Fits (room + 1) (.object fields)

theorem Value.Fits.object_of_names {room : Nat} {fields : List (String × Value)}
    (names : List String) (same : fields.map (·.1) = names) (distinct : names.Nodup)
    (whole : ∀ name ∈ names, (Text.whole? (Text.points name.toList)).isSome)
    (fit : ∀ field ∈ fields, Fits room field.2) : Fits (room + 1) (.object fields) := by
  subst same
  refine .object distinct (fun field member => ?_) fit
  exact rejoined_of_whole (whole field.1 (List.mem_map_of_mem member))

theorem value_numeric {c : Char} (digit : c.isDigit = true) (negative : Bool) (fuel room : Nat)
    (text : List Char) :
    value (fuel + 1) room ((if negative then ['-'] else []) ++ c :: text) =
      number ((if negative then ['-'] else []) ++ c :: text) := by
  have differs : ∀ {d : Char}, d.isDigit = false → c ≠ d := by
    rintro d notDigit rfl
    rw [digit] at notDigit
    cases notDigit
  cases negative with
  | true =>
      rw [if_pos rfl, List.cons_append, List.nil_append, value]
      all_goals
        intro rest same
        first
        | exact absurd (List.cons.inj same).1 (by decide)
        | exact differs rfl (List.cons.inj (List.cons.inj same).2).1
  | false =>
      rw [if_neg (by decide), List.nil_append, value]
      all_goals exact fun rest same => differs rfl (List.cons.inj same).1

theorem IsDecimal.exists_digit {text : List Char} (decimal : IsDecimal text) :
    ∃ c rest, c.isDigit = true ∧ text = c :: rest := by
  have front : ∀ {whole after : List Char}, IsWhole whole →
      ∃ c rest, c.isDigit = true ∧ whole ++ after = c :: rest := by
    intro whole after isWhole
    cases whole with
    | nil => exact absurd rfl isWhole.areDigits.notEmpty
    | cons c whole => exact ⟨c, _, isWhole.areDigits.digits c List.mem_cons_self, rfl⟩
  cases decimal with
  | point isWhole => exact front isWhole
  | exponent isWhole => exact front isWhole
  | both isWhole => exact front isWhole

theorem floatText_cases (x : Float) :
    (Decimal.floatText numberSpelling x).toList = "NaN".toList ∨
    (Decimal.floatText numberSpelling x).toList = "Infinity".toList ∨
    (Decimal.floatText numberSpelling x).toList = "-Infinity".toList ∨
    ∃ (negative : Bool) (text : List Char), IsDecimal text ∧
      (Decimal.floatText numberSpelling x).toList = (if negative then ['-'] else []) ++ text := by
  unfold Decimal.floatText
  split
  · split_ifs
    · exact .inl rfl
    · exact .inr (.inr (.inl rfl))
    · exact .inr (.inl rfl)
  · rename_i b finite
    refine .inr (.inr (.inr ⟨b.negative, ?_⟩))
    have decimal : IsDecimal (if b.significand = 0 then "0.0"
        else Decimal.Layout.plain.write (Decimal.shortest b)).toList := by
      split_ifs with zero
      · exact show IsDecimal (['0'] ++ '.' :: ['0']) from .point (.inl rfl) areDigits_zero
      · exact isDecimal_write _ (shortest_proper zero)
    refine ⟨_, decimal, ?_⟩
    cases b.negative with
    | true => exact String.toList_append
    | false => rfl

theorem float_reads (x : Float) :
    ∃ y, ∀ fuel room rest, Ends rest →
      value (fuel + 1) room ((Decimal.floatText numberSpelling x).toList ++ rest) =
        .ok (.number (.float y), rest) := by
  rcases floatText_cases x with written | written | written | ⟨negative, text, decimal, written⟩
  · exact ⟨0.0 / 0.0, fun fuel room rest _ => by rw [written]; rfl⟩
  · exact ⟨1.0 / 0.0, fun fuel room rest _ => by rw [written]; rfl⟩
  · exact ⟨-1.0 / 0.0, fun fuel room rest _ => by rw [written]; rfl⟩
  · obtain ⟨c, more, digit, rfl⟩ := decimal.exists_digit
    obtain ⟨y, read⟩ := number_of_decimal decimal negative
    refine ⟨y, fun fuel room rest ends => ?_⟩
    rw [written, List.append_assoc, List.cons_append, value_numeric digit, ← List.cons_append]
    exact read rest ends

theorem float_readsBack (x : Float) (fuel room : Nat) {rest : List Char} (ends : Ends rest) :
    value (fuel + 1) room ((Decimal.floatText numberSpelling x).toList ++ rest) =
      .ok (.number (.float (rereadFloat x)), rest) := by
  obtain ⟨y, reads⟩ := float_reads x
  have alone := reads 0 0 [] ends_nil
  rw [List.append_nil] at alone
  rw [reads fuel room rest ends, rereadFloat, alone]

theorem whole_readsBack {n : Int} (short : IsShort n) (fuel room : Nat) {rest : List Char}
    (ends : Ends rest) :
    value (fuel + 1) room ((toString n).toList ++ rest) = .ok (.whole n, rest) := by
  have read := number_whole short ends
  rw [toString_toList] at read ⊢
  have digits := areDigits_toDigits n.natAbs
  cases written : Nat.toDigits 10 n.natAbs with
  | nil => exact absurd written digits.notEmpty
  | cons c more =>
      have digit := digits.digits c (written ▸ List.mem_cons_self)
      have numeric := value_numeric digit (decide (n < 0)) fuel room (more ++ rest)
      simp only [decide_eq_true_eq] at numeric
      rw [written, List.append_assoc, List.cons_append] at read
      rw [List.append_assoc, List.cons_append, numeric, read]

def Starts (text : List Char) : Prop :=
  ∃ c more, text = c :: more ∧ c ∉ [' ', '\t', '\n', '\r', ']', '}']

theorem Starts.append {text : List Char} (starts : Starts text) (rest : List Char) :
    Starts (text ++ rest) := by
  obtain ⟨c, more, rfl, front⟩ := starts
  exact ⟨c, more ++ rest, rfl, front⟩

theorem starts_of_isDigit {c : Char} (digit : c.isDigit = true) (more : List Char) :
    Starts (c :: more) := by
  refine ⟨c, more, rfl, fun mark => ?_⟩
  simp only [List.mem_cons, List.not_mem_nil, or_false] at mark
  rcases mark with rfl | rfl | rfl | rfl | rfl | rfl <;> cases digit

theorem starts_numeric {c : Char} (digit : c.isDigit = true) (negative : Bool)
    (more : List Char) : Starts ((if negative then ['-'] else []) ++ c :: more) := by
  cases negative with
  | true => exact ⟨'-', _, rfl, by decide⟩
  | false => exact starts_of_isDigit digit more

theorem starts_number (n : Number) : Starts (n.text numberSpelling).toList := by
  cases n with
  | whole n =>
      have digits := areDigits_toDigits n.natAbs
      rw [Number.text, toString_toList]
      cases written : Nat.toDigits 10 n.natAbs with
      | nil => exact absurd written digits.notEmpty
      | cons c more =>
          have starts := starts_numeric (digits.digits c (written ▸ List.mem_cons_self))
            (decide (n < 0)) more
          simpa only [decide_eq_true_eq] using starts
  | float x =>
      rw [Number.text]
      rcases floatText_cases x with written | written | written | ⟨negative, text, decimal, written⟩
      · exact written ▸ ⟨'N', _, rfl, by decide⟩
      · exact written ▸ ⟨'I', _, rfl, by decide⟩
      · exact written ▸ ⟨'-', _, rfl, by decide⟩
      · obtain ⟨c, more, digit, rfl⟩ := decimal.exists_digit
        exact written ▸ starts_numeric digit negative more

theorem starts_write (style : Style) (v : Value) : Starts (v.write style) := by
  cases v with
  | null => exact ⟨'n', _, rfl, by decide⟩
  | bool b =>
      cases b with
      | true => exact ⟨'t', _, rfl, by decide⟩
      | false => exact ⟨'f', _, rfl, by decide⟩
  | number n => exact starts_number n
  | string s => exact ⟨'"', _, rfl, by decide⟩
  | array items => exact ⟨'[', _, rfl, by decide⟩
  | object fields => exact ⟨'{', _, rfl, by decide⟩

theorem Starts.skip {text : List Char} (starts : Starts text) : skip text = text := by
  obtain ⟨c, more, rfl, front⟩ := starts
  simp only [List.mem_cons, List.not_mem_nil, or_false, not_or] at front
  simp [Json.skip, front]

theorem value_array_of_starts {text : List Char} (starts : Starts text) (fuel room : Nat) :
    value (fuel + 1) (room + 1) ('[' :: text) = (do
      let (items, rest) ← elements fuel room text
      pure (.array items, rest)) := by
  rw [value_array, starts.skip]
  obtain ⟨c, more, rfl, front⟩ := starts
  split
  · contradiction
  · rename_i same _
    rw [(List.cons.inj same).1] at front
    exact absurd front (by decide)
  · rename_i same _
    rw [Nat.succ.inj same]

theorem value_object_of_starts {text : List Char} (starts : Starts text) (fuel room : Nat) :
    value (fuel + 1) (room + 1) ('{' :: text) = (do
      let (fields, rest) ← members fuel room text
      pure (.object (fieldsOf fields), rest)) := by
  rw [value_object, starts.skip]
  obtain ⟨c, more, rfl, front⟩ := starts
  split
  · contradiction
  · rename_i same _
    rw [(List.cons.inj same).1] at front
    exact absurd front (by decide)
  · rename_i same _
    rw [Nat.succ.inj same]

/-- Reading the text of a value gives it back, whatever separator follows. -/
def ReadsBack (room : Nat) (v : Value) : Prop :=
  ∀ fuel rest, (v.write .spaced).length ≤ fuel → Ends rest →
    value fuel room (v.write .spaced ++ rest) = .ok (v.reread, rest)

theorem skip_of_ends {c : Char} (ends : c = ',' ∨ c = ']' ∨ c = '}') (text : List Char) :
    skip (c :: text) = c :: text := by
  rcases ends with rfl | rfl | rfl <;> rfl

theorem skip_blank (text : List Char) : skip (' ' :: text) = skip text := rfl

theorem writeItems_cons (item next : Value) (items : List Value) :
    writeItems .spaced (item :: next :: items) =
      item.write .spaced ++ ',' :: ' ' :: writeItems .spaced (next :: items) := by
  rw [writeItems, List.append_assoc]
  · rfl
  · exact List.cons_ne_nil next items

theorem starts_writeItems (item : Value) (items : List Value) :
    Starts (writeItems .spaced (item :: items)) := by
  cases items with
  | nil => exact starts_write .spaced item
  | cons next items =>
      rw [writeItems_cons]
      exact (starts_write .spaced item).append _

theorem elements_written {room : Nat} {item : Value} {items : List Value}
    (each : ∀ v ∈ item :: items, ReadsBack room v) {fuel : Nat}
    (enough : (writeItems .spaced (item :: items)).length < fuel) (rest : List Char) :
    elements fuel room (writeItems .spaced (item :: items) ++ ']' :: rest) =
      .ok (rereadItems (item :: items), rest) := by
  induction items generalizing item fuel with
  | nil =>
      cases fuel with
      | zero => exact absurd enough (Nat.not_lt_zero _)
      | succ fuel =>
          have first := each item List.mem_cons_self fuel (']' :: rest)
            (Nat.le_of_lt_succ enough) (ends_cons (.inr (.inl rfl)) rest)
          rw [elements, writeItems, first]
          rfl
  | cons next items ih =>
      cases fuel with
      | zero => exact absurd enough (Nat.not_lt_zero _)
      | succ fuel =>
          rw [writeItems_cons, List.length_append, List.length_cons, List.length_cons] at enough
          have first := each item List.mem_cons_self fuel
            (',' :: ' ' :: (writeItems .spaced (next :: items) ++ ']' :: rest))
            (by omega) (ends_cons (.inl rfl) _)
          have later : elements fuel room (writeItems .spaced (next :: items) ++ ']' :: rest) =
              .ok (rereadItems (next :: items), rest) :=
            ih (fun v member => each v (List.mem_cons_of_mem item member)) (by omega)
          have starts := (starts_writeItems next items).append (']' :: rest)
          rw [elements, writeItems_cons, List.append_assoc, List.cons_append, List.cons_append,
            first]
          simp only [bind, Except.bind, skip_of_ends (.inl rfl), skip_blank, starts.skip, later]
          rfl

theorem writeString_append (s : String) (rest : List Char) :
    writeString s ++ rest = '"' :: ((Text.points s.toList).flatMap escapePoint ++ '"' :: rest) := by
  simp [writeString]

theorem writeFields_cons (field next : String × Value) (fields : List (String × Value)) :
    writeFields .spaced (field :: next :: fields) =
      writeString field.1 ++ ':' :: ' ' :: (field.2.write .spaced ++
        ',' :: ' ' :: writeFields .spaced (next :: fields)) := by
  rw [writeFields, List.append_assoc, List.append_assoc, List.append_assoc]
  · rfl
  · exact List.cons_ne_nil next fields

theorem writeFields_singleton (field : String × Value) :
    writeFields .spaced [field] =
      writeString field.1 ++ ':' :: ' ' :: field.2.write .spaced := by
  rw [writeFields, List.append_assoc]
  rfl

theorem starts_writeFields (field : String × Value) (fields : List (String × Value)) :
    Starts (writeFields .spaced (field :: fields)) := by
  cases fields with
  | nil =>
      rw [writeFields_singleton, writeString_append]
      exact ⟨'"', _, rfl, by decide⟩
  | cons next fields =>
      rw [writeFields_cons, writeString_append]
      exact ⟨'"', _, rfl, by decide⟩

section Field

variable {room fuel : Nat} {field : String × Value}

theorem members_last (name : rejoined field.1 = field.1) (readsBack : ReadsBack room field.2)
    (enough : (field.2.write .spaced).length ≤ fuel) (rest : List Char) :
    members (fuel + 1) room
        (writeString field.1 ++ ':' :: ' ' :: (field.2.write .spaced ++ '}' :: rest)) =
      .ok ([(field.1, field.2.reread)], rest) := by
  have colon : skip (':' :: ' ' :: (field.2.write .spaced ++ '}' :: rest)) =
      ':' :: ' ' :: (field.2.write .spaced ++ '}' :: rest) := rfl
  have starts := (starts_write .spaced field.2).append ('}' :: rest)
  have read := readsBack fuel _ enough (ends_cons (.inr (.inr rfl)) rest)
  have same : Text.ofPoints (joined (Text.points field.1.toList)) = field.1 := name
  rw [writeString_append, members, stringBody_escaped]
  simp only [bind, Except.bind, List.reverse_nil, List.nil_append, same, colon, skip_blank,
    starts.skip, read, skip_of_ends (.inr (.inr rfl)), pure, Except.pure]

theorem members_next (name : rejoined field.1 = field.1) (readsBack : ReadsBack room field.2)
    (enough : (field.2.write .spaced).length ≤ fuel) (more : List Char) :
    members (fuel + 1) room
        (writeString field.1 ++ ':' :: ' ' :: (field.2.write .spaced ++ ',' :: more)) =
      (members fuel room (skip more)).map fun (fields, rest) =>
        ((field.1, field.2.reread) :: fields, rest) := by
  have colon : skip (':' :: ' ' :: (field.2.write .spaced ++ ',' :: more)) =
      ':' :: ' ' :: (field.2.write .spaced ++ ',' :: more) := rfl
  have starts := (starts_write .spaced field.2).append (',' :: more)
  have read := readsBack fuel _ enough (ends_cons (.inl rfl) more)
  have same : Text.ofPoints (joined (Text.points field.1.toList)) = field.1 := name
  rw [writeString_append, members, stringBody_escaped]
  simp only [bind, Except.bind, List.reverse_nil, List.nil_append, same, colon, skip_blank,
    starts.skip, read, skip_of_ends (.inl rfl), pure, Except.pure]
  cases members fuel room (skip more) <;> rfl

end Field

theorem members_written {room : Nat} {field : String × Value} {fields : List (String × Value)}
    (names : ∀ f ∈ field :: fields, rejoined f.1 = f.1)
    (each : ∀ f ∈ field :: fields, ReadsBack room f.2) {fuel : Nat}
    (enough : (writeFields .spaced (field :: fields)).length < fuel) (rest : List Char) :
    members fuel room (writeFields .spaced (field :: fields) ++ '}' :: rest) =
      .ok (rereadFields (field :: fields), rest) := by
  induction fields generalizing field fuel with
  | nil =>
      cases fuel with
      | zero => exact absurd enough (Nat.not_lt_zero _)
      | succ fuel =>
          rw [writeFields_singleton, List.length_append, List.length_cons, List.length_cons]
            at enough
          rw [writeFields_singleton, List.append_assoc, List.cons_append, List.cons_append]
          exact members_last (names field List.mem_cons_self) (each field List.mem_cons_self)
            (by omega) rest
  | cons next fields ih =>
      cases fuel with
      | zero => exact absurd enough (Nat.not_lt_zero _)
      | succ fuel =>
          rw [writeFields_cons, List.length_append, List.length_cons, List.length_cons,
            List.length_append, List.length_cons, List.length_cons] at enough
          have first := members_next (names field List.mem_cons_self)
            (each field List.mem_cons_self) (by omega : _ ≤ fuel)
            (' ' :: (writeFields .spaced (next :: fields) ++ '}' :: rest))
          have later : members fuel room (writeFields .spaced (next :: fields) ++ '}' :: rest) =
              .ok (rereadFields (next :: fields), rest) :=
            ih (fun f member => names f (List.mem_cons_of_mem field member))
              (fun f member => each f (List.mem_cons_of_mem field member)) (by omega)
          have starts := (starts_writeFields next fields).append ('}' :: rest)
          rw [writeFields_cons, List.append_assoc, List.cons_append, List.cons_append,
            List.append_assoc, List.cons_append, List.cons_append, first, skip_blank, starts.skip,
            later]
          rfl

theorem rereadItems_eq (items : List Value) : rereadItems items = items.map Value.reread := by
  induction items with
  | nil => rfl
  | cons item items ih => rw [rereadItems, ih, List.map_cons]

theorem rereadFields_eq (fields : List (String × Value)) :
    rereadFields fields = fields.map fun field => (field.1, field.2.reread) := by
  induction fields with
  | nil => rfl
  | cons field fields ih => rw [rereadFields, ih, List.map_cons]

theorem setField_of_notMem {name : String} {fields : List (String × Value)}
    (fresh : name ∉ fields.map (·.1)) (v : Value) : setField name v fields = fields ++ [(name, v)] := by
  induction fields with
  | nil => rfl
  | cons field fields ih =>
      rw [List.map_cons, List.mem_cons, not_or] at fresh
      rw [setField, if_neg (Ne.symm fresh.1), ih fresh.2]
      rfl

theorem fieldsOf_of_nodup {fields : List (String × Value)}
    (distinct : (fields.map (·.1)).Nodup) : fieldsOf fields = fields := by
  have added : ∀ later before : List (String × Value), ((before ++ later).map (·.1)).Nodup →
      later.foldl (fun fields field => setField field.1 field.2 fields) before =
        before ++ later := by
    intro later
    induction later with
    | nil => exact fun before _ => (List.append_nil before).symm
    | cons field later ih =>
        intro before distinct
        have fresh : field.1 ∉ before.map (·.1) := by
          intro member
          rw [List.map_append, List.nodup_append] at distinct
          exact distinct.2.2 _ member _ List.mem_cons_self rfl
        rw [List.foldl_cons, setField_of_notMem fresh, ih, List.append_assoc]
        · rfl
        · rwa [List.append_assoc]
  exact added fields [] distinct

theorem length_write_pos (style : Style) (v : Value) : 0 < (v.write style).length := by
  obtain ⟨c, more, written, -⟩ := starts_write style v
  rw [written]
  exact Nat.succ_pos _

theorem array_readsBack {room : Nat} {items : List Value}
    (each : ∀ item ∈ items, ReadsBack room item) : ReadsBack (room + 1) (.array items) := by
  intro fuel rest enough ends
  have positive := (length_write_pos .spaced (.array items)).trans_le enough
  obtain ⟨fuel, rfl⟩ := Nat.exists_eq_succ_of_ne_zero positive.ne'
  cases items with
  | nil => rfl
  | cons item items =>
      have written : (Value.array (item :: items)).write .spaced ++ rest =
          '[' :: (writeItems .spaced (item :: items) ++ ']' :: rest) := by
        simp [Value.write]
      have starts := (starts_writeItems item items).append (']' :: rest)
      rw [Value.write, List.length_append, List.length_cons, List.length_singleton] at enough
      rw [written, value_array_of_starts starts, elements_written each (by omega)]
      rfl

theorem object_readsBack {room : Nat} {fields : List (String × Value)}
    (distinct : (fields.map (·.1)).Nodup) (names : ∀ field ∈ fields, rejoined field.1 = field.1)
    (each : ∀ field ∈ fields, ReadsBack room field.2) : ReadsBack (room + 1) (.object fields) := by
  intro fuel rest enough ends
  have positive := (length_write_pos .spaced (.object fields)).trans_le enough
  obtain ⟨fuel, rfl⟩ := Nat.exists_eq_succ_of_ne_zero positive.ne'
  cases fields with
  | nil => rfl
  | cons field fields =>
      have written : (Value.object (field :: fields)).write .spaced ++ rest =
          '{' :: (writeFields .spaced (field :: fields) ++ '}' :: rest) := by
        simp [Value.write]
      have starts := (starts_writeFields field fields).append ('}' :: rest)
      have distinct' : ((rereadFields (field :: fields)).map (·.1)).Nodup := by
        rw [rereadFields_eq, List.map_map]
        exact distinct
      rw [Value.write, List.length_append, List.length_cons, List.length_singleton] at enough
      rw [written, value_object_of_starts starts, members_written names each (by omega)]
      simp only [bind, Except.bind, fieldsOf_of_nodup distinct']
      rfl

theorem atom_readsBack {room : Nat} {v : Value}
    (reads : ∀ fuel rest, Ends rest →
      value (fuel + 1) room (v.write .spaced ++ rest) = .ok (v.reread, rest)) :
    ReadsBack room v := by
  intro fuel rest enough ends
  have positive := (length_write_pos .spaced v).trans_le enough
  obtain ⟨fuel, rfl⟩ := Nat.exists_eq_succ_of_ne_zero positive.ne'
  exact reads fuel rest ends

theorem Value.Fits.readsBack {room : Nat} {v : Value} (fits : v.Fits room) : ReadsBack room v := by
  induction fits with
  | null => exact atom_readsBack fun _ _ _ => rfl
  | bool b => cases b <;> exact atom_readsBack fun _ _ _ => rfl
  | whole short => exact atom_readsBack fun fuel _ ends => whole_readsBack short fuel _ ends
  | float x => exact atom_readsBack fun fuel _ ends => float_readsBack x fuel _ ends
  | string s =>
      refine atom_readsBack fun fuel rest ends => ?_
      have written : (Value.string s).write .spaced ++ rest =
          '"' :: ((Text.points s.toList).flatMap escapePoint ++ '"' :: rest) :=
        writeString_append s rest
      rw [written, value_string, stringBody_escaped]
      rfl
  | array _ ih => exact array_readsBack ih
  | object distinct names _ ih => exact object_readsBack distinct names ih

end SourceSimilarity.Json
