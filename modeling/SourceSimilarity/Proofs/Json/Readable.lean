import SourceSimilarity.Proofs.Json.Derivation
import Mathlib.Data.List.TakeWhile
import Mathlib.Data.Nat.Digits.Defs

/-!
The values that are read from text: their whole numbers have no more digits than are taken, and no
more containers lie within one another than are opened.
-/

namespace SourceSimilarity.Json

/-- Values that text may hold, with at most so many containers within one another. -/
inductive Value.Readable : Nat → Value → Prop
  | null {room : Nat} : Readable room .null
  | bool {room : Nat} (b : Bool) : Readable room (.bool b)
  | whole {room : Nat} {n : Int} (short : IsShort n) : Readable room (.whole n)
  | float {room : Nat} (x : Float) : Readable room (.number (.float x))
  | string {room : Nat} (s : String) : Readable room (.string s)
  | array {room : Nat} {items : List Value} (all : ∀ item ∈ items, Readable room item) :
      Readable (room + 1) (.array items)
  | object {room : Nat} {fields : List (String × Value)}
      (all : ∀ field ∈ fields, Readable room field.2) : Readable (room + 1) (.object fields)

theorem digitsValue_lt {digits : List Char} (all : ∀ c ∈ digits, c.isDigit = true) :
    digitsValue digits < 10 ^ digits.length := by
  have start : ∀ {digits : List Char}, (∀ c ∈ digits, c.isDigit = true) → ∀ before : Nat,
      digits.foldl (fun n c => 10 * n + (c.toNat - 48)) before <
        (before + 1) * 10 ^ digits.length := by
    intro digits all
    induction digits with
    | nil => simp
    | cons c digits ih =>
        intro before
        obtain ⟨digit, others⟩ := List.forall_mem_cons.mp all
        have small : c.toNat - 48 ≤ 9 := by
          simp only [Char.isDigit, Bool.and_eq_true, decide_eq_true_eq,
            UInt32.le_iff_toNat_le] at digit
          have upper : c.toNat ≤ 57 := digit.2
          omega
        calc (c :: digits).foldl (fun n c => 10 * n + (c.toNat - 48)) before
            < (10 * before + (c.toNat - 48) + 1) * 10 ^ digits.length := ih others _
          _ ≤ ((before + 1) * 10) * 10 ^ digits.length := Nat.mul_le_mul_right _ (by omega)
          _ = (before + 1) * 10 ^ (c :: digits).length := by
            rw [List.length_cons, Nat.pow_succ', Nat.mul_assoc]
  rw [← Nat.one_mul (10 ^ digits.length)]
  exact start all 0

theorem isShort_of_digits {digits : List Char} (all : ∀ c ∈ digits, c.isDigit = true)
    (few : digits.length ≤ Text.digitLimit) : IsShort (digitsValue digits) :=
  Nat.toDigits_length 10 _ _ (by decide)
    ((digitsValue_lt all).trans_le (Nat.pow_le_pow_right (by decide) few))

theorem IsShort.neg {n : Int} (short : IsShort n) : IsShort (-n) := by
  rwa [IsShort, Int.natAbs_neg]

theorem isDigit_of_mem_takeWhole {text : List Char} {c : Char}
    (member : c ∈ (takeWhole text).1) : c.isDigit = true := by
  unfold takeWhole at member
  split at member
  · rw [List.mem_singleton.mp member]
    rfl
  · exact List.mem_takeWhile_imp member

theorem readable_of_number {room : Nat} {text rest : List Char} {v : Value}
    (found : number text = .ok (v, rest)) : v.Readable room := by
  rw [number_eq] at found
  split_ifs at found
  unfold withExponent at found
  split at found
  · rw [← (Prod.mk.inj (Except.ok.inj found)).1]
    exact .float _
  · split at found
    · split at found
      · cases found
      · rename_i few
        have short := isShort_of_digits (fun _ => isDigit_of_mem_takeWhole) (Nat.not_lt.mp few)
        rw [← (Prod.mk.inj (Except.ok.inj found)).1]
        split
        · exact .whole short.neg
        · exact .whole short
    · rw [← (Prod.mk.inj (Except.ok.inj found)).1]
      exact .float _

theorem readable_setField {room : Nat} {name : String} {v : Value}
    {fields : List (String × Value)} (own : v.Readable room)
    (others : ∀ field ∈ fields, field.2.Readable room) :
    ∀ field ∈ setField name v fields, field.2.Readable room := by
  induction fields with
  | nil => simpa [setField] using own
  | cons field fields ih =>
      obtain ⟨first, later⟩ := List.forall_mem_cons.mp others
      rw [setField]
      split
      · exact List.forall_mem_cons.mpr ⟨own, later⟩
      · exact List.forall_mem_cons.mpr ⟨first, ih later⟩

theorem readable_fieldsOf {room : Nat} {written : List (String × Value)}
    (all : ∀ field ∈ written, field.2.Readable room) :
    ∀ field ∈ fieldsOf written, field.2.Readable room := by
  rw [fieldsOf]
  refine List.foldlRecOn (motive := fun fields : List (String × Value) =>
    ∀ field ∈ fields, field.2.Readable room) written _
    (fun _ member => absurd member List.not_mem_nil) fun _ before field member => ?_
  exact readable_setField (all field member) before

theorem readable_of_constant {room : Nat} {word : List Char} {v : Value}
    (known : (word, v) ∈ constants) : v.Readable room := by
  simp only [constants, List.mem_cons, Prod.mk.injEq, List.not_mem_nil, or_false] at known
  rcases known with ⟨-, rfl⟩ | ⟨-, rfl⟩ | ⟨-, rfl⟩ | ⟨-, rfl⟩ | ⟨-, rfl⟩ | ⟨-, rfl⟩
  · exact .null
  · exact .bool true
  · exact .bool false
  · exact .float _
  · exact .float _
  · exact .float _

mutual

theorem BeginsWith.readable {room : Nat} {text rest : List Char} {v : Value} :
    BeginsWith room text v rest → v.Readable room
  | .string _ => .string _
  | .constant known => readable_of_constant known
  | .number found => readable_of_number found
  | .emptyArray _ => .array fun _ member => absurd member List.not_mem_nil
  | .array items => .array items.readable
  | .emptyObject _ => .object fun _ member => absurd member List.not_mem_nil
  | .object fields => .object (readable_fieldsOf fields.readable)

theorem BeginsWithItems.readable {room : Nat} {text rest : List Char} {items : List Value} :
    BeginsWithItems room text items rest → ∀ item ∈ items, item.Readable room
  | .last item _ => List.forall_mem_singleton.mpr item.readable
  | .next item _ items => List.forall_mem_cons.mpr ⟨item.readable, items.readable⟩

theorem BeginsWithFields.readable {room : Nat} {text rest : List Char}
    {fields : List (String × Value)} :
    BeginsWithFields room text fields rest → ∀ field ∈ fields, field.2.Readable room
  | .last _ _ item _ => List.forall_mem_singleton.mpr item.readable
  | .next _ _ item _ fields => List.forall_mem_cons.mpr ⟨item.readable, fields.readable⟩

end

theorem readable_of_read {text : String} {limits : Limits} {v : Value}
    (found : read text limits = .ok v) : v.Readable limits.containers := by
  unfold read at found
  dsimp only at found
  split at found
  · rename_i whole
    rw [Except.ok.inj found] at whole
    unfold document at whole
    split_ifs at whole
    split at whole
    · cases whole
    · rename_i read
      split_ifs at whole
      rw [Except.ok.inj whole] at read
      exact (beginsWith_of_value read).readable
  · cases found
  · cases found
  · cases found

end SourceSimilarity.Json
