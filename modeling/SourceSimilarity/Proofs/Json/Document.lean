import SourceSimilarity.Proofs.Json.RoundTrip
import SourceSimilarity.Proofs.Text.Utf8

namespace SourceSimilarity.Json

open Decimal (Number)
open Text (Plain plain_nil plain_of_all)

theorem AreDigits.plain {text : List Char} (digits : AreDigits text) : Plain text := by
  intro c member
  have digit := digits.digits c member
  simp only [Char.isDigit, Bool.and_eq_true, decide_eq_true_eq, UInt32.le_iff_toNat_le] at digit
  exact digit.2.trans_lt (by decide)

theorem IsDecimal.plain {text : List Char} (decimal : IsDecimal text) : Plain text := by
  have sign : ∀ negative : Bool, (if negative then '-' else '+').toNat < 0x80 := by decide
  cases decimal with
  | point isWhole digits =>
      exact isWhole.areDigits.plain.append (digits.plain.cons (by decide))
  | exponent isWhole negative digits =>
      exact isWhole.areDigits.plain.append
        ((digits.plain.cons (sign negative)).cons (by decide))
  | both isWhole places negative digits =>
      exact isWhole.areDigits.plain.append (.cons (by decide) (places.plain.append
        ((digits.plain.cons (sign negative)).cons (by decide))))

theorem plain_sign (negative : Bool) : Plain (if negative then ['-'] else []) := by
  cases negative <;> simp [Plain]

theorem plain_number (n : Number) : Plain (n.text numberSpelling).toList := by
  cases n with
  | whole n =>
      rw [Number.text, toString_toList]
      have sign := plain_sign (decide (n < 0))
      simp only [decide_eq_true_eq] at sign
      exact sign.append (areDigits_toDigits n.natAbs).plain
  | float x =>
      rw [Number.text]
      rcases floatText_cases x with written | written | written | ⟨negative, text, decimal, written⟩
      · rw [written]
        exact plain_of_all (by decide)
      · rw [written]
        exact plain_of_all (by decide)
      · rw [written]
        exact plain_of_all (by decide)
      · rw [written]
        exact (plain_sign negative).append decimal.plain

theorem plain_unitEscape {n : Nat} (small : n < 0x10000) : Plain (unitEscape n) := by
  have digit : ∀ m < 16, (Nat.digitChar m).toNat < 0x80 := by decide
  have last := plain_nil.cons (digit (n % 16) (by omega))
  have third := last.cons (digit (n / 16 % 16) (by omega))
  have second := third.cons (digit (n / 256 % 16) (by omega))
  have first := second.cons (digit (n / 4096) (by omega))
  rw [unitEscape, hexPadded_four small]
  exact (first.cons (show 'u'.toNat < 0x80 by decide)).cons (by decide)

theorem plain_escapeChar (c : Char) : Plain (escapeChar c) := by
  have unit : ∀ n < 0x10000, Plain (unitEscape n) := fun _ => plain_unitEscape
  rcases escapeChar_cases c with ⟨e, -, simple, written⟩ | ⟨-, -, -, printable, written⟩ | written
  · have small : e.toNat < 0x80 := by
      unfold simpleEscape? at simple
      split at simple <;> first | decide | cases simple
    rw [written]
    exact (plain_nil.cons small).cons (by decide)
  · rw [written]
    exact plain_nil.cons ((UInt32.le_iff_toNat_le.mp printable).trans_lt (by decide))
  · rw [written]
    rcases units_cases c with ⟨small, -, -, units⟩ | ⟨high, low, first, second, -, units⟩
    · rw [units, List.flatMap_singleton]
      exact unit _ small
    · rw [units, List.flatMap_cons, List.flatMap_singleton]
      exact (unit high (first.2.trans (by decide))).append (unit low (second.2.trans (by decide)))

theorem plain_escapePoint (p : Text.Point) : Plain (escapePoint p) := by
  cases p with
  | char c => exact plain_escapeChar c
  | half h => exact plain_unitEscape h.small

theorem plain_writeString (s : String) : Plain (writeString s) := by
  have inner : Plain ((Text.points s.toList).flatMap escapePoint) := by
    intro c member
    obtain ⟨p, -, inEscape⟩ := List.mem_flatMap.mp member
    exact plain_escapePoint p c inEscape
  exact (inner.cons (c := '"') (by decide)).append (plain_nil.cons (by decide))

mutual

theorem Value.plain_write {style : Style} (comma : Plain style.comma) (colon : Plain style.colon) :
    ∀ v : Value, Plain (v.write style)
  | .null => show Plain "null".toList from plain_of_all (by decide)
  | .bool true => show Plain "true".toList from plain_of_all (by decide)
  | .bool false => show Plain "false".toList from plain_of_all (by decide)
  | .number n => plain_number n
  | .string s => plain_writeString s
  | .array items =>
    ((plain_writeItems comma colon items).cons (by decide)).append (plain_nil.cons (by decide))
  | .object fields =>
    ((plain_writeFields comma colon fields).cons (by decide)).append (plain_nil.cons (by decide))

theorem plain_writeItems {style : Style} (comma : Plain style.comma) (colon : Plain style.colon) :
    ∀ items : List Value, Plain (writeItems style items)
  | [] => plain_nil
  | [item] => item.plain_write comma colon
  | item :: next :: items =>
    ((item.plain_write comma colon).append comma).append
      (plain_writeItems comma colon (next :: items))

theorem plain_writeFields {style : Style} (comma : Plain style.comma) (colon : Plain style.colon) :
    ∀ fields : List (String × Value), Plain (writeFields style fields)
  | [] => plain_nil
  | [(name, item)] => ((plain_writeString name).append colon).append (item.plain_write comma colon)
  | (name, item) :: next :: fields =>
    ((((plain_writeString name).append colon).append (item.plain_write comma colon)).append
      comma).append (plain_writeFields comma colon (next :: fields))

end

theorem Value.plain_spaced (v : Value) : Plain (v.write .spaced) := by
  have comma : Plain Style.spaced.comma := plain_of_all (by decide)
  have colon : Plain Style.spaced.colon := plain_of_all (by decide)
  exact v.plain_write comma colon

variable {room : Nat}

theorem Value.Fits.document_of_skip {v : Value} (fits : v.Fits room) {text : List Char}
    (unmarked : text.head? ≠ some (Char.ofNat 0xFEFF)) (here : skip text = v.write .spaced) :
    Json.document room text = .ok v.reread := by
  have enough : (v.write .spaced).length ≤ text.length + 1 := by
    rw [← here]
    exact (List.dropWhile_suffix _).length_le.trans (Nat.le_succ _)
  have read := fits.readsBack (text.length + 1) [] enough ends_nil
  rw [List.append_nil] at read
  rw [Json.document, if_neg unmarked, here, read]
  rfl

theorem Value.Fits.document {v : Value} (fits : v.Fits room) :
    Json.document room (v.write .spaced) = .ok v.reread := by
  refine fits.document_of_skip (fun marked => ?_) (starts_write .spaced v).skip
  have small := v.plain_spaced _ (List.mem_of_mem_head? marked)
  exact absurd small (by decide)

theorem Value.Fits.eq_of_document {fields read : List (String × Value)}
    (fits : (Value.object fields).Fits room) {text : List Char}
    (found : Json.document room text = .ok (.object read))
    (together : text <:+ (Value.object fields).write .spaced ∨
      (Value.object fields).write .spaced <:+ text) :
    .object read = (Value.object fields).reread := by
  have unmarked : text.head? ≠ some (Char.ofNat 0xFEFF) := by
    intro marked
    rw [Json.document, if_pos marked] at found
    cases found
  have written : (Value.object fields).write .spaced =
      '{' :: (writeFields .spaced fields ++ ['}']) := rfl
  have closed : behind .between 0 (writeFields .spaced fields ++ ['}']) = some [] := by
    have whole := fits.readsBack _ [] (Nat.le_refl _) ends_nil
    rw [List.append_nil, written] at whole
    obtain ⟨inner, same, closed⟩ := closed_of_object whole
    rwa [(List.cons.inj same).2]
  rw [written] at together
  have same := fits.document_of_skip unmarked (skip_eq_of_document found closed together)
  rw [found] at same
  exact Except.ok.inj same

end SourceSimilarity.Json
