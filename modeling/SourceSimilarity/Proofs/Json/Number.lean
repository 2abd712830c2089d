import SourceSimilarity.Json.Reader
import SourceSimilarity.Json.Writer
import Mathlib.Data.List.Basic
import Mathlib.Tactic.IntervalCases
import Mathlib.Tactic.SplitIfs

namespace SourceSimilarity.Json

open Decimal (Number Digits Binary)

def takeSign : List Char → Bool × List Char
  | '-' :: rest => (true, rest)
  | text => (false, text)

def takeWhole : List Char → List Char × List Char
  | '0' :: rest => (['0'], rest)
  | text => takeDigits text

def withExponent (negative : Bool) (whole fraction text : List Char) :
    Except Fault (Value × List Char) :=
  match takeExponent text with
  | some (exponent, rest) =>
    .ok (.number (.float (Decimal.floatOfDecimal negative (digitsValue (whole ++ fraction))
      (exponent - fraction.length))), rest)
  | none =>
    if fraction.isEmpty then
      if whole.length > Text.digitLimit then .error .integerTooLong
      else
        .ok (.whole (if negative then -(digitsValue whole : Int) else digitsValue whole), text)
    else
      .ok (.number (.float (Decimal.floatOfDecimal negative (digitsValue (whole ++ fraction))
        (-(fraction.length : Int)))), text)

theorem number_eq (text : List Char) :
    number text =
      if (takeWhole (takeSign text).2).1.isEmpty then .error (.at .value text.length)
      else
        withExponent (takeSign text).1 (takeWhole (takeSign text).2).1
          (takeFraction (takeWhole (takeSign text).2).2).1
          (takeFraction (takeWhole (takeSign text).2).2).2 := rfl

structure AreDigits (text : List Char) : Prop where
  notEmpty : text ≠ []
  digits : ∀ c ∈ text, c.isDigit = true

/-- Whether text is the digits of a whole number: zero, or without a zero in front. -/
def IsWhole (text : List Char) : Prop :=
  text = ['0'] ∨ AreDigits text ∧ text.head? ≠ some '0'

/-- Whether what follows is no part of a number any more: nothing, or what separates values. -/
def Ends (text : List Char) : Prop := ∀ c ∈ text.head?, c = ',' ∨ c = ']' ∨ c = '}'

theorem ends_nil : Ends [] := by
  intro c member
  cases member

theorem ends_cons {c : Char} (ends : c = ',' ∨ c = ']' ∨ c = '}') (text : List Char) :
    Ends (c :: text) := by
  intro d member
  rw [List.head?_cons, Option.mem_some_iff] at member
  rwa [← member]

theorem areDigits_zero : AreDigits ['0'] := ⟨by decide, by simp⟩

theorem IsWhole.areDigits {text : List Char} (whole : IsWhole text) : AreDigits text := by
  rcases whole with rfl | ⟨digits, -⟩
  · exact areDigits_zero
  · exact digits

theorem areDigits_toDigits (n : Nat) : AreDigits (Nat.toDigits 10 n) :=
  ⟨Nat.toDigits_ne_nil, fun _ => Nat.isDigit_of_mem_toDigits (by decide) (by decide)⟩

theorem digitsValue_toDigits (n : Nat) : digitsValue (Nat.toDigits 10 n) = n := by
  have value := Nat.ofDigitChars_ten_toDigits (n := n)
  rwa [Nat.ofDigitChars_eq_foldl] at value

theorem head?_toDigits {n : Nat} (positive : n ≠ 0) : (Nat.toDigits 10 n).head? ≠ some '0' := by
  induction n using Nat.strongRecOn with
  | ind n ih =>
      by_cases small : n < 10
      · rw [Nat.toDigits_of_lt_base small]
        interval_cases n <;> first | exact absurd rfl positive | decide
      · rw [Nat.toDigits_of_base_le (by decide) (by omega)]
        have shorter : n / 10 ≠ 0 := by omega
        rw [List.head?_append_of_ne_nil _ Nat.toDigits_ne_nil]
        exact ih (n / 10) (by omega) shorter

theorem isWhole_toDigits (n : Nat) : IsWhole (Nat.toDigits 10 n) := by
  by_cases zero : n = 0
  · rw [zero]
    exact .inl (Nat.toDigits_zero 10)
  · exact .inr ⟨areDigits_toDigits n, head?_toDigits zero⟩

def NoDigit (text : List Char) : Prop := ∀ c ∈ text.head?, c.isDigit = false

theorem noDigit_cons {c : Char} (notDigit : c.isDigit = false) (text : List Char) :
    NoDigit (c :: text) := by
  intro d member
  rw [List.head?_cons, Option.mem_some_iff] at member
  rwa [← member]

theorem takeDigits_append {digits after : List Char} (all : ∀ c ∈ digits, c.isDigit = true)
    (behind : NoDigit after) : takeDigits (digits ++ after) = (digits, after) := by
  have none : after.takeWhile Char.isDigit = [] ∧ after.dropWhile Char.isDigit = after := by
    cases after with
    | nil => exact ⟨rfl, rfl⟩
    | cons c after =>
        have notDigit : c.isDigit = false := behind c rfl
        simp [notDigit]
  rw [takeDigits, List.takeWhile_append_of_pos all, List.dropWhile_append_of_pos all, none.1,
    none.2, List.append_nil]

theorem takeWhole_append {whole after : List Char} (isWhole : IsWhole whole)
    (behind : NoDigit after) : takeWhole (whole ++ after) = (whole, after) := by
  rcases isWhole with rfl | ⟨⟨notEmpty, digits⟩, notZero⟩
  · rfl
  · cases whole with
    | nil => exact absurd rfl notEmpty
    | cons c whole =>
        have differs : c ≠ '0' := fun same => notZero (congrArg some same)
        rw [← takeDigits_append digits behind, List.cons_append, takeWhole]
        intro rest same
        exact differs (List.cons.inj same).1

theorem takeFraction_append {fraction after : List Char} (digits : AreDigits fraction)
    (behind : NoDigit after) : takeFraction ('.' :: (fraction ++ after)) = (fraction, after) := by
  rw [takeFraction, takeDigits_append digits.digits behind]
  simp [digits.notEmpty]

theorem takeFraction_of_head {text : List Char} (noPoint : text.head? ≠ some '.') :
    takeFraction text = ([], text) := by
  cases text with
  | nil => rfl
  | cons c text =>
      rw [takeFraction]
      intro rest same
      exact noPoint (congrArg some (List.cons.inj same).1)

theorem takeSign_append {whole : List Char} (isWhole : IsWhole whole) (negative : Bool)
    (after : List Char) :
    takeSign ((if negative then ['-'] else []) ++ (whole ++ after)) = (negative, whole ++ after) := by
  cases negative with
  | true => rfl
  | false =>
      cases whole with
      | nil => exact absurd rfl isWhole.areDigits.notEmpty
      | cons c whole =>
          have digit := isWhole.areDigits.digits c List.mem_cons_self
          rw [if_neg (by decide), List.nil_append, List.cons_append, takeSign]
          intro rest same
          rw [(List.cons.inj same).1] at digit
          cases digit

theorem takeExponent_append {magnitude after : List Char} (digits : AreDigits magnitude)
    (behind : NoDigit after) (negative : Bool) :
    takeExponent ('e' :: (if negative then '-' else '+') :: (magnitude ++ after)) =
      some ((if negative then -1 else 1) * (digitsValue magnitude : Int), after) := by
  cases negative <;> simp [takeExponent, takeDigits_append digits.digits behind, digits.notEmpty]

theorem Ends.noDigit {after : List Char} (ends : Ends after) : NoDigit after := by
  intro c member
  rcases ends c member with rfl | rfl | rfl <;> rfl

theorem Ends.takeExponent {after : List Char} (ends : Ends after) : takeExponent after = none := by
  cases after with
  | nil => rfl
  | cons c after => rcases ends c rfl with rfl | rfl | rfl <;> rfl

theorem Ends.takeFraction {after : List Char} (ends : Ends after) :
    takeFraction after = ([], after) := by
  refine takeFraction_of_head fun point => ?_
  rcases ends '.' point with same | same | same <;> cases same

theorem number_of_whole {whole text : List Char} (isWhole : IsWhole whole) (negative : Bool)
    (behind : NoDigit text) :
    number ((if negative then ['-'] else []) ++ (whole ++ text)) =
      withExponent negative whole (takeFraction text).1 (takeFraction text).2 := by
  rw [number_eq, takeSign_append isWhole, takeWhole_append isWhole behind]
  exact if_neg (by simp [isWhole.areDigits.notEmpty])

theorem toString_toList (n : Int) :
    (toString n).toList = (if n < 0 then ['-'] else []) ++ Nat.toDigits 10 n.natAbs := by
  cases n with
  | ofNat m =>
      rw [if_neg (by simp)]
      exact (congrArg String.toList Nat.toString_eq_ofList_toDigits).trans String.toList_ofList
  | negSucc m =>
      rw [if_pos (Int.negSucc_lt_zero m)]
      simp [toString, Int.repr]

/-- Whether a whole number has no more digits than are read. -/
def IsShort (n : Int) : Prop := (Nat.toDigits 10 n.natAbs).length ≤ Text.digitLimit

theorem number_whole {n : Int} (short : IsShort n) {after : List Char} (ends : Ends after) :
    number ((toString n).toList ++ after) = .ok (.whole n, after) := by
  have isWhole := isWhole_toDigits n.natAbs
  have read := number_of_whole isWhole (decide (n < 0)) ends.noDigit
  simp only [decide_eq_true_eq] at read
  rw [toString_toList, List.append_assoc, read, ends.takeFraction, withExponent, ends.takeExponent]
  simp only [List.isEmpty_nil, if_true, if_neg (Nat.not_lt.mpr short), digitsValue_toDigits]
  have signed : (if decide (n < 0) = true then -(n.natAbs : Int) else n.natAbs) = n := by
    by_cases negative : n < 0 <;>
      simp only [negative, decide_true, decide_false, if_true, Bool.false_eq_true, if_false] <;>
      omega
  rw [signed]

inductive IsDecimal : List Char → Prop
  | point {whole fraction : List Char} (isWhole : IsWhole whole) (digits : AreDigits fraction) :
      IsDecimal (whole ++ '.' :: fraction)
  | exponent {whole magnitude : List Char} (isWhole : IsWhole whole) (negative : Bool)
      (digits : AreDigits magnitude) :
      IsDecimal (whole ++ 'e' :: (if negative then '-' else '+') :: magnitude)
  | both {whole fraction magnitude : List Char} (isWhole : IsWhole whole)
      (places : AreDigits fraction) (negative : Bool) (digits : AreDigits magnitude) :
      IsDecimal (whole ++ '.' :: (fraction ++ 'e' :: (if negative then '-' else '+') :: magnitude))

theorem number_of_decimal {text : List Char} (decimal : IsDecimal text) (negative : Bool) :
    ∃ x, ∀ after, Ends after →
      number ((if negative then ['-'] else []) ++ (text ++ after)) =
        .ok (.number (.float x), after) := by
  cases decimal with
  | @point whole fraction isWhole digits =>
      refine ⟨Decimal.floatOfDecimal negative (digitsValue (whole ++ fraction))
        (-(fraction.length : Int)), fun after ends => ?_⟩
      rw [List.append_assoc, List.cons_append,
        number_of_whole isWhole negative (noDigit_cons rfl _),
        takeFraction_append digits ends.noDigit, withExponent, ends.takeExponent]
      exact if_neg (by simp [digits.notEmpty])
  | @exponent whole magnitude isWhole down digits =>
      refine ⟨Decimal.floatOfDecimal negative (digitsValue (whole ++ []))
        ((if down then -1 else 1) * (digitsValue magnitude : Int) - ([] : List Char).length),
        fun after ends => ?_⟩
      rw [List.append_assoc, List.cons_append, List.cons_append,
        number_of_whole isWhole negative (noDigit_cons rfl _),
        takeFraction_of_head (by simp), withExponent,
        takeExponent_append digits ends.noDigit down]
  | @both whole fraction magnitude isWhole places down digits =>
      refine ⟨Decimal.floatOfDecimal negative (digitsValue (whole ++ fraction))
        ((if down then -1 else 1) * (digitsValue magnitude : Int) - fraction.length),
        fun after ends => ?_⟩
      rw [List.append_assoc, List.cons_append, List.append_assoc, List.cons_append,
        List.cons_append, number_of_whole isWhole negative (noDigit_cons rfl _),
        takeFraction_append places (noDigit_cons rfl _), withExponent,
        takeExponent_append digits ends.noDigit down]

theorem AreDigits.padded {text : List Char} (digits : AreDigits text) (count : Nat) :
    AreDigits (List.replicate count '0' ++ text) := by
  refine ⟨by simp [digits.notEmpty], fun c member => ?_⟩
  rcases List.mem_append.mp member with zero | inText
  · rw [List.eq_of_mem_replicate zero]
    rfl
  · exact digits.digits c inText

theorem isWhole_singleton {c : Char} (digit : c.isDigit = true) : IsWhole [c] := by
  by_cases zero : c = '0'
  · exact .inl (congrArg (fun d => [d]) zero)
  · refine .inr ⟨⟨List.cons_ne_nil _ _, fun d member => ?_⟩, fun head => zero (Option.some.inj head)⟩
    rwa [List.mem_singleton.mp member]

theorem isWhole_before_point {d : Digits} (proper : d.digits ≠ 0 ∨ d.exponent ≤ 0)
    (positive : 0 < ((Nat.toDigits 10 d.digits).length : Int) + d.exponent) :
    IsWhole ((Nat.toDigits 10 d.digits).take
        (((Nat.toDigits 10 d.digits).length : Int) + d.exponent).toNat ++
      List.replicate ((((Nat.toDigits 10 d.digits).length : Int) + d.exponent).toNat -
        (Nat.toDigits 10 d.digits).length) '0') := by
  by_cases zero : d.digits = 0
  · have exponent : d.exponent = 0 := by
      have notPositive := proper.resolve_left fun notZero => notZero zero
      rw [zero, Nat.toDigits_zero, List.length_singleton] at positive
      omega
    rw [zero, exponent, Nat.toDigits_zero]
    exact .inl rfl
  · have digits := areDigits_toDigits d.digits
    have head := head?_toDigits zero
    generalize Nat.toDigits 10 d.digits = written at *
    obtain ⟨places, count⟩ : ∃ places, ((written.length : Int) + d.exponent).toNat = places + 1 :=
      ⟨((written.length : Int) + d.exponent).toNat - 1, by omega⟩
    rw [count]
    cases written with
    | nil => exact absurd rfl digits.notEmpty
    | cons c written =>
        refine .inr ⟨⟨by simp, fun e member => ?_⟩, by simpa using head⟩
        rcases List.mem_append.mp member with taken | zeros
        · exact digits.digits e (List.mem_of_mem_take taken)
        · rw [List.eq_of_mem_replicate zeros]
          rfl

theorem areDigits_behind_point {text : List Char} (digits : ∀ c ∈ text, c.isDigit = true)
    (place : Nat) :
    AreDigits (if (text.drop place).isEmpty then ['0'] else text.drop place) := by
  split_ifs with none
  · exact areDigits_zero
  · exact ⟨by simpa using none, fun c member => digits c (List.mem_of_mem_drop member)⟩

theorem isDecimal_scientific {text magnitude : List Char} :
    AreDigits text → AreDigits magnitude → ∀ negative : Bool, IsDecimal ((match text with
      | first :: second :: rest => first :: '.' :: second :: rest
      | digits => digits) ++ 'e' :: (if negative then '-' else '+') :: magnitude) := by
  intro digits exponent negative
  match text, digits with
  | [], digits => exact absurd rfl digits.notEmpty
  | [first], digits =>
      exact .exponent (isWhole_singleton (digits.digits first List.mem_cons_self)) negative exponent
  | first :: second :: rest, digits =>
      have places : AreDigits (second :: rest) :=
        ⟨List.cons_ne_nil _ _, fun c member => digits.digits c (List.mem_cons_of_mem _ member)⟩
      exact .both (isWhole_singleton (digits.digits first List.mem_cons_self)) places negative
        exponent

theorem isDecimal_write (layout : Decimal.Layout) {d : Digits}
    (proper : d.digits ≠ 0 ∨ d.exponent ≤ 0) : IsDecimal (layout.write d).toList := by
  have digits := areDigits_toDigits d.digits
  unfold Decimal.Layout.write
  dsimp only
  split
  · split
    · have whole : IsWhole ['0'] := .inl rfl
      have places := digits.padded
        (-(((Nat.toDigits 10 d.digits).length : Int) + d.exponent)).toNat
      rw [String.toList_ofList]
      simpa using IsDecimal.point whole places
    · rw [String.toList_ofList]
      exact .point (isWhole_before_point proper (by omega))
        (areDigits_behind_point digits.digits _)
  · generalize ((Nat.toDigits 10 d.digits).length : Int) + d.exponent - 1 = shown
    have exponent := (areDigits_toDigits shown.natAbs).padded
      (layout.exponentDigits - (Nat.toDigits 10 shown.natAbs).length)
    have scientific := isDecimal_scientific digits exponent (decide (shown < 0))
    simp only [decide_eq_true_eq] at scientific
    rw [String.toList_ofList, List.append_assoc]
    exact scientific

theorem normalize_digits_ne_zero {d : Digits} (positive : d.digits ≠ 0) :
    d.normalize.digits ≠ 0 := by
  fun_induction Decimal.Digits.normalize d with
  | case1 d more ih => exact ih (by simp only; omega)
  | case2 d done => exact positive

theorem onGrid?_digits_ne_zero {b : Binary} {grid : Int} {d : Digits}
    (positive : b.significand ≠ 0) (found : Decimal.onGrid? b grid = some d) : d.digits ≠ 0 := by
  intro zero
  have low : 0 < (Decimal.quarters b).1 := by
    unfold Decimal.quarters
    dsimp only
    split_ifs <;> omega
  have scaled : 0 < (Decimal.quarters b).1 *
      (Decimal.powerUp 2 (b.exponent - 2) * Decimal.powerDown 10 grid) :=
    Nat.mul_pos low (Nat.mul_pos (Nat.pow_pos (by decide)) (Nat.pow_pos (by decide)))
  unfold Decimal.onGrid? at found
  dsimp only at found
  generalize Decimal.powerUp 2 (b.exponent - 2) * Decimal.powerDown 10 grid = right at *
  generalize Decimal.powerDown 2 (b.exponent - 2) * Decimal.powerUp 10 grid = left at *
  generalize (Decimal.quarters b).1 * right = bottom at *
  generalize (Decimal.quarters b).2.1 * right / left = lower at *
  have notZero : ∀ below : Bool, ((decide (bottom < lower * left) ||
      b.significand % 2 == 0 && bottom == lower * left) && below) = true → lower ≠ 0 := by
    rintro below inside rfl
    rw [Nat.zero_mul] at inside
    simp [scaled.ne'] at inside
  split at found
  · split_ifs at found <;> cases found
    · exact notZero _ ‹_› zero
    · exact Nat.succ_ne_zero _ zero
  · cases found
    exact notZero _ ‹_› zero
  · cases found
    exact Nat.succ_ne_zero _ zero
  · cases found

theorem shortest_proper {b : Binary} (positive : b.significand ≠ 0) :
    (Decimal.shortest b).digits ≠ 0 ∨ (Decimal.shortest b).exponent ≤ 0 := by
  unfold Decimal.shortest
  dsimp only
  split
  · rename_i d found
    obtain ⟨count, -, here⟩ := List.exists_of_findSome?_eq_some found
    exact .inl (normalize_digits_ne_zero (onGrid?_digits_ne_zero positive here))
  · exact .inr (Int.le_refl 0)

end SourceSimilarity.Json
