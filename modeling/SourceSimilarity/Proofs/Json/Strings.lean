import SourceSimilarity.Json.Reader
import SourceSimilarity.Json.Writer
import Mathlib.Data.List.Chain
import Mathlib.Tactic.IntervalCases
import Mathlib.Tactic.SplitIfs

namespace SourceSimilarity.Json

open Text (Half Point hexPadded isSurrogate ofPoints pointOf points)

theorem hexValue?_digitChar {n : Nat} (small : n < 16) :
    Text.hexValue? (Nat.digitChar n) = some n := by
  interval_cases n <;> rfl

theorem hexPadded_four {n : Nat} (small : n < 0x10000) :
    hexPadded 4 n = [Nat.digitChar (n / 4096), Nat.digitChar (n / 256 % 16),
      Nat.digitChar (n / 16 % 16), Nat.digitChar (n % 16)] := by
  have digits : ∀ m, Nat.toDigits 16 m =
      if m < 16 then [Nat.digitChar m] else Nat.toDigits 16 (m / 16) ++ [Nat.digitChar (m % 16)] :=
    fun m => Nat.toDigits_eq_if (by decide)
  have zero : Nat.digitChar 0 = '0' := rfl
  have second : n / 256 = n / 16 / 16 := by omega
  have first : n / 4096 = n / 16 / 16 / 16 := by omega
  rw [hexPadded, digits, digits (n / 16), digits (n / 16 / 16), digits (n / 16 / 16 / 16),
    if_pos (show n / 16 / 16 / 16 < 16 by omega), first, second]
  split_ifs with one two three
  · rw [show n / 16 / 16 / 16 = 0 by omega, show n / 16 / 16 % 16 = 0 by omega,
      show n / 16 % 16 = 0 by omega, Nat.mod_eq_of_lt one, zero]
    rfl
  · rw [show n / 16 / 16 / 16 = 0 by omega, show n / 16 / 16 % 16 = 0 by omega,
      Nat.mod_eq_of_lt two, zero]
    rfl
  · rw [show n / 16 / 16 / 16 = 0 by omega, Nat.mod_eq_of_lt three, zero]
    rfl
  · rfl

theorem unitEscape_eq {n : Nat} (small : n < 0x10000) :
    ∃ a b c d, unitEscape n = ['\\', 'u', a, b, c, d] ∧ hexFour? a b c d = some n := by
  refine ⟨_, _, _, _, congrArg (fun digits => '\\' :: 'u' :: digits) (hexPadded_four small), ?_⟩
  rw [hexFour?, hexValue?_digitChar (by omega), hexValue?_digitChar (by omega),
    hexValue?_digitChar (by omega), hexValue?_digitChar (by omega)]
  refine congrArg some ?_
  omega

def IsHigh (n : Nat) : Prop := 0xD800 ≤ n ∧ n < 0xDC00

def IsLow (n : Nat) : Prop := 0xDC00 ≤ n ∧ n < 0xE000

instance (n : Nat) : Decidable (IsHigh n) := inferInstanceAs (Decidable (_ ∧ _))

instance (n : Nat) : Decidable (IsLow n) := inferInstanceAs (Decidable (_ ∧ _))

/-- A text in which a high half and a low one behind it are the character of the pair. -/
def joined : List Point → List Point
  | .half high :: .half low :: rest =>
    if IsHigh high.unit ∧ IsLow low.unit then .char (pairChar high.unit low.unit) :: joined rest
    else .half high :: joined (.half low :: rest)
  | p :: rest => p :: joined rest
  | [] => []

def rejoined (s : String) : String := ofPoints (joined (points s.toList))

theorem joined_map_char (text : List Char) : joined (text.map .char) = text.map .char := by
  induction text with
  | nil => rfl
  | cons c text ih => exact congrArg (Point.char c :: ·) ih

theorem rejoined_of_whole {s : String} (whole : (Text.whole? (points s.toList)).isSome) :
    rejoined s = s := by
  obtain ⟨text, found⟩ := Option.isSome_iff_exists.mp whole
  have same : points s.toList = text.map .char := Text.eq_map_char_of_whole? found
  rw [rejoined, same, joined_map_char, ← same, ofPoints, Text.spell_points, String.ofList_toList]

theorem not_surrogate (c : Char) : isSurrogate c.toNat = false := by
  have valid := c.valid
  have value : c.val.toNat = c.toNat := rfl
  simp only [UInt32.isValidChar, Nat.isValidChar, value] at valid
  simp only [isSurrogate, Bool.and_eq_false_iff, decide_eq_false_iff_not]
  omega

theorem pointOf_toNat (c : Char) : pointOf c.toNat = .char c := by
  rw [pointOf, dif_neg (Bool.eq_false_iff.mp (not_surrogate c)), Char.ofNat_toNat]

theorem pointOf_unit (h : Half) : pointOf h.unit = .half h := by
  rw [pointOf, dif_pos h.isHalf]

theorem pairChar_toNat {c : Char} (large : 0x10000 ≤ c.toNat) :
    pairChar (0xD800 + (c.toNat - 0x10000) / 0x400) (0xDC00 + (c.toNat - 0x10000) % 0x400) = c := by
  have whole : 0x10000 + (0xD800 + (c.toNat - 0x10000) / 0x400 - 0xD800) * 0x400 +
      (0xDC00 + (c.toNat - 0x10000) % 0x400 - 0xDC00) = c.toNat := by omega
  rw [pairChar, whole, Char.ofNat_toNat]

theorem escapeChar_cases (c : Char) :
    (∃ e, e ≠ 'u' ∧ simpleEscape? e = some c ∧ escapeChar c = ['\\', e]) ∨
    (c ≠ '"' ∧ c ≠ '\\' ∧ ¬c.val < 0x20 ∧ c ≤ '~' ∧ escapeChar c = [c]) ∨
    escapeChar c = (Point.char c).units.flatMap unitEscape := by
  by_cases special : c ∈ ['"', '\\', '\n', '\r', '\t', '\x0c', '\x08']
  · refine .inl ?_
    simp only [List.mem_cons, List.not_mem_nil, or_false] at special
    rcases special with rfl | rfl | rfl | rfl | rfl | rfl | rfl
    · exact ⟨'"', by decide, rfl, rfl⟩
    · exact ⟨'\\', by decide, rfl, rfl⟩
    · exact ⟨'n', by decide, rfl, rfl⟩
    · exact ⟨'r', by decide, rfl, rfl⟩
    · exact ⟨'t', by decide, rfl, rfl⟩
    · exact ⟨'f', by decide, rfl, rfl⟩
    · exact ⟨'b', by decide, rfl, rfl⟩
  · simp only [List.mem_cons, List.not_mem_nil, or_false, not_or] at special
    obtain ⟨quote, backslash, lineFeed, carriageReturn, tabulator, formFeed, backspace⟩ := special
    refine .inr ?_
    simp only [escapeChar, beq_iff_eq, quote, backslash, lineFeed, carriageReturn, tabulator,
      formFeed, backspace, if_false, Bool.and_eq_true, decide_eq_true_eq]
    split_ifs with printable
    · exact .inl ⟨quote, backslash, UInt32.not_lt.mpr printable.1, printable.2, rfl⟩
    · exact .inr rfl

theorem units_cases (c : Char) :
    c.toNat < 0x10000 ∧ ¬IsHigh c.toNat ∧ ¬IsLow c.toNat ∧ (Point.char c).units = [c.toNat] ∨
    ∃ high low, IsHigh high ∧ IsLow low ∧ pairChar high low = c ∧
      (Point.char c).units = [high, low] := by
  by_cases small : c.toNat < 0x10000
  · have notHalf := not_surrogate c
    simp only [isSurrogate, Bool.and_eq_false_iff, decide_eq_false_iff_not] at notHalf
    refine .inl ⟨small, ?_, ?_, if_pos small⟩
    · exact fun high => notHalf.elim (absurd high.1) (absurd (high.2.trans (by decide)))
    · exact fun low => notHalf.elim (absurd (Nat.le_trans (by decide) low.1)) (absurd low.2)
  · have bound : c.toNat < 0x110000 := by
      have valid := c.valid
      have value : c.val.toNat = c.toNat := rfl
      simp only [UInt32.isValidChar, Nat.isValidChar, value] at valid
      omega
    refine .inr ⟨_, _, ?_, ?_, pairChar_toNat (Nat.not_lt.mp small), if_neg small⟩
    · constructor <;> omega
    · constructor <;> omega

/-- What follows an escape is read on its own: no escape of a low half, and no escape that is
broken off. -/
def Apart (text : List Char) : Prop :=
  ∀ a b c d last tail, text = '\\' :: 'u' :: a :: b :: c :: d :: last :: tail →
    ∃ n, hexFour? a b c d = some n ∧ ¬IsLow n

theorem stringBody_unit {a b c d next : Char} {n : Nat} (known : hexFour? a b c d = some n)
    (opening : List Char) (read : List Point) (rest : List Char)
    (alone : IsHigh n → Apart (next :: rest)) :
    stringBody opening read ('\\' :: 'u' :: a :: b :: c :: d :: next :: rest) =
      stringBody opening (pointOf n :: read) (next :: rest) := by
  rw [stringBody, known]
  dsimp only
  split_ifs with high
  · split
    · rename_i a b c d last tail
      obtain ⟨low, knownLow, notLow⟩ := alone high a b c d last tail rfl
      rw [knownLow]
      exact if_neg notLow
    · rfl
  · rfl

theorem stringBody_pair {a b c d a' b' c' d' last : Char} {high low : Nat}
    (knownHigh : hexFour? a b c d = some high) (knownLow : hexFour? a' b' c' d' = some low)
    (first : IsHigh high) (second : IsLow low) (opening : List Char) (read : List Point)
    (tail : List Char) :
    stringBody opening read ('\\' :: 'u' :: a :: b :: c :: d :: '\\' :: 'u' :: a' :: b' :: c' :: d' ::
      last :: tail) = stringBody opening (.char (pairChar high low) :: read) (last :: tail) := by
  rw [stringBody, knownHigh]
  dsimp only
  rw [if_pos (show 0xD800 ≤ high ∧ high < 0xDC00 from first)]
  simp only [knownLow]
  exact if_pos second

theorem stringBody_escapeChar (c next : Char) (opening : List Char) (read : List Point)
    (rest : List Char) :
    stringBody opening read (escapeChar c ++ next :: rest) =
      stringBody opening (.char c :: read) (next :: rest) := by
  rcases escapeChar_cases c with ⟨e, notUnit, simple, written⟩ | ⟨quote, backslash, control, -, written⟩ |
    written
  · rw [written, List.cons_append, List.cons_append, List.nil_append, stringBody, simple]
    · rintro a b c d next rest same -
      exact notUnit same
    · exact notUnit
  · rw [written, List.cons_append, List.nil_append, stringBody, if_neg control]
    · exact quote
    · rintro a b c d next rest same -
      exact backslash same
    · rintro rest same -
      exact backslash same
    · rintro same -
      exact backslash same
    · rintro c rest same -
      exact backslash same
  · rcases units_cases c with ⟨small, notHigh, -, units⟩ | ⟨high, low, first, second, pair, units⟩
    · obtain ⟨a, b, d, e, escape, known⟩ := unitEscape_eq small
      rw [written, units, List.flatMap_singleton, escape]
      exact (stringBody_unit known opening read rest (absurd · notHigh)).trans
        (by rw [pointOf_toNat])
    · obtain ⟨a, b, d, e, escapeHigh, knownHigh⟩ := unitEscape_eq (show high < 0x10000 by
        exact first.2.trans (by decide))
      obtain ⟨a', b', d', e', escapeLow, knownLow⟩ := unitEscape_eq (show low < 0x10000 by
        exact second.2.trans (by decide))
      rw [written, units, List.flatMap_cons, List.flatMap_singleton, escapeHigh, escapeLow]
      exact (stringBody_pair knownHigh knownLow first second opening read rest).trans
        (by rw [pair])

theorem stringBody_half {h : Half} {next : Char} {rest : List Char}
    (alone : IsHigh h.unit → Apart (next :: rest)) (opening : List Char) (read : List Point) :
    stringBody opening read (unitEscape h.unit ++ next :: rest) =
      stringBody opening (.half h :: read) (next :: rest) := by
  obtain ⟨a, b, d, e, escape, known⟩ := unitEscape_eq h.small
  rw [escape]
  exact (stringBody_unit known opening read rest alone).trans (by rw [pointOf_unit])

theorem stringBody_halves {high low : Half} (first : IsHigh high.unit) (second : IsLow low.unit)
    (opening : List Char) (read : List Point) (next : Char) (rest : List Char) :
    stringBody opening read (unitEscape high.unit ++ (unitEscape low.unit ++ next :: rest)) =
      stringBody opening (.char (pairChar high.unit low.unit) :: read) (next :: rest) := by
  obtain ⟨a, b, d, e, escapeHigh, knownHigh⟩ := unitEscape_eq high.small
  obtain ⟨a', b', d', e', escapeLow, knownLow⟩ := unitEscape_eq low.small
  rw [escapeHigh, escapeLow]
  exact stringBody_pair knownHigh knownLow first second opening read rest

theorem apart_unitEscape {n : Nat} (small : n < 0x10000) (notLow : ¬IsLow n) (text : List Char) :
    Apart (unitEscape n ++ text) := by
  intro a b d e last tail same
  obtain ⟨a', b', d', e', escape, known⟩ := unitEscape_eq small
  rw [escape] at same
  simp only [List.cons_append, List.cons.injEq] at same
  obtain ⟨-, -, rfl, rfl, rfl, rfl, -⟩ := same
  exact ⟨n, known, notLow⟩

theorem apart_escapeChar (c : Char) (text : List Char) : Apart (escapeChar c ++ text) := by
  rcases escapeChar_cases c with ⟨e, notUnit, -, written⟩ | ⟨-, backslash, -, -, written⟩ | written
  · rw [written]
    exact fun _ _ _ _ _ _ same => absurd (List.cons.inj (List.cons.inj same).2).1 notUnit
  · rw [written]
    exact fun _ _ _ _ _ _ same => absurd (List.cons.inj same).1 backslash
  · rcases units_cases c with ⟨small, -, notLow, units⟩ | ⟨high, low, first, -, -, units⟩
    · rw [written, units, List.flatMap_singleton]
      exact apart_unitEscape small notLow text
    · rw [written, units, List.flatMap_cons, List.append_assoc]
      exact apart_unitEscape (first.2.trans (by decide))
        (fun second => absurd first.2 (Nat.not_lt.mpr second.1)) _

theorem apart_quote (text : List Char) : Apart ('"' :: text) :=
  fun _ _ _ _ _ _ same => absurd (List.cons.inj same).1 (by decide)

theorem exists_cons_escaped (s : List Point) (rest : List Char) :
    ∃ next more, s.flatMap escapePoint ++ '"' :: rest = next :: more :=
  List.exists_cons_of_ne_nil (by simp)

theorem stringBody_escaped (s : List Point) (opening : List Char) (read : List Point)
    (rest : List Char) :
    stringBody opening read (s.flatMap escapePoint ++ '"' :: rest) =
      .ok (read.reverse ++ joined s, rest) := by
  fun_induction joined s generalizing read with
  | case1 high low s halves ih =>
      obtain ⟨next, more, after⟩ := exists_cons_escaped s rest
      have later := ih (.char (pairChar high.unit low.unit) :: read)
      rw [after] at later
      rw [List.flatMap_cons, List.flatMap_cons, List.append_assoc, List.append_assoc, after]
      refine (stringBody_halves halves.1 halves.2 opening read next more).trans ?_
      rw [later, List.reverse_cons, List.append_assoc]
      rfl
  | case2 high low s apart ih =>
      have alone : IsHigh high.unit →
          Apart ((Point.half low :: s).flatMap escapePoint ++ '"' :: rest) := by
        intro isHigh
        rw [List.flatMap_cons, List.append_assoc]
        exact apart_unitEscape low.small (fun isLow => apart ⟨isHigh, isLow⟩) _
      obtain ⟨next, more, after⟩ := exists_cons_escaped (.half low :: s) rest
      have later := ih (.half high :: read)
      rw [after] at later alone
      rw [List.flatMap_cons, List.append_assoc, after]
      refine (stringBody_half alone opening read).trans ?_
      rw [later, List.reverse_cons, List.append_assoc]
      rfl
  | case3 p s notHalves ih =>
      obtain ⟨next, more, after⟩ := exists_cons_escaped s rest
      have later := ih (p :: read)
      have single : stringBody opening read (escapePoint p ++ next :: more) =
          stringBody opening (p :: read) (next :: more) := by
        cases p with
        | char c => exact stringBody_escapeChar c next opening read more
        | half h =>
            refine stringBody_half (fun _ => ?_) opening read
            rw [← after]
            rcases s with _ | ⟨c | low, s⟩
            · exact apart_quote rest
            · rw [List.flatMap_cons, List.append_assoc]
              exact apart_escapeChar c _
            · exact absurd rfl (notHalves h low s rfl)
      rw [after] at later
      rw [List.flatMap_cons, List.append_assoc, after, single, later, List.reverse_cons,
        List.append_assoc]
      rfl
  | case4 => rw [List.flatMap_nil, List.nil_append, stringBody, List.append_nil]

end SourceSimilarity.Json
