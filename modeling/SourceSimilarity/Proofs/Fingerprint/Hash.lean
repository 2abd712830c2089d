import SourceSimilarity.Fingerprint.Hash
import Mathlib.Data.Int.ModEq
import Mathlib.Tactic.Ring

namespace SourceSimilarity.Fingerprint

def value (units : List Int) : Int := units.foldl (fun number unit => number * base + unit) 0

def grams (k : Nat) : List Int → List (List Int)
  | [] => []
  | unit :: rest => if k ≤ rest.length + 1 then (unit :: rest).take k :: grams k rest else []

theorem foldl_value (start : Int) (units : List Int) :
    units.foldl (fun number unit => number * base + unit) start =
      start * base ^ units.length + value units := by
  induction units generalizing start with
  | nil => simp [value]
  | cons unit rest ih =>
      unfold value
      rw [List.foldl_cons, List.foldl_cons, ih, ih, List.length_cons]
      ring

theorem value_cons (unit : Int) (rest : List Int) :
    value (unit :: rest) = unit * base ^ rest.length + value rest := by
  unfold value
  rw [List.foldl_cons, foldl_value, value]
  ring

theorem value_append_singleton (units : List Int) (unit : Int) :
    value (units ++ [unit]) = value units * base + unit := by
  rw [value, List.foldl_append, ← value, List.foldl_cons, List.foldl_nil]

theorem extend_modEq {residue number : Int} (unit : Int) (equal : residue ≡ number [ZMOD modulus]) :
    extend residue unit = (number * base + unit) % modulus :=
  (equal.mul_right base).add_right unit

theorem residueOf_eq (units : List Int) : residueOf units = value units % modulus := by
  suffices general : ∀ start number : Int, start = number % modulus →
      units.foldl extend start =
        units.foldl (fun number unit => number * base + unit) number % modulus from
    general 0 0 rfl
  induction units with
  | nil => exact fun start number equal => equal
  | cons unit rest ih =>
      rintro _ number rfl
      exact ih _ _ (extend_modEq unit (Int.mod_modEq number modulus))

theorem grams_of_lt {k : Nat} {units : List Int} (short : units.length < k) : grams k units = [] := by
  cases units with
  | nil => rfl
  | cons unit rest => exact if_neg (by simpa using short)

theorem grams_cons {k : Nat} {unit : Int} {rest : List Int} (enough : k ≤ rest.length + 1) :
    grams k (unit :: rest) = (unit :: rest).take k :: grams k rest :=
  if_pos enough

theorem length_grams {k : Nat} (positive : 1 ≤ k) (units : List Int) :
    (grams k units).length = units.length + 1 - k := by
  induction units with
  | nil =>
      show 0 = 0 + 1 - k
      omega
  | cons unit rest ih =>
      by_cases enough : k ≤ rest.length + 1
      · rw [grams_cons enough, List.length_cons, ih, List.length_cons]
        omega
      · rw [grams_of_lt (by simpa using enough), List.length_nil, List.length_cons]
        omega

theorem mem_grams {k : Nat} {units gram : List Int} (member : gram ∈ grams k units) :
    gram <:+: units ∧ gram.length = k := by
  induction units with
  | nil => cases member
  | cons unit rest ih =>
      by_cases enough : k ≤ rest.length + 1
      · rw [grams_cons enough, List.mem_cons] at member
        rcases member with rfl | later
        · refine ⟨(List.take_prefix k (unit :: rest)).isInfix, ?_⟩
          rw [List.length_take, List.length_cons]
          omega
        · exact ⟨List.infix_cons (ih later).1, (ih later).2⟩
      · rw [grams_of_lt (by simpa using enough)] at member
        cases member

theorem grams_suffix_cons (k : Nat) (unit : Int) (rest : List Int) :
    grams k rest <:+ grams k (unit :: rest) := by
  by_cases enough : k ≤ rest.length + 1
  · rw [grams_cons enough]
    exact List.suffix_cons _ _
  · rw [grams_of_lt (by omega)]
    exact List.nil_suffix

theorem grams_suffix_append (k : Nat) (front units : List Int) :
    grams k units <:+ grams k (front ++ units) := by
  induction front with
  | nil => exact List.suffix_rfl
  | cons unit rest ih => exact ih.trans (grams_suffix_cons k unit (rest ++ units))

theorem grams_prefix_append (k : Nat) (units back : List Int) :
    grams k units <+: grams k (units ++ back) := by
  induction units with
  | nil => exact List.nil_prefix
  | cons unit rest ih =>
      by_cases enough : k ≤ rest.length + 1
      · rw [List.cons_append, grams_cons enough, grams_cons (by simp; omega), ← List.cons_append,
          List.take_append_of_le_length (by simpa using enough), List.prefix_cons_inj]
        exact ih
      · rw [grams_of_lt (by simpa using enough)]
        exact List.nil_prefix

theorem infix_grams {k : Nat} {block units : List Int} (inside : block <:+: units) :
    grams k block <:+: grams k units := by
  obtain ⟨front, back, rfl⟩ := inside
  rw [List.append_assoc]
  exact (grams_prefix_append k block back).isInfix.trans
    (grams_suffix_append k front (block ++ back)).isInfix

/-- With its first unit taken off and one more put on, the residue of a window is that of the next
one. -/
theorem extend_slide {k : Nat} {out unit : Int} {rest : List Int} (length : rest.length + 1 = k) :
    extend (residueOf (out :: rest) - out * (base.pow (k - 1) % modulus)) unit =
      residueOf (rest ++ [unit]) := by
  have weight : base.pow (k - 1) % modulus ≡ base ^ rest.length [ZMOD modulus] := by
    rw [← length, Nat.add_sub_cancel]
    exact Int.mod_modEq _ _
  have slid : residueOf (out :: rest) - out * (base.pow (k - 1) % modulus) ≡
      value rest [ZMOD modulus] :=
    calc residueOf (out :: rest) - out * (base.pow (k - 1) % modulus)
        ≡ value (out :: rest) - out * base ^ rest.length [ZMOD modulus] := by
          rw [residueOf_eq]
          exact (Int.mod_modEq _ _).sub (weight.mul_left out)
      _ = value rest := by
          rw [value_cons]
          ring
  rw [extend_modEq unit slid, residueOf_eq, value_append_singleton]

theorem roll_eq {k : Nat} (window entering : List Int) (length : window.length = k)
    (positive : 1 ≤ k) :
    hashUnits window ::
        roll (base.pow (k - 1) % modulus) (residueOf window) (window ++ entering) entering =
      (grams k (window ++ entering)).map hashUnits := by
  induction entering generalizing window with
  | nil =>
      cases window with
      | nil => simp at length; omega
      | cons out rest =>
          rw [List.append_nil, grams_cons (by simpa using length.ge), List.take_of_length_le length.le,
            grams_of_lt (by simp at length; omega)]
          rfl
  | cons unit entering ih =>
      cases window with
      | nil => simp at length; omega
      | cons out rest =>
          have lengthRest : rest.length + 1 = k := by simpa using length
          have next := ih (rest ++ [unit]) (by simpa using lengthRest)
          rw [List.append_assoc, List.singleton_append] at next
          rw [List.cons_append, roll, extend_slide lengthRest, grams_cons (by simp; omega),
            List.map_cons, ← next, ← List.cons_append, List.take_left' length]
          rfl

theorem gramHashes_eq {k : Nat} (positive : 1 ≤ k) (units : List Int) :
    gramHashes k units = (grams k units).map hashUnits := by
  unfold gramHashes
  by_cases short : units.length < k
  · rw [if_pos short, grams_of_lt short, List.map_nil]
  · have length : (units.take k).length = k := by
      rw [List.length_take]
      omega
    rw [if_neg short]
    have rolled := roll_eq (units.take k) (units.drop k) length positive
    rw [List.take_append_drop] at rolled
    exact rolled

end SourceSimilarity.Fingerprint
