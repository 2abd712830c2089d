/-!
The points that text consists of: characters, and halves of surrogate pairs that stand alone, which
come from units of sixteen bits and from file names that are no text. A string spells the points of
such a text. A half is spelled by a sentinel and the character of the last private plane that holds
it. Only in front of a holder is a run of sentinels read differently from how it stands: two of them
are one character, and one that is left over makes a half of the holder. So every string spells one
text, and every text is spelled by one string.
-/

namespace SourceSimilarity.Text

def isSurrogate (unit : Nat) : Bool := 0xD800 ≤ unit && unit < 0xE000

structure Half where
  unit : Nat
  isHalf : isSurrogate unit = true
deriving DecidableEq, Repr

inductive Point where
  | char (c : Char)
  | half (h : Half)
deriving DecidableEq, Repr

instance : Coe Char Point := ⟨.char⟩

def Point.code : Point → Nat
  | .char c => c.toNat
  | .half h => h.unit

def Point.char? : Point → Option Char
  | .char c => some c
  | .half _ => none

def Point.map (f : Char → Char) : Point → Point
  | .char c => .char (f c)
  | .half h => .half h

/-- The point with a number. A number that has none is taken for zero. -/
def pointOf (code : Nat) : Point :=
  if isHalf : isSurrogate code then .half ⟨code, isHalf⟩ else .char (Char.ofNat code)

def sentinel : Char := Char.ofNat 0x10FFFF

/-- The distance between a half and the character that holds it. -/
def holderDistance : Nat := 0x100000

def Half.holder (h : Half) : Char := Char.ofNat (holderDistance + h.unit)

theorem isSurrogate_sub {n : Nat} (held : 0x10D800 ≤ n ∧ n < 0x10E000) :
    isSurrogate (n - holderDistance) = true := by
  rw [isSurrogate, holderDistance, Bool.and_eq_true, decide_eq_true_eq, decide_eq_true_eq]
  omega

def heldBy? (c : Char) : Option Half :=
  if held : 0x10D800 ≤ c.toNat ∧ c.toNat < 0x10E000 then
    some ⟨c.toNat - holderDistance, isSurrogate_sub held⟩
  else none

def pointsBehind (held : Nat) : List Char → List Point
  | [] => List.replicate held (.char sentinel)
  | c :: rest =>
    if c = sentinel then pointsBehind (held + 1) rest
    else
      match heldBy? c with
      | none => List.replicate held (.char sentinel) ++ .char c :: pointsBehind 0 rest
      | some h =>
        List.replicate (held / 2) (.char sentinel) ++
          (if held % 2 = 1 then .half h else .char c) :: pointsBehind 0 rest

def points (text : List Char) : List Point := pointsBehind 0 text

def spellBehind (held : Nat) : List Point → List Char
  | [] => List.replicate held sentinel
  | .half h :: rest => List.replicate (2 * held + 1) sentinel ++ h.holder :: spellBehind 0 rest
  | .char c :: rest =>
    if c = sentinel then spellBehind (held + 1) rest
    else if (heldBy? c).isSome then List.replicate (2 * held) sentinel ++ c :: spellBehind 0 rest
    else List.replicate held sentinel ++ c :: spellBehind 0 rest

def spell (text : List Point) : List Char := spellBehind 0 text

/-- The characters of a text, if no half stands alone in it. Only then are there bytes for it in
UTF-8. -/
def whole? (text : List Point) : Option (List Char) := text.mapM Point.char?

def ofPoints (text : List Point) : String := String.ofList (spell text)

def spelled (text : List Char) : String := ofPoints (text.map .char)

def codes (text : String) : List Nat := (points text.toList).map Point.code

/-- Texts are ordered by their code points. -/
def Before (a b : String) : Prop := codes a < codes b

instance (a b : String) : Decidable (Before a b) := inferInstanceAs (Decidable (codes a < codes b))

def sorted (texts : List String) : List String :=
  texts.mergeSort fun a b => !decide (Before b a)

theorem Half.bounds (h : Half) : 0xD800 ≤ h.unit ∧ h.unit < 0xE000 := by
  simpa only [isSurrogate, Bool.and_eq_true, decide_eq_true_eq] using h.isHalf

theorem Half.small (h : Half) : h.unit < 0x10000 := Nat.lt_trans h.bounds.2 (by decide)

theorem Half.toNat_holder (h : Half) : h.holder.toNat = holderDistance + h.unit := by
  have valid : (holderDistance + h.unit).isValidChar := by
    have bounds := h.bounds
    simp only [Nat.isValidChar, holderDistance]
    omega
  rw [holder, Char.ofNat, dif_pos valid]
  rfl

theorem heldBy?_holder (h : Half) : heldBy? h.holder = some h := by
  have held : 0x10D800 ≤ h.holder.toNat ∧ h.holder.toNat < 0x10E000 := by
    have bounds := h.bounds
    rw [h.toNat_holder, holderDistance]
    omega
  have back : h.holder.toNat - holderDistance = h.unit := by
    rw [h.toNat_holder]
    exact Nat.add_sub_cancel_left _ _
  simp only [heldBy?, dif_pos held, back]

theorem holder_of_heldBy? {c : Char} {h : Half} (found : heldBy? c = some h) : h.holder = c := by
  rw [heldBy?] at found
  split at found
  · rename_i held
    rw [← Option.some.inj found, Half.holder, Nat.add_sub_cancel' (Nat.le_trans (by decide) held.1),
      Char.ofNat_toNat]
  · cases found

theorem heldBy?_sentinel : heldBy? sentinel = none := by decide

theorem holder_ne_sentinel (h : Half) : h.holder ≠ sentinel := fun same => by
  have found := heldBy?_holder h
  rw [same, heldBy?_sentinel] at found
  cases found

theorem pointsBehind_replicate (held count : Nat) (text : List Char) :
    pointsBehind held (List.replicate count sentinel ++ text) = pointsBehind (held + count) text := by
  induction count generalizing held with
  | zero => rfl
  | succ count ih =>
    rw [List.replicate_succ, List.cons_append, pointsBehind, if_pos rfl, ih, Nat.add_right_comm,
      Nat.add_assoc]

theorem spellBehind_replicate (held count : Nat) (text : List Point) :
    spellBehind held (List.replicate count (.char sentinel) ++ text) =
      spellBehind (held + count) text := by
  induction count generalizing held with
  | zero => rfl
  | succ count ih =>
    rw [List.replicate_succ, List.cons_append, spellBehind, if_pos rfl, ih, Nat.add_right_comm,
      Nat.add_assoc]

theorem points_spellBehind (held : Nat) (text : List Point) :
    points (spellBehind held text) = List.replicate held (.char sentinel) ++ text := by
  have run (count : Nat) (rest : List Char) :
      points (List.replicate count sentinel ++ rest) = pointsBehind count rest := by
    rw [points, pointsBehind_replicate, Nat.zero_add]
  induction text generalizing held with
  | nil => simpa [spellBehind, pointsBehind] using run held []
  | cons point text ih =>
    have later : pointsBehind 0 (spellBehind 0 text) = text := ih 0
    cases point with
    | half h =>
      rw [spellBehind, run, pointsBehind, if_neg (holder_ne_sentinel h), heldBy?_holder]
      simp only [later]
      rw [if_pos (by omega), show (2 * held + 1) / 2 = held by omega]
    | char c =>
      rw [spellBehind]
      split
      · rename_i same
        rw [ih, List.replicate_succ', List.append_assoc, same]
        rfl
      · rename_i other
        cases found : heldBy? c with
        | some h =>
          rw [Option.isSome_some, if_pos rfl, run, pointsBehind, if_neg other, found]
          simp only [later]
          rw [if_neg (by omega), Nat.mul_div_cancel_left held (by decide)]
        | none =>
          rw [Option.isSome_none, if_neg Bool.false_ne_true, run, pointsBehind, if_neg other, found]
          simp only [later]

theorem spell_pointsBehind (held : Nat) (text : List Char) :
    spell (pointsBehind held text) = List.replicate held sentinel ++ text := by
  have run (count : Nat) (rest : List Point) :
      spell (List.replicate count (.char sentinel) ++ rest) = spellBehind count rest := by
    rw [spell, spellBehind_replicate, Nat.zero_add]
  induction text generalizing held with
  | nil => simpa [spellBehind, pointsBehind] using run held []
  | cons c text ih =>
    have later : spellBehind 0 (pointsBehind 0 text) = text := ih 0
    rw [pointsBehind]
    split
    · rename_i same
      rw [ih, List.replicate_succ', List.append_assoc, same]
      rfl
    · rename_i other
      cases found : heldBy? c with
      | none =>
        simp only [run]
        rw [spellBehind, if_neg other, found, Option.isSome_none, if_neg Bool.false_ne_true, later]
      | some h =>
        simp only [run]
        split
        · rename_i odd
          rw [spellBehind, later, holder_of_heldBy? found, show 2 * (held / 2) + 1 = held by omega]
        · rename_i even
          rw [spellBehind, if_neg other, found, Option.isSome_some, if_pos rfl, later,
            show 2 * (held / 2) = held by omega]

@[simp] theorem points_spell (text : List Point) : points (spell text) = text :=
  points_spellBehind 0 text

@[simp] theorem spell_points (text : List Char) : spell (points text) = text :=
  spell_pointsBehind 0 text

@[simp] theorem points_toList_ofPoints (text : List Point) :
    points (ofPoints text).toList = text := by
  rw [ofPoints, String.toList_ofList, points_spell]

theorem whole?_map_char (text : List Char) : whole? (text.map .char) = some text := by
  induction text with
  | nil => rfl
  | cons c text ih =>
    rw [whole?] at ih
    rw [whole?, List.map_cons, List.mapM_cons, ih]
    rfl

theorem eq_map_char_of_whole? {text : List Point} {whole : List Char}
    (found : whole? text = some whole) : text = whole.map .char := by
  induction text generalizing whole with
  | nil =>
    cases found
    rfl
  | cons p text ih =>
    cases p with
    | half h => cases found
    | char c =>
      rw [whole?, List.mapM_cons] at found
      cases rest : text.mapM Point.char? with
      | none =>
        rw [rest] at found
        cases found
      | some others =>
        rw [rest] at found
        cases found
        exact congrArg (Point.char c :: ·) (ih rest)

theorem points_injective {s t : List Char} (same : points s = points t) : s = t := by
  rw [← spell_points s, same, spell_points]

theorem Point.code_injective {p q : Point} (same : p.code = q.code) : p = q := by
  have apart (c : Char) (h : Half) : c.toNat ≠ h.unit := by
    have valid : c.toNat < 0xD800 ∨ 0xDFFF < c.toNat ∧ c.toNat < 0x110000 := c.valid
    have bounds := h.bounds
    omega
  cases p with
  | char c =>
    cases q with
    | char d => exact congrArg Point.char (Char.toNat_inj.mp same)
    | half h => exact absurd same (apart c h)
  | half h =>
    cases q with
    | char d => exact absurd same.symm (apart d h)
    | half other =>
      obtain ⟨unit, isHalf⟩ := h
      obtain rfl : unit = other.unit := same
      rfl

theorem codes_injective {a b : String} (same : codes a = codes b) : a = b := by
  have texts : points a.toList = points b.toList :=
    (List.map_inj_right fun _ _ => Point.code_injective).mp same
  exact String.toList_inj.mp (points_injective texts)

end SourceSimilarity.Text
