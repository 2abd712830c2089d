import SourceSimilarity.Text.Utf8
import Mathlib.Data.List.Basic
import Mathlib.Order.Basic
import Mathlib.Tactic.SplitIfs

namespace SourceSimilarity.Text

def Plain (text : List Char) : Prop := ∀ c ∈ text, c.toNat < 0x80

theorem plain_of_all {text : List Char} (all : text.all (·.toNat < 0x80) = true) : Plain text := by
  simpa [Plain] using all

theorem Plain.append {s t : List Char} (first : Plain s) (second : Plain t) : Plain (s ++ t) := by
  intro c member
  rcases List.mem_append.mp member with inFirst | inSecond
  · exact first c inFirst
  · exact second c inSecond

theorem plain_nil : Plain [] := fun _ member => nomatch member

theorem Plain.cons {c : Char} (small : c.toNat < 0x80) {text : List Char} (plain : Plain text) :
    Plain (c :: text) := by
  intro d member
  rcases List.mem_cons.mp member with rfl | later
  · exact small
  · exact plain d later

theorem encode_cons_of_plain {c : Char} (plain : c.toNat < 0x80) (text : List Char) :
    encode (c :: text) = UInt8.ofNat c.toNat :: encode text := by
  have one : c.utf8Size = 1 := by
    rw [Char.utf8Size_eq_one_iff, UInt32.le_iff_toNat_le]
    exact Nat.le_of_lt_succ plain
  rw [encode, List.flatMap_cons, String.utf8EncodeChar_eq_singleton one]
  rfl

theorem toNat_lt_of_mem_encode {text : List Char} (plain : Plain text) {byte : UInt8}
    (member : byte ∈ encode text) : byte.toNat < 0x80 := by
  induction text with
  | nil => cases member
  | cons c text ih =>
      have small := plain c List.mem_cons_self
      rw [encode_cons_of_plain small] at member
      rcases List.mem_cons.mp member with rfl | later
      · rw [UInt8.toNat_ofNat']
        omega
      · exact ih (fun d inText => plain d (List.mem_cons_of_mem c inText)) later

theorem decode?_cons (lead : UInt8) (bytes : Bytes) :
    decode? (lead :: bytes) = match nextChunk lead bytes with
      | (.scalar c, after) => (decode? after).map (c :: ·)
      | (.broken, _) => none := by
  rw [decode?, chunks, List.mapM_cons]
  rcases nextChunk lead bytes with ⟨chunk, after⟩
  cases chunk with
  | broken => rfl
  | scalar c =>
      dsimp only [decode?, Option.bind_eq_bind, Option.bind_some, Option.pure_def]
      rw [Option.map_eq_bind]
      rfl

theorem decode?_cons_of_plain {c : Char} (plain : c.toNat < 0x80) (bytes : Bytes) :
    decode? (UInt8.ofNat c.toNat :: bytes) = (decode? bytes).map (c :: ·) := by
  have value : (UInt8.ofNat c.toNat).toNat = c.toNat := by
    rw [UInt8.toNat_ofNat']
    omega
  rw [decode?_cons]
  simp [nextChunk, announced, value, plain, readFollowing]

theorem decode?_encode_of_plain {text : List Char} (plain : Plain text) :
    decode? (encode text) = some text := by
  induction text with
  | nil => rw [encode_nil, decode?, chunks]; rfl
  | cons c text ih =>
      have small := plain c List.mem_cons_self
      rw [encode_cons_of_plain small, decode?_cons_of_plain small,
        ih fun d inText => plain d (List.mem_cons_of_mem c inText)]
      rfl

/-- A character of several bytes does not reach into bytes below 0x80. -/
theorem readFollowing_append {bits : Nat} {ranges : List (UInt8 × UInt8)} {front after rest : Bytes}
    {c : Char} (high : ∀ range ∈ ranges, 0x80 ≤ range.1.toNat)
    (plain : ∀ byte ∈ after, byte.toNat < 0x80)
    (read : readFollowing bits ranges (front ++ after) = (.scalar c, rest)) :
    ∃ front', rest = front' ++ after ∧ front'.length ≤ front.length := by
  induction ranges generalizing bits front with
  | nil =>
      obtain ⟨-, rfl⟩ := Prod.mk.inj read
      exact ⟨front, rfl, Nat.le_refl _⟩
  | cons range ranges ih =>
      obtain ⟨low, top⟩ := range
      have highest : 0x80 ≤ low.toNat := high (low, top) List.mem_cons_self
      cases front with
      | nil =>
          cases after with
          | nil => cases read
          | cons byte after =>
              have small := plain byte List.mem_cons_self
              have outside : ¬low ≤ byte := by
                rw [UInt8.le_iff_toNat_le]
                omega
              simp [readFollowing, outside] at read
      | cons byte front =>
          rw [List.cons_append, readFollowing] at read
          split at read
          · obtain ⟨front', split, short⟩ :=
              ih (fun range member => high range (List.mem_cons_of_mem _ member)) read
            exact ⟨front', split, Nat.le_succ_of_le short⟩
          · cases read

theorem announced_high {lead : UInt8} {bits : Nat} {ranges : List (UInt8 × UInt8)}
    (found : announced lead = some (bits, ranges)) : ∀ range ∈ ranges, 0x80 ≤ range.1.toNat := by
  simp only [announced] at found
  split_ifs at found <;>
    simp only [Option.some.injEq, Prod.mk.injEq] at found <;>
    obtain ⟨-, rfl⟩ := found <;> simp

theorem nextChunk_append {lead : UInt8} {front after rest : Bytes} {c : Char}
    (plain : ∀ byte ∈ after, byte.toNat < 0x80)
    (read : nextChunk lead (front ++ after) = (.scalar c, rest)) :
    ∃ front', rest = front' ++ after ∧ front'.length ≤ front.length := by
  rw [nextChunk] at read
  cases found : announced lead with
  | none => rw [found] at read; cases read
  | some announcement =>
      rw [found] at read
      exact readFollowing_append (announced_high found) plain read

theorem decode?_append_encode {text : List Char} (plain : Plain text) (front : Bytes)
    {read : List Char} (decoded : decode? (front ++ encode text) = some read) :
    ∃ before, read = before ++ text := by
  have small : ∀ byte ∈ encode text, byte.toNat < 0x80 := fun _ => toNat_lt_of_mem_encode plain
  induction size : front.length using Nat.strongRecOn generalizing front read with
  | _ size ih =>
      cases front with
      | nil =>
          rw [List.nil_append, decode?_encode_of_plain plain] at decoded
          exact ⟨[], (Option.some.inj decoded).symm⟩
      | cons lead front =>
          rw [List.cons_append, decode?_cons] at decoded
          cases part : nextChunk lead (front ++ encode text) with
          | mk chunk rest =>
              rw [part] at decoded
              cases chunk with
              | broken => cases decoded
              | scalar c =>
                  obtain ⟨later, decodedLater, rfl⟩ := Option.map_eq_some_iff.mp decoded
                  obtain ⟨front', rfl, short⟩ := nextChunk_append small part
                  rw [List.length_cons] at size
                  obtain ⟨before, rfl⟩ := ih front'.length (by omega) front' decodedLater rfl
                  exact ⟨c :: before, rfl⟩

theorem suffix_of_decode? {text read : List Char} {bytes : Bytes} (plain : Plain text)
    (suffix : bytes <:+ encode text) (decoded : decode? bytes = some read) : read <:+ text := by
  induction text with
  | nil =>
      rw [encode_nil, List.suffix_nil] at suffix
      subst suffix
      rw [decode?, chunks] at decoded
      rw [← Option.some.inj decoded]
      exact List.suffix_rfl
  | cons c text ih =>
      have small := plain c List.mem_cons_self
      rw [encode_cons_of_plain small, List.suffix_cons_iff] at suffix
      rcases suffix with rfl | shorter
      · rw [← encode_cons_of_plain small, decode?_encode_of_plain plain] at decoded
        obtain rfl := Option.some.inj decoded
        exact List.suffix_rfl
      · exact (ih (fun d inText => plain d (List.mem_cons_of_mem c inText)) shorter).trans
          (List.suffix_cons c text)

theorem toNat_of_mem_utf8EncodeChar {c : Char} (high : 0x80 ≤ c.toNat) {byte : UInt8}
    (member : byte ∈ String.utf8EncodeChar c) : 0x80 ≤ byte.toNat := by
  have several : ¬c.val.toNat ≤ 127 := Nat.not_le.mpr high
  rw [String.utf8EncodeChar] at member
  simp only [if_neg several] at member
  split_ifs at member <;>
    simp only [List.mem_cons, List.not_mem_nil, or_false] at member <;>
    rcases member with rfl | rfl | rfl | rfl <;>
    rw [UInt8.toNat_ofNat'] <;> omega

theorem ofNat_eq_lineEnd_iff {c : Char} (small : c.toNat < 0x80) :
    UInt8.ofNat c.toNat = 10 ↔ c = '\n' := by
  constructor
  · intro same
    have value := congrArg UInt8.toNat same
    rw [UInt8.toNat_ofNat'] at value
    change c.toNat % 256 = 10 at value
    exact Char.toNat_inj.mp (by change c.toNat = 10; omega)
  · rintro rfl
    rfl

theorem count_encode (text : List Char) : (encode text).count 10 = text.count '\n' := by
  induction text with
  | nil => rfl
  | cons c text ih =>
      by_cases small : c.toNat < 0x80
      · rw [encode_cons_of_plain small, List.count_cons, List.count_cons, ih]
        simp only [beq_iff_eq, ofNat_eq_lineEnd_iff small]
      · have none : 10 ∉ String.utf8EncodeChar c := by
          intro member
          have high := toNat_of_mem_utf8EncodeChar (Nat.le_of_not_lt small) member
          exact absurd high (by decide)
        have other : '\n' ≠ c := by
          rintro rfl
          exact small (by decide)
        change (String.utf8EncodeChar c ++ encode text).count 10 = _
        rw [List.count_append, List.count_eq_zero_of_not_mem none, Nat.zero_add, ih,
          List.count_cons_of_ne other.symm]
end SourceSimilarity.Text
