import SourceSimilarity.Text.Utf8
import SourceSimilarity.Text.Utf16
import Mathlib.Order.Basic
import Mathlib.Algebra.Group.Nat.Defs
import Mathlib.Tactic.SplitIfs

namespace SourceSimilarity.Text

theorem Point.length_units_le (p : Point) : p.units.length ≤ 2 := by
  rw [Point.units]
  split
  · exact Nat.le_succ 1
  · exact Nat.le_refl 2

theorem Point.length_units_of_lt {p : Point} (small : p.code < 0x10000) : p.units.length = 1 := by
  rw [Point.units, if_pos small, List.length_singleton]

theorem toNat_ofNat_le (n : Nat) : (Char.ofNat n).toNat ≤ n := by
  by_cases valid : n.isValidChar
  · rw [Char.ofNat, dif_pos valid]
    exact Nat.le_refl n
  · rw [Char.ofNat, dif_neg valid]
    exact Nat.zero_le n

theorem readFollowing_scalar {bits : Nat} {ranges : List (UInt8 × UInt8)} {bytes rest : Bytes}
    {c : Char} (read : readFollowing bits ranges bytes = (.scalar c, rest)) :
    c.toNat < (bits + 1) * 64 ^ ranges.length ∧ rest.length + ranges.length = bytes.length := by
  induction ranges generalizing bits bytes with
  | nil =>
      obtain ⟨scalar, rfl⟩ := Prod.mk.inj read
      obtain rfl := Chunk.scalar.inj scalar
      have small := toNat_ofNat_le bits
      simp only [List.length_nil, Nat.pow_zero, Nat.mul_one]
      omega
  | cons range ranges ih =>
      obtain ⟨low, high⟩ := range
      cases bytes with
      | nil => cases read
      | cons byte bytes =>
          rw [readFollowing] at read
          split at read
          · obtain ⟨small, length⟩ := ih read
            have six : byte.toNat % 64 < 64 := Nat.mod_lt _ (by decide)
            have wider : bits * 64 + byte.toNat % 64 + 1 ≤ (bits + 1) * 64 := by omega
            refine ⟨Nat.lt_of_lt_of_le small ?_, by rw [List.length_cons, List.length_cons]; omega⟩
            rw [List.length_cons, Nat.pow_succ, Nat.mul_comm (64 ^ ranges.length),
              ← Nat.mul_assoc]
            exact Nat.mul_le_mul_right _ wider
          · cases read

theorem announced_small {lead : UInt8} {bits : Nat} {ranges : List (UInt8 × UInt8)}
    (found : announced lead = some (bits, ranges)) (few : ranges.length ≤ 2) :
    (bits + 1) * 64 ^ ranges.length ≤ 0x10000 := by
  simp only [announced] at found
  split_ifs at found <;>
    simp only [Option.some.injEq, Prod.mk.injEq] at found <;>
    obtain ⟨rfl, rfl⟩ := found <;> simp only [List.length_cons, List.length_nil] at few ⊢ <;> omega

theorem nextChunk_units {lead : UInt8} {bytes rest : Bytes} {c : Char}
    (next : nextChunk lead bytes = (.scalar c, rest)) :
    (Point.char c).units.length + rest.length ≤ bytes.length + 1 := by
  rw [nextChunk] at next
  split at next
  · cases next
  · rename_i bits ranges found
    obtain ⟨small, length⟩ := readFollowing_scalar next
    by_cases few : ranges.length ≤ 2
    · rw [Point.length_units_of_lt (Nat.lt_of_lt_of_le small (announced_small found few))]
      omega
    · have two := Point.length_units_le (.char c)
      omega

theorem length_units16_decodeReplacing_le (bytes : Bytes) :
    (units16 ((decodeReplacing bytes).map .char)).length ≤ bytes.length := by
  induction size : bytes.length using Nat.strongRecOn generalizing bytes with
  | _ size ih =>
      cases bytes with
      | nil =>
          rw [decodeReplacing, chunks]
          exact Nat.zero_le _
      | cons lead bytes =>
          rw [List.length_cons] at size
          have shorter := nextChunk_length_le lead bytes
          cases next : nextChunk lead bytes with
          | mk chunk rest =>
              rw [next] at shorter
              dsimp only at shorter
              have later := ih rest.length (by omega) rest rfl
              rw [decodeReplacing] at later
              rw [decodeReplacing, chunks, next, List.map_cons, List.map_cons, units16,
                List.flatMap_cons, List.length_append, ← units16]
              cases chunk with
              | scalar c =>
                  have own := nextChunk_units next
                  dsimp only
                  omega
              | broken =>
                  have one : (Point.char replacementChar).units.length = 1 := by decide
                  dsimp only
                  omega

end SourceSimilarity.Text
