namespace SourceSimilarity

abbrev Bytes := List UInt8

namespace Text

inductive Chunk where
  | scalar (c : Char)
  | broken
deriving DecidableEq, Repr

/-- What a first byte announces: the bits it holds itself, and for each byte that has to follow the
range it must lie in. The ranges leave out overlong forms, surrogates and numbers above U+10FFFF. -/
def announced (lead : UInt8) : Option (Nat × List (UInt8 × UInt8)) :=
  let n := lead.toNat
  if n < 0x80 then some (n, [])
  else if n < 0xC2 then none
  else if n < 0xE0 then some (n - 0xC0, [(0x80, 0xBF)])
  else if n = 0xE0 then some (0, [(0xA0, 0xBF), (0x80, 0xBF)])
  else if n = 0xED then some (0xD, [(0x80, 0x9F), (0x80, 0xBF)])
  else if n < 0xF0 then some (n - 0xE0, [(0x80, 0xBF), (0x80, 0xBF)])
  else if n = 0xF0 then some (0, [(0x90, 0xBF), (0x80, 0xBF), (0x80, 0xBF)])
  else if n < 0xF4 then some (n - 0xF0, [(0x80, 0xBF), (0x80, 0xBF), (0x80, 0xBF)])
  else if n = 0xF4 then some (4, [(0x80, 0x8F), (0x80, 0xBF), (0x80, 0xBF)])
  else none

def readFollowing (bits : Nat) : List (UInt8 × UInt8) → Bytes → Chunk × Bytes
  | [], rest => (.scalar (Char.ofNat bits), rest)
  | _ :: _, [] => (.broken, [])
  | (low, high) :: ranges, byte :: rest =>
    if low ≤ byte && byte ≤ high then readFollowing (bits * 64 + byte.toNat % 64) ranges rest
    else (.broken, byte :: rest)

def nextChunk (lead : UInt8) (rest : Bytes) : Chunk × Bytes :=
  match announced lead with
  | none => (.broken, rest)
  | some (bits, ranges) => readFollowing bits ranges rest

theorem readFollowing_length_le (bits : Nat) (ranges : List (UInt8 × UInt8)) (bytes : Bytes) :
    (readFollowing bits ranges bytes).2.length ≤ bytes.length := by
  induction ranges generalizing bits bytes with
  | nil => simp [readFollowing]
  | cons range ranges ih =>
    cases bytes with
    | nil => simp [readFollowing]
    | cons byte rest =>
      simp only [readFollowing]
      split
      · exact Nat.le_trans (ih _ _) (Nat.le_succ _)
      · exact Nat.le_refl _

theorem nextChunk_length_le (lead : UInt8) (rest : Bytes) :
    (nextChunk lead rest).2.length ≤ rest.length := by
  unfold nextChunk
  split
  · exact Nat.le_refl _
  · exact readFollowing_length_le _ _ _

def chunks : Bytes → List Chunk
  | [] => []
  | lead :: rest => (nextChunk lead rest).1 :: chunks (nextChunk lead rest).2
termination_by bytes => bytes.length
decreasing_by exact Nat.lt_succ_of_le (nextChunk_length_le lead rest)

def replacementChar : Char := Char.ofNat 0xFFFD

/-- Reads bytes for display: every broken part is shown as U+FFFD. -/
def decodeReplacing (bytes : Bytes) : List Char :=
  (chunks bytes).map fun
    | .scalar c => c
    | .broken => replacementChar

def decode? (bytes : Bytes) : Option (List Char) :=
  (chunks bytes).mapM fun
    | .scalar c => some c
    | .broken => none

def encode (text : List Char) : Bytes := text.flatMap String.utf8EncodeChar

@[simp] theorem encode_nil : encode [] = [] := rfl

end Text

end SourceSimilarity
