import SourceSimilarity.Score.Table
import SourceSimilarity.Text.Utf8
import SourceSimilarity.Text.Quoted

/-!
Score tables as bytes. Each of the comparators that are saved has a section: the byte zero where it
has no scores, else the byte one and four bytes for each score, the highest first. What follows the
sections is not read.
-/

namespace SourceSimilarity

namespace Score

def toBytes (score : Score) : Bytes :=
  let n := score.toUInt32.toNat
  [UInt8.ofNat (n / 16777216), UInt8.ofNat (n / 65536 % 256), UInt8.ofNat (n / 256 % 256),
    UInt8.ofNat (n % 256)]

def ofBytes (a b c d : UInt8) : Score :=
  (UInt32.ofNat (((a.toNat * 256 + b.toNat) * 256 + c.toNat) * 256 + d.toNat)).toInt32

def listOfBytes : Bytes → List Score
  | a :: b :: c :: d :: rest => ofBytes a b c d :: listOfBytes rest
  | _ => []

theorem listOfBytes_length (count : Nat) (bytes : Bytes) (long : bytes.length = 4 * count) :
    (listOfBytes bytes).length = count := by
  induction count generalizing bytes with
  | zero =>
    have empty : bytes = [] := List.length_eq_zero_iff.1 (by omega)
    simp [empty, listOfBytes]
  | succ count shorter =>
    match bytes, long with
    | a :: b :: c :: d :: rest, long =>
      have restLong : rest.length = 4 * count := by simp at long; omega
      simp [listOfBytes, shorter rest restLong]
    | [], long | [_], long | [_, _], long | [_, _, _], long => simp at long <;> omega

end Score

inductive StreamError where
  | missingSection (comparator : Comparator)
  | invalidFlag (comparator : Comparator) (flag : UInt8)
  | truncated (comparator : Comparator) (expected found : Nat)
deriving DecidableEq, Repr

def StreamError.message : StreamError → String
  | .missingSection comparator => s!"Stream ends before the {comparator.title} section"
  | .invalidFlag comparator flag =>
    let digits := String.ofList (Text.hexPadded 2 flag.toNat)
    s!"Invalid flag 0x{digits} for the {comparator.title} section"
  | .truncated comparator expected found =>
    s!"{comparator.title} section truncated: expected {expected} bytes, got {found}"

namespace ScoreTable

variable {pairs : Nat}

def sectionOf (scores : Option (Vector Score pairs)) : Bytes :=
  match scores with
  | none => [0]
  | some scores => 1 :: scores.toList.flatMap Score.toBytes

/-- A table as bytes, with more bytes behind it. Comparators without a section are left out. -/
def save (table : ScoreTable pairs) (rest : Bytes) : Bytes :=
  Comparator.saved.flatMap (fun comparator => sectionOf (table.get? comparator)) ++ rest

def readSection (pairs : Nat) (comparator : Comparator) (bytes : Bytes) :
    Except StreamError (Option (Vector Score pairs) × Bytes) :=
  match bytes with
  | [] => .error (.missingSection comparator)
  | flag :: bytes =>
    if flag = 0 then .ok (none, bytes)
    else if flag = 1 then
      let data := bytes.take (4 * pairs)
      if long : data.length = 4 * pairs then
        let scores : Vector Score pairs :=
          ⟨(Score.listOfBytes data).toArray, by simp [Score.listOfBytes_length pairs data long]⟩
        .ok (some scores, bytes.drop (4 * pairs))
      else .error (.truncated comparator (4 * pairs) data.length)
    else .error (.invalidFlag comparator flag)

def readSections (pairs : Nat) (table : ScoreTable pairs) (bytes : Bytes) :
    List Comparator → Except StreamError (ScoreTable pairs × Bytes)
  | [] => .ok (table, bytes)
  | comparator :: comparators =>
    match readSection pairs comparator bytes with
    | .error e => .error e
    | .ok (none, rest) => readSections pairs table rest comparators
    | .ok (some scores, rest) =>
      readSections pairs (table.insert comparator scores) rest comparators

def load (pairs : Nat) (bytes : Bytes) : Except StreamError (ScoreTable pairs × Bytes) :=
  readSections pairs .empty bytes Comparator.saved

end ScoreTable

end SourceSimilarity
