import SourceSimilarity.Text.Utf8

namespace SourceSimilarity.Text

def hexPadded (width n : Nat) : List Char :=
  let digits := Nat.toDigits 16 n
  List.replicate (width - digits.length) '0' ++ digits

def hexValue? (c : Char) : Option Nat :=
  if '0' ≤ c ∧ c ≤ '9' then some (c.toNat - 48)
  else if 'a' ≤ c ∧ c ≤ 'f' then some (c.toNat - 87)
  else if 'A' ≤ c ∧ c ≤ 'F' then some (c.toNat - 55)
  else none

def hex (bytes : Bytes) : List Char := bytes.flatMap fun byte => hexPadded 2 byte.toNat

def ofHex? : List Char → Option Bytes
  | [] => some []
  | [_] => none
  | high :: low :: rest => do
    let byte := UInt8.ofNat ((← hexValue? high) * 16 + (← hexValue? low))
    pure (byte :: (← ofHex? rest))

end SourceSimilarity.Text
