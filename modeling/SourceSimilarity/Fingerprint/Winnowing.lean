/-!
Robust winnowing. Every window of `w` consecutive hashes has to be represented by its minimum. A
window keeps the minimum recorded before it as long as that lies inside the window and still is the
minimum; otherwise its rightmost minimum is recorded. Fewer than `w` hashes form one window.
-/

namespace SourceSimilarity.Fingerprint

structure Selection where
  position : Nat
  hash : Int
deriving DecidableEq, Repr

/-- The windows of a sequence from left to right: one for each place where `w` hashes follow, and
the whole sequence if it is shorter. -/
def windows (w : Nat) : List Int → List (List Int)
  | [] => []
  | hash :: rest =>
    (hash :: rest).take w :: if (rest.drop (w - 1)).isEmpty then [] else windows w rest

/-- The rightmost minimum of a window that starts at a position. -/
def rightmostMin? (start : Nat) : List Int → Option Selection
  | [] => none
  | hash :: rest =>
    match rightmostMin? (start + 1) rest with
    | none => some ⟨start, hash⟩
    | some best => if best.hash ≤ hash then some best else some ⟨start, hash⟩

/-- Whether a recorded minimum represents the window that starts at a position and has this
rightmost minimum. -/
def Selection.serves (held : Selection) (start : Nat) (lowest : Selection) : Bool :=
  start ≤ held.position && held.hash == lowest.hash

/-- The minima recorded over the windows from a position on, with the one recorded last. -/
def recordFrom (start : Nat) (held : Option Selection) : List (List Int) → List Selection
  | [] => []
  | window :: later =>
    match rightmostMin? start window with
    | none => recordFrom (start + 1) held later
    | some lowest =>
      if held.any (·.serves start lowest) then recordFrom (start + 1) held later
      else lowest :: recordFrom (start + 1) (some lowest) later

def selections (w : Nat) (hashes : List Int) : List Selection :=
  recordFrom 0 none (windows w hashes)

def winnow (w : Nat) (hashes : List Int) : List Int := (selections w hashes).map (·.hash)

end SourceSimilarity.Fingerprint
