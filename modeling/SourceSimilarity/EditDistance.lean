namespace SourceSimilarity

/-- The score of a pair that lacks what is needed to compare it: the largest of 32 bits. -/
def incomparable : Nat := 2147483647

def saturated : Nat := incomparable - 1

namespace EditDistance

variable {α : Type} [DecidableEq α]

/-- The row after an item of the first sequence, given the row before it. `diagonal` and `left` are
the entries before the ones that follow. -/
def advanceRow (item : α) (diagonal left : Nat) : List α → List Nat → List Nat
  | other :: others, above :: row =>
    let entry := min (min (above + 1) (left + 1)) (diagonal + if item = other then 0 else 1)
    entry :: advanceRow item above entry others row
  | _, _ => []

def nextRow (b : List α) (row : List Nat) (item : α) : List Nat :=
  match row with
  | [] => []
  | first :: rest => (first + 1) :: advanceRow item first (first + 1) b rest

def distance (a b : List α) : Nat :=
  (a.foldl (nextRow b) (List.range (b.length + 1))).getLastD 0

inductive Warning where
  | input (items : Nat)
  | result (distance : Nat)
deriving DecidableEq, Repr

def Warning.message : Warning → String
  | .input items => s!"Edit distance input of {items} items exceeds the score range"
  | .result distance => s!"Edit distance {distance} saturated to {saturated}"

/-- A distance that stays below the limit, with the warning that it was cut. A sequence as long as
the limit is not looked at. -/
def limitedBy (longest : Nat) (distance : Unit → Nat) : Nat × Option Warning :=
  if longest ≥ saturated then (saturated, some (.input longest))
  else
    let d := distance ()
    if d ≥ saturated then (saturated, some (.result d)) else (d, none)

def countable : Nat := 9223372036854775807

/-- The limited distance of operands that are longer than can be held; none where the items of one
cannot even be counted. -/
def countedBy? (longest : Nat) (distance : Unit → Nat) : Option (Nat × Option Warning) :=
  if longest ≤ countable then some (limitedBy longest distance) else none

def limited (a b : List α) : Nat × Option Warning :=
  limitedBy (max a.length b.length) fun _ => distance a b

end EditDistance

end SourceSimilarity
