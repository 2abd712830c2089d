import SourceSimilarity.Pattern.CharSet

/-!
Regular expressions and the texts they match. A text matches when it is used up as a whole. Matching
follows all ways at once, as the list of the trails they have left, in the order in which an
expression prefers them; the order counts only where the first way is the only one that is taken.
-/

namespace SourceSimilarity.Pattern

inductive Anchor where
  | textStart
  | lineStart
  | textEnd
  | lineEnd
  | finalLineEnd
  | wordEdge (asciiOnly : Bool)
  | noWordEdge (asciiOnly : Bool)
deriving DecidableEq, Repr

/-- A regular expression. `repeated` has no upper bound where none is given, and prefers few rounds
if it is lazy. `atomic` takes the first way only, and so does `look`, which uses up nothing: it
starts at a distance behind the position and wants no match if it is negative. `reference` matches
the text of a group again, `conditional` depends on whether there is one. -/
inductive Regex where
  | empty
  | one (set : CharSet)
  | anchor (condition : Anchor)
  | seq (first second : Regex)
  | either (first second : Regex)
  | repeated (least : Nat) (most : Option Nat) (isLazy : Bool) (body : Regex)
  | atomic (body : Regex)
  | look (distance : Nat) (negative : Bool) (body : Regex)
  | group (number : Nat) (body : Regex)
  | reference (fold : CaseFold) (number : Nat)
  | conditional (number : Nat) (yes no : Regex)
deriving Repr

def isWordAt (asciiOnly : Bool) (text : Array Text.Point) (position : Nat) : Bool :=
  text[position]?.any fun p => CharClass.word.contains asciiOnly p

def isWordEdge (asciiOnly : Bool) (text : Array Text.Point) (position : Nat) : Bool :=
  (position != 0 && isWordAt asciiOnly text (position - 1)) != isWordAt asciiOnly text position

def Anchor.holds (text : Array Text.Point) (position : Nat) : Anchor → Bool
  | .textStart => position == 0
  | .lineStart => position == 0 || text[position - 1]? == some (.char '\n')
  | .textEnd => position == text.size
  | .lineEnd => position == text.size || text[position]? == some (.char '\n')
  | .finalLineEnd =>
    position == text.size || (position + 1 == text.size && text[position]? == some (.char '\n'))
  | .wordEdge asciiOnly => isWordEdge asciiOnly text position
  | .noWordEdge asciiOnly => text.size != 0 && !isWordEdge asciiOnly text position

/-- How far matching has come: the position, and where groups were entered and left last, by the
number of the group. -/
structure Trail where
  position : Nat
  entered : List (Nat × Nat) := []
  left : List (Nat × Nat) := []
deriving DecidableEq, Repr

def setPlace (number place : Nat) : List (Nat × Nat) → List (Nat × Nat)
  | [] => [(number, place)]
  | (other, known) :: rest =>
    if other = number then (number, place) :: rest
    else (other, known) :: setPlace number place rest

namespace Trail

def enter (number : Nat) (trail : Trail) : Trail :=
  { trail with entered := setPlace number trail.position trail.entered }

def leave (number : Nat) (trail : Trail) : Trail :=
  { trail with left := setPlace number trail.position trail.left }

/-- The extent of the text of a group. A group that was entered again has none until it is left
behind that place. -/
def extent? (number : Nat) (trail : Trail) : Option (Nat × Nat) := do
  let start ← trail.entered.lookup number
  let stop ← trail.left.lookup number
  if start ≤ stop then some (start, stop) else none

/-- The trail behind the text of a group, if that stands at the position once more. -/
def again? (text : Array Text.Point) (fold : CaseFold) (number : Nat) (trail : Trail) :
    Option Trail := do
  let (start, stop) ← trail.extent? number
  let next := trail.position + (stop - start)
  let lower (first last : Nat) : List Text.Point := (text.extract first last).toList.map fold.lower
  if next ≤ text.size && lower start stop == lower trail.position next then
    some { trail with position := next }
  else none

end Trail

/-- What a walk through the rounds of a repetition has come to: the trails it has been on, each with
the rounds before it, and those it has ended with, the latest in front. -/
structure Walk where
  seen : List (Nat × Trail) := []
  ended : List Trail := []

namespace Walk

def finish (walk : Walk) (trail : Trail) : Walk :=
  if walk.ended.contains trail then walk else { walk with ended := trail :: walk.ended }

/-- Walks on through the rounds. Where there have been enough of them, a round that does not move on
is the last. Without an upper bound the rounds beyond `least` are not counted. A trail that was on
the walk before leads to nothing new. -/
def go (step : Trail → List Trail) (least : Nat) (most : Option Nat) (isLazy : Bool) :
    Nat → Nat → Trail → Walk → Walk
  | 0, _, _, walk => walk
  | fuel + 1, round, trail, walk =>
    if walk.seen.contains (round, trail) then walk
    else
      let walk := { walk with seen := (round, trail) :: walk.seen }
      let next := if most.isSome then round + 1 else min (round + 1) least
      let deeper (walk : Walk) : Walk := (step trail).foldl (fun walk reached =>
        if least ≤ round && reached.position == trail.position then walk.finish reached
        else go step least most isLazy fuel next reached walk) walk
      if round < least then deeper walk
      else if most.any (· ≤ round) then walk.finish trail
      else if isLazy then deeper (walk.finish trail)
      else (deeper walk).finish trail

end Walk

/-- The trails that repeating a step leads to. A step never goes back, so that repeating it more
often than the text has positions reaches nothing new. -/
def repeatStep (step : Trail → List Trail) (size least : Nat) (most : Option Nat) (isLazy : Bool)
    (trails : List Trail) : List Trail :=
  let enough := min least (size + 1)
  let bound := most.map fun most => enough + min (most - least) (size + 1)
  let walk := trails.foldl (fun walk trail =>
    Walk.go step enough bound isLazy (enough + size + 2) 0 trail walk) ({} : Walk)
  walk.ended.reverse

/-- The trails that matching leads to from these ones, each once. -/
def Regex.follow (text : Array Text.Point) : Regex → List Trail → List Trail
  | .empty, trails => trails
  | .one set, trails =>
    (trails.filter fun trail => text[trail.position]?.any set.contains).map fun trail =>
      { trail with position := trail.position + 1 }
  | .anchor condition, trails => trails.filter fun trail => condition.holds text trail.position
  | .seq first second, trails => follow text second (follow text first trails)
  | .either first second, trails =>
    (trails.flatMap fun trail => follow text first [trail] ++ follow text second [trail]).eraseDups
  | .repeated least most isLazy body, trails =>
    repeatStep (fun trail => follow text body [trail]) text.size least most isLazy trails
  | .atomic body, trails =>
    (trails.filterMap fun trail => (follow text body [trail]).head?).eraseDups
  | .look distance negative body, trails =>
    let first? (trail : Trail) : Option Trail :=
      if trail.position < distance then none
      else (follow text body [{ trail with position := trail.position - distance }]).head?
    if negative then trails.filter fun trail => (first? trail).isNone
    else (trails.filterMap fun trail =>
      (first? trail).map fun found => { found with position := trail.position }).eraseDups
  | .group number body, trails =>
    ((follow text body (trails.map (Trail.enter number))).map (Trail.leave number)).eraseDups
  | .reference fold number, trails =>
    (trails.filterMap (Trail.again? text fold number)).eraseDups
  | .conditional number yes no, trails =>
    (trails.flatMap fun trail =>
      if (trail.extent? number).isSome then follow text yes [trail]
      else follow text no [trail]).eraseDups

def Regex.isMatch (regex : Regex) (text : List Text.Point) : Bool :=
  (regex.follow text.toArray [{ position := 0 }]).any fun trail => trail.position == text.length

end SourceSimilarity.Pattern
