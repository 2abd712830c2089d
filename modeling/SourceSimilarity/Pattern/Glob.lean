import SourceSimilarity.Pattern.Regex

/-!
File name patterns. A star stands for any text, a question mark for any character, and brackets for
a character of a set, or of none of it behind an exclamation mark. A hyphen between two characters
of a set stands for the range between them; a range that runs backwards has no members. Brackets
that are not closed stand for themselves.
-/

namespace SourceSimilarity.Pattern.Glob

/-- The text between brackets, whether it describes the complement, and what follows. The first
character of a set never closes it. -/
def bracketed? (text : List Text.Point) : Option (Bool × List Text.Point × List Text.Point) :=
  let complement := text.head? == some (.char '!')
  match if complement then text.tail else text with
  | [] => none
  | first :: rest =>
    match rest.dropWhile (· != .char ']') with
    | [] => none
    | _ :: after => some (complement, first :: rest.takeWhile (· != .char ']'), after)

/-- The text of a set cut at the hyphens that stand for ranges. Such a hyphen follows at least
`lead` characters: one at first, then the end of the range before and another one. A hyphen at the
end stands for itself. -/
def rangePieces (lead : Nat) (text : List Text.Point) : List (List Text.Point) :=
  match _tail : (text.drop lead).dropWhile (· != .char '-') with
  | [] => [text]
  | [_] => [text]
  | _ :: next :: after =>
    (text.take lead ++ (text.drop lead).takeWhile (· != .char '-')) :: rangePieces 2 (next :: after)
termination_by text.length
decreasing_by
  have shorter : ((text.drop lead).dropWhile (· != .char '-')).length ≤ (text.drop lead).length :=
    (List.dropWhile_sublist _).length_le
  simp_all
  omega

def dropBackward : List (List Text.Point) → List (List Text.Point)
  | [] => []
  | piece :: pieces =>
    match dropBackward pieces, piece.getLast? with
    | (first :: rest) :: others, some last =>
      if first.code < last.code then (piece.dropLast ++ rest) :: others
      else piece :: (first :: rest) :: others
    | others, _ => piece :: others

def itemsOf : List (List Text.Point) → List SetItem
  | [] => []
  | [piece] => piece.map fun p => .point p.code
  | piece :: next :: pieces =>
    let inner := piece.dropLast.map fun p => SetItem.point p.code
    match piece.getLast?, next.head? with
    | some first, some last =>
      inner ++ .range (first.code) (last.code) :: itemsOf (next :: pieces)
    | _, _ => inner ++ itemsOf (next :: pieces)

/-- The set of a text between brackets. An exclamation mark that comes to the front when a range is
taken out describes the complement as well, and a hyphen right behind it stands for itself. -/
def setOf (complement : Bool) (text : List Text.Point) : CharSet :=
  match complement, dropBackward (rangePieces 1 text) with
  | false, ['!'] :: piece :: pieces =>
    { items := .point '-'.toNat :: itemsOf (piece :: pieces), complement := true }
  | false, ('!' :: rest) :: pieces => { items := itemsOf (rest :: pieces), complement := true }
  | _, pieces => { items := itemsOf pieces, complement }

theorem bracketed?_length_lt {text inner after : List Text.Point} {complement : Bool}
    (found : bracketed? text = some (complement, inner, after)) : after.length < text.length := by
  simp only [bracketed?] at found
  split at found
  · simp at found
  · rename_i first rest opened
    split at found
    · simp at found
    · rename_i close after' closed
      simp only [Option.some.injEq, Prod.mk.injEq] at found
      obtain ⟨-, -, rfl⟩ := found
      have inside : (close :: after').length ≤ rest.length :=
        closed ▸ (List.dropWhile_sublist _).length_le
      have whole : (first :: rest).length ≤ text.length := by
        rw [← opened]
        split <;> simp
      simp at inside whole
      omega

def toRegex (pattern : List Text.Point) : Regex :=
  match pattern with
  | [] => .empty
  | '*' :: rest => .seq (.repeated 0 none false (.one .everything)) (toRegex rest)
  | '?' :: rest => .seq (.one .everything) (toRegex rest)
  | '[' :: rest =>
    match _set : bracketed? rest with
    | some (complement, inner, after) => .seq (.one (setOf complement inner)) (toRegex after)
    | none => .seq (.one { items := [.point '['.toNat] }) (toRegex rest)
  | p :: rest => .seq (.one { items := [.point p.code] }) (toRegex rest)
termination_by pattern.length
decreasing_by
  all_goals simp only [List.length_cons]
  all_goals try have := bracketed?_length_lt _set
  all_goals omega

def isMatch (pattern name : List Text.Point) : Bool := (toRegex pattern).isMatch name

end SourceSimilarity.Pattern.Glob
