import SourceSimilarity.Pattern.RegexError

namespace SourceSimilarity.Pattern

/-- A mark: one character, or a backslash and one character. -/
abbrev Mark := List Text.Point

/-- A place in the text of an expression: its position and what stands from there on. -/
structure Cursor where
  position : Nat
  rest : List Text.Point

namespace Cursor

def peek (cursor : Cursor) : Option Mark :=
  match cursor.rest with
  | [] => none
  | '\\' :: c :: _ => some ['\\', c]
  | c :: _ => some [c]

/-- The place behind some characters. What stands there is looked at once: a backslash with nothing
behind it is refused. -/
def advance (cursor : Cursor) (count : Nat) : Except RegexError Cursor :=
  let next : Cursor := ⟨cursor.position + count, cursor.rest.drop count⟩
  if next.rest = [.char '\\'] then .error (.malformed .escapeAtEnd next.position) else .ok next

def ofText (pattern : List Text.Point) : Except RegexError Cursor := advance ⟨0, pattern⟩ 0

def take (cursor : Cursor) : Except RegexError (Option Mark × Cursor) :=
  match cursor.peek with
  | none => .ok (none, cursor)
  | some mark => do pure (some mark, ← cursor.advance mark.length)

def accept (cursor : Cursor) (c : Char) : Except RegexError (Bool × Cursor) :=
  if cursor.peek = some [.char c] then do pure (true, ← cursor.advance 1) else .ok (false, cursor)

def takeWhile (cursor : Cursor) (kind : Char → Bool) : Nat → Except RegexError (List Char × Cursor)
  | 0 => .ok ([], cursor)
  | count + 1 =>
    match cursor.peek with
    | some [.char c] =>
      if kind c then do
        let (chars, final) ← takeWhile (← cursor.advance 1) kind count
        pure (c :: chars, final)
      else .ok ([], cursor)
    | _ => .ok ([], cursor)

/-- Takes marks up to one, which is taken as well; false if the text ends before. -/
def skipTo (cursor : Cursor) (stop : Mark) : Nat → Except RegexError (List Mark × Bool × Cursor)
  | 0 => .ok ([], false, cursor)
  | fuel + 1 =>
    match cursor.peek with
    | none => .ok ([], false, cursor)
    | some mark => do
      let next ← cursor.advance mark.length
      if mark = stop then pure ([], true, next)
      else
        let (marks, found, final) ← skipTo next stop fuel
        pure (mark :: marks, found, final)

def fault (cursor : Cursor) (fault : RegexFault) (back : Nat) : RegexError :=
  .malformed fault (cursor.position - back)

def takeName (cursor : Cursor) (kind : NameKind) (terminator : Char) :
    Except RegexError (List Text.Point × Cursor) := do
  let (marks, closed, cursor) ← cursor.skipTo [terminator] cursor.rest.length
  let name := marks.flatten
  if name.isEmpty then throw (cursor.fault (.missingName kind) (if closed then 1 else 0))
  if !closed then throw (cursor.fault (.unterminatedName terminator) name.length)
  pure (name, cursor)

end Cursor

end SourceSimilarity.Pattern
