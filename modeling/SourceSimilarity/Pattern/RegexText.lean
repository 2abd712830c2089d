import SourceSimilarity.Limits
import SourceSimilarity.Pattern.Escape
import SourceSimilarity.Pattern.Expression
import SourceSimilarity.Text.WholeNumber

/-!
Regular expressions from their text. Open groups are kept on a stack, each with its alternatives so
far. A reference to a group asks that the group is closed, while a condition may name a group that
is still to come.
-/

namespace SourceSimilarity.Pattern

inductive GroupKind where
  | numbered (group : Nat)
  | scoped (on off : List RegexOption)
  | atomic
  | ahead (negative : Bool)
  | behind (negative : Bool) (around : Option Nat)
  | conditional (group : Nat)

/-- A group that is open: the position of its parenthesis, what it is for, whether it is spread out,
the alternatives that are complete and the items of the last one, the latest in front. -/
structure OpenGroup where
  opening : Nat := 0
  kind : GroupKind := .scoped [] []
  isVerbose : Bool := false
  alternatives : List (List Expression) := []
  items : List Expression := []

namespace OpenGroup

def sequence (group : OpenGroup) : List Expression :=
  group.items.reverse.flatMap Expression.unpacked

def branches (group : OpenGroup) : List (List Expression) :=
  (group.sequence :: group.alternatives).reverse

def body (group : OpenGroup) : Expression := .sequence (Expression.ofAlternatives group.branches)

def nextAlternative (group : OpenGroup) : OpenGroup :=
  { group with alternatives := group.sequence :: group.alternatives, items := [] }

def add (group : OpenGroup) (item : Expression) : OpenGroup :=
  { group with items := item :: group.items }

def isSecondBranch (group : OpenGroup) : Bool :=
  match group.kind with
  | .conditional _ => !group.alternatives.isEmpty
  | _ => false

end OpenGroup

structure Written where
  body : Expression
  options : List RegexOption
  referenced : List Nat

/-- How far an expression is read: the innermost open group, those around it, the options for the
whole, the number of groups that were opened, their names, the widths of those that are closed, how
many there were before the outermost look behind, the groups that are referred to, and those that
were only promised, each with the position of the promise. -/
structure Reading where
  cursor : Cursor
  group : OpenGroup := {}
  outer : List OpenGroup := []
  options : List RegexOption := []
  groups : Nat := 0
  names : List (String × Nat) := []
  closed : List (Nat × Width) := []
  behind : Option Nat := none
  referenced : List Nat := []
  promised : List (Nat × Nat) := []
  limits : Limits := {}

namespace Reading

/-- The least number of repetitions that is too large. -/
def repeatLimit : Nat := 4294967295

def groupLimit : Nat := 1073741823

def readFrom (reading : Reading) (cursor : Cursor) : Reading := { reading with cursor }

def add (reading : Reading) (item : Expression) : Reading :=
  { reading with group := reading.group.add item }

def nextAlternative (reading : Reading) : Reading :=
  { reading with group := reading.group.nextAlternative }

/-- Repeats the last item. `sign` is the position of what asks for it. -/
def repeatLast (reading : Reading) (sign least : Nat) (most : Option Nat) :
    Except RegexError Reading := do
  match reading.group.items with
  | [] | .anchor _ :: _ => throw (.malformed .nothingToRepeat sign)
  | .repeated _ _ _ _ :: _ => throw (.malformed .multipleRepeat sign)
  | last :: items =>
    let (isLazy, cursor) ← reading.cursor.accept '?'
    let (isPossessive, cursor) ← if isLazy then pure (false, cursor) else cursor.accept '+'
    let manner := if isLazy then .lazy else if isPossessive then .possessive else .greedy
    let item := Expression.repeated least most manner (.sequence last.unpacked)
    pure { reading with cursor, group := { reading.group with items := item :: items } }

def repeatCount (digits : List Char) : Except RegexError (Option Nat) :=
  if digits.isEmpty then .ok none
  else if Text.digitLimit < digits.length then .error .numberTooLong
  else
    let count := valueOf 10 digits
    if repeatLimit ≤ count then .error .numberTooLarge else .ok (some count)

/-- Reads the numbers of repetitions between braces. Braces that hold anything else stand for
themselves. -/
def readBraces (reading : Reading) : Except RegexError Reading := do
  let start := reading.cursor
  let literal := reading.add (.point 0x7b false)
  if start.peek = some [.char (Char.ofNat 0x7d)] then pure literal
  else
    let length := start.rest.length
    let (low, cursor) ← start.takeWhile Char.isDigit length
    let (comma, cursor) ← cursor.accept ','
    let (high, cursor) ← if comma then cursor.takeWhile Char.isDigit length else pure (low, cursor)
    let (closed, cursor) ← cursor.accept (Char.ofNat 0x7d)
    if !closed then pure literal
    else
      let least := (← repeatCount low).getD 0
      let most ← repeatCount high
      if most.any (· < least) then throw (.malformed .repeatBounds start.position)
      (reading.readFrom cursor).repeatLast (start.position - 1) least most

def openGroup (reading : Reading) (opening : Nat) (kind : GroupKind) : Except RegexError Reading :=
  if reading.limits.groups ≤ reading.outer.length then .error .tooDeep
  else
    let isVerbose := match kind with
      | .scoped on off =>
        (reading.group.isVerbose || on.contains .verbose) && !off.contains .verbose
      | _ => reading.group.isVerbose
    .ok { reading with
      group := { opening, kind, isVerbose }
      outer := reading.group :: reading.outer }

def openNumbered (reading : Reading) (opening : Nat) : Except RegexError Reading :=
  let group := reading.groups + 1
  openGroup { reading with groups := group } opening (.numbered group)

def openBehind (reading : Reading) (opening : Nat) (negative : Bool) :
    Except RegexError Reading :=
  let around := reading.behind
  openGroup { reading with behind := around <|> some reading.groups } opening
    (.behind negative around)

def readName (reading : Reading) (terminator : Char) : Except RegexError (String × Reading) := do
  let (name, cursor) ← reading.cursor.takeName .group terminator
  let shown := Text.ofPoints name
  if !(Text.whole? name).any Text.isIdentifier then
    throw (cursor.fault (.nameCharacter shown) (name.length + 1))
  pure (shown, reading.readFrom cursor)

def openNamed (reading : Reading) (opening : Nat) : Except RegexError Reading := do
  let (name, reading) ← reading.readName '>'
  let group := reading.groups + 1
  match reading.names.lookup name with
  | some former =>
    throw (reading.cursor.fault (.nameTaken name group former) (name.length + 1))
  | none => openNumbered { reading with names := (name, group) :: reading.names } opening

def named (reading : Reading) (name : String) : Except RegexError Nat :=
  match reading.names.lookup name with
  | some group => .ok group
  | none => .error (reading.cursor.fault (.unknownName name) (name.length + 1))

def checkBehind (reading : Reading) (group : Nat) : Except RegexError Unit :=
  match reading.behind with
  | none => .ok ()
  | some before =>
    if (reading.closed.lookup group).isNone then .error (reading.cursor.fault .openReference 0)
    else if before < group then .error (reading.cursor.fault .innerReference 0)
    else .ok ()

def addReference (reading : Reading) (group back : Nat) : Except RegexError Reading :=
  match reading.closed.lookup group with
  | none => .error (reading.cursor.fault .openReference back)
  | some width => do
    reading.checkBehind group
    pure ({ reading with referenced := group :: reading.referenced }.add (.reference group width))

def readNamedReference (reading : Reading) : Except RegexError Reading := do
  let (name, reading) ← reading.readName ')'
  reading.addReference (← reading.named name) (name.length + 1)

/-- Reads a reference to a group, or the octal number of a character. -/
def readReference (reading : Reading) (first : Char) : Except RegexError Reading := do
  let (more, cursor) ← reading.cursor.takeWhile Char.isDigit 1
  let digits := first :: more
  let (last, octal) ← match digits, cursor.peek with
    | [a, b], some [.char c] =>
      if isOctal a && isOctal b && isOctal c then do
        let cursor ← cursor.advance 1
        pure (cursor, some (digits ++ [c]))
      else pure (cursor, none)
    | _, _ => pure (cursor, none)
  match octal with
  | some digits =>
    let (point, cursor) ← octalEscape digits last
    pure ((reading.readFrom cursor).add (.point point false))
  | none =>
    let number := valueOf 10 digits
    if number ≤ reading.groups then
      (reading.readFrom last).addReference number (digits.length + 1)
    else throw (last.fault (.invalidReference number) digits.length)

def conditionGroup (reading : Reading) (name : List Text.Point) : Except RegexError (Nat × Reading) := do
  let back := name.length + 1
  let cursor := reading.cursor
  if (Text.whole? name).any Text.isIdentifier then
    pure (← reading.named (Text.ofPoints name), reading)
  else
    match (Text.whole? name).bind Text.wholeNumber? with
    | some (.ofNat group) =>
      if group = 0 then throw (cursor.fault .badNumber back)
      if groupLimit ≤ group then throw (cursor.fault (.invalidReference group) back)
      pure (group, { reading with
        promised := reading.promised ++ [(group, cursor.position - back)] })
    | _ => throw (cursor.fault (.nameCharacter (Text.ofPoints name)) back)

def openConditional (reading : Reading) (opening : Nat) : Except RegexError Reading := do
  let (name, cursor) ← reading.cursor.takeName .group ')'
  let (group, reading) ← (reading.readFrom cursor).conditionGroup name
  reading.checkBehind group
  openGroup { reading with referenced := group :: reading.referenced } opening (.conditional group)

/-- Turns on options for the whole expression, which is possible only in front of it. -/
def applyWhole (reading : Reading) (opening : Nat) (on : List RegexOption) :
    Except RegexError Reading :=
  if reading.outer.isEmpty && reading.group.alternatives.isEmpty && reading.group.items.isEmpty then
    let options := reading.options ++ on
    .ok { reading with
      options, group := { reading.group with isVerbose := options.contains .verbose } }
  else .error (.malformed .lateFlags opening)

def readOptions (reading : Reading) (mark : Mark) :
    Except RegexError (Option (OptionScope × Cursor)) := do
  let cursor := reading.cursor
  let length := cursor.rest.length + 1
  match mark with
  | ['-'] =>
    let (mark, cursor) ← cursor.take
    pure (some (← readOff [] .missingFlag [] mark cursor length))
  | [.char c] =>
    if isOptionLetter c then pure (some (← readOn [] c cursor length)) else pure none
  | _ => pure none

def readNamed (reading : Reading) (opening : Nat) : Except RegexError Reading := do
  let (named, cursor) ← reading.cursor.accept '<'
  if named then (reading.readFrom cursor).openNamed opening
  else
    let (mark, cursor) ← cursor.take
    match mark with
    | none => throw (cursor.fault .unexpectedEnd 0)
    | some ['='] => (reading.readFrom cursor).readNamedReference
    | some mark => throw (cursor.fault (.unknownExtension (.char 'P' :: mark)) (mark.length + 2))

def readExtension (reading : Reading) (opening : Nat) : Except RegexError Reading := do
  let (mark, cursor) ← reading.cursor.take
  let reading := reading.readFrom cursor
  let some mark := mark | throw (cursor.fault .unexpectedEnd 0)
  match mark with
  | ['P'] => reading.readNamed opening
  | [':'] => reading.openGroup opening (.scoped [] [])
  | ['>'] => reading.openGroup opening .atomic
  | ['='] => reading.openGroup opening (.ahead false)
  | ['!'] => reading.openGroup opening (.ahead true)
  | ['('] => reading.openConditional opening
  | ['#'] =>
    let (_, closed, cursor) ← cursor.skipTo [')'] cursor.rest.length
    if closed then pure (reading.readFrom cursor)
    else throw (.malformed .unterminatedComment opening)
  | ['<'] =>
    let (mark, cursor) ← cursor.take
    match mark with
    | none => throw (cursor.fault .unexpectedEnd 0)
    | some ['='] => (reading.readFrom cursor).openBehind opening false
    | some ['!'] => (reading.readFrom cursor).openBehind opening true
    | some mark => throw (cursor.fault (.unknownExtension (.char '<' :: mark)) (mark.length + 2))
  | mark =>
    match ← reading.readOptions mark with
    | none => throw (cursor.fault (.unknownExtension mark) (mark.length + 1))
    | some (.whole on, cursor) => (reading.readFrom cursor).applyWhole opening on
    | some (.group on off, cursor) => (reading.readFrom cursor).openGroup opening (.scoped on off)

def closedItem (group : OpenGroup) : Expression :=
  match group.kind with
  | .numbered number => .group (some number) [] [] group.body
  | .scoped on off => .group none on off group.body
  | .atomic => .atomic group.body
  | .ahead negative => .look false negative group.body
  | .behind negative _ => .look true negative group.body
  | .conditional number =>
    match group.branches with
    | [yes, no] => .conditional number (.sequence yes) (.sequence no)
    | branches => .conditional number (.sequence branches.flatten) (.sequence [])

def close (reading : Reading) (around : OpenGroup) (outer : List OpenGroup) : Reading :=
  let group := reading.group
  let closed := { reading with group := around.add (closedItem group), outer }
  match group.kind with
  | .numbered number => { closed with closed := (number, group.body.width) :: closed.closed }
  | .behind _ around => { closed with behind := around }
  | _ => closed

def readEscape (reading : Reading) (c : Char) : Except RegexError Reading := do
  match c with
  | 'A' => pure (reading.add (.anchor .textStart))
  | 'Z' => pure (reading.add (.anchor .textStop))
  | 'b' => pure (reading.add (.anchor .wordEdge))
  | 'B' => pure (reading.add (.anchor .noWordEdge))
  | c =>
    match classOf? c, controlOf? c, numberEscape? c reading.cursor with
    | some code, _, _ => pure (reading.add (.set [code.item] false))
    | none, some point, _ => pure (reading.add (.point point false))
    | none, none, some number =>
      let (point, cursor) ← number
      pure ((reading.readFrom cursor).add (.point point false))
    | none, none, none =>
      if c = '0' then
        let (digits, cursor) ← reading.cursor.takeWhile isOctal 2
        pure ((reading.readFrom cursor).add (.point (valueOf 8 digits) false))
      else if c.isDigit then reading.readReference c
      else
        let (point, cursor) ← plainEscape c reading.cursor
        pure ((reading.readFrom cursor).add (.point point false))

def setExpression (items : List SetItem) (complement : Bool) : Expression :=
  match items.eraseDups with
  | [.point n] => .point n complement
  | items => .set items complement

def readMark (reading : Reading) (mark : Mark) (start : Nat) : Except RegexError Reading := do
  match mark with
  | ['\\', .char c] => reading.readEscape c
  | ['\\', .half h] => pure (reading.add (.point h.unit false))
  | ['['] =>
    let (complement, cursor) ← reading.cursor.accept '^'
    let (items, cursor) ← readSet start [] cursor (cursor.rest.length + 1)
    pure ((reading.readFrom cursor).add (setExpression items complement))
  | ['*'] => reading.repeatLast start 0 none
  | ['+'] => reading.repeatLast start 1 none
  | ['?'] => reading.repeatLast start 0 (some 1)
  | ['('] =>
    let (extended, cursor) ← reading.cursor.accept '?'
    if extended then (reading.readFrom cursor).readExtension start
    else reading.openNumbered start
  | ['^'] => pure (reading.add (.anchor .start))
  | ['$'] => pure (reading.add (.anchor .stop))
  | ['.'] => pure (reading.add .any)
  | [p] =>
    if p = .char (Char.ofNat 0x7b) then reading.readBraces
    else pure (reading.add (.point p.code false))
  | _ => throw .tooDeep

def isSpacing (mark : Mark) : Bool :=
  match mark with
  | [p] => p.code == 32 || (9 ≤ p.code && p.code ≤ 13)
  | _ => false

def checkOptions (reading : Reading) : Except RegexError Unit :=
  if reading.options.contains .ascii && reading.options.contains .unicode then
    .error .optionsClash
  else .ok ()

def written (reading : Reading) : Except RegexError Written := do
  reading.checkOptions
  match reading.promised.find? fun promise => reading.groups < promise.1 with
  | some (group, position) => throw (.malformed (.invalidReference group) position)
  | none => pure ⟨reading.group.body, reading.options, reading.referenced⟩

def finish (reading : Reading) : Nat → Except RegexError Written
  | 0 => .error .tooDeep
  | fuel + 1 =>
    let start := reading.cursor.position
    match reading.cursor.peek, reading.outer with
    | none, [] => reading.written
    | none, _ => .error (.malformed .unterminatedGroup reading.group.opening)
    | some [')'], [] => do
      reading.checkOptions
      throw (.malformed .unbalanced start)
    | some [')'], around :: outer => do
      let cursor ← reading.cursor.advance 1
      ((reading.readFrom cursor).close around outer).finish fuel
    | some mark, _ => do
      if mark = [.char '|'] && reading.group.isSecondBranch then
        throw (.malformed .thirdBranch start)
      let cursor ← reading.cursor.advance mark.length
      let taken := reading.readFrom cursor
      if mark = [.char '|'] then taken.nextAlternative.finish fuel
      else if reading.group.isVerbose && isSpacing mark then taken.finish fuel
      else if reading.group.isVerbose && mark = [.char '#'] then
        let (_, _, cursor) ← cursor.skipTo ['\n'] cursor.rest.length
        (taken.readFrom cursor).finish fuel
      else (← taken.readMark mark start).finish fuel

end Reading

def Written.ofText (pattern : List Text.Point) (limits : Limits := {}) :
    Except RegexError Written := do
  let cursor ← Cursor.ofText pattern
  { cursor, limits : Reading }.finish (pattern.length + 1)

end SourceSimilarity.Pattern
