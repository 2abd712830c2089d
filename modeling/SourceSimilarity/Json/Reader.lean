import SourceSimilarity.Json.Value
import SourceSimilarity.Limits
import SourceSimilarity.Text.Digit
import SourceSimilarity.Text.Hex
import SourceSimilarity.Text.Point

/-!
Reading JSON text. The grammar is the usual one with the three numbers `NaN`, `Infinity` and
`-Infinity` added. Of a text that is not JSON the first fault is reported with its place.

The functions work on the characters that are left and return what they read with the characters
left after it. A fault is placed by how many are left where it
lies, so that only `read` needs to know the whole text. Each value takes at least one character;
`fuel` bounds the number of values and the length of the text is enough. Containers are read up to a
depth: `room` is how many may still be opened within one another.
-/

namespace SourceSimilarity.Json

open Decimal (Number)

inductive Problem where
  | value
  | name
  | colon
  | comma
  | unterminated
  | control
  | escape
  | unicodeEscape
  | extra
  | byteOrderMark
deriving DecidableEq, Repr

def Problem.text : Problem → String
  | .value => "Expecting value"
  | .name => "Expecting property name enclosed in double quotes"
  | .colon => "Expecting ':' delimiter"
  | .comma => "Expecting ',' delimiter"
  | .unterminated => "Unterminated string starting at"
  | .control => "Invalid control character at"
  | .escape => "Invalid \\escape"
  | .unicodeEscape => "Invalid \\uXXXX escape"
  | .extra => "Extra data"
  | .byteOrderMark => "Unexpected UTF-8 BOM (decode using utf-8-sig)"

/-- A fault while reading: a problem with the number of characters left at its place, a whole number
with more digits than are taken, or more containers within one another than are opened. -/
inductive Fault where
  | at (problem : Problem) (left : Nat)
  | integerTooLong
  | tooDeep
deriving DecidableEq, Repr

def skip (text : List Char) : List Char :=
  text.dropWhile fun c => c == ' ' || c == '\t' || c == '\n' || c == '\r'

def hexFour? (a b c d : Char) : Option Nat := do
  let a ← Text.hexValue? a
  let b ← Text.hexValue? b
  let c ← Text.hexValue? c
  let d ← Text.hexValue? d
  pure (((a * 16 + b) * 16 + c) * 16 + d)

def simpleEscape? : Char → Option Char
  | '"' => some '"'
  | '\\' => some '\\'
  | '/' => some '/'
  | 'b' => some '\x08'
  | 'f' => some '\x0c'
  | 'n' => some '\n'
  | 'r' => some '\r'
  | 't' => some '\t'
  | _ => none

def pairChar (high low : Nat) : Char :=
  Char.ofNat (0x10000 + (high - 0xD800) * 0x400 + (low - 0xDC00))

/-- Reads a string after its opening quote, where `opening` is the text from the quote on. An
escape of four digits needs a character after it. A high surrogate joins a low one that follows as
an escape of its own with a character after it; any other surrogate stands alone. -/
def stringBody (opening : List Char) (read : List Text.Point) :
    List Char → Except Fault (List Text.Point × List Char)
  | [] => .error (.at .unterminated opening.length)
  | '"' :: rest => .ok (read.reverse, rest)
  | '\\' :: 'u' :: a :: b :: c :: d :: next :: rest =>
    match hexFour? a b c d with
    | none => .error (.at .unicodeEscape (rest.length + 6))
    | some n =>
      if 0xD800 ≤ n ∧ n < 0xDC00 then
        match next, rest with
        | '\\', 'u' :: a :: b :: c :: d :: last :: tail =>
          match hexFour? a b c d with
          | none => .error (.at .unicodeEscape (tail.length + 6))
          | some low =>
            if 0xDC00 ≤ low ∧ low < 0xE000 then
              stringBody opening (.char (pairChar n low) :: read) (last :: tail)
            else
              stringBody opening (Text.pointOf n :: read)
                ('\\' :: 'u' :: a :: b :: c :: d :: last :: tail)
        | next, rest => stringBody opening (Text.pointOf n :: read) (next :: rest)
      else stringBody opening (Text.pointOf n :: read) (next :: rest)
  | '\\' :: 'u' :: rest => .error (.at .unicodeEscape (rest.length + 1))
  | ['\\'] => .error (.at .unterminated opening.length)
  | '\\' :: c :: rest =>
    match simpleEscape? c with
    | some c => stringBody opening (.char c :: read) rest
    | none => .error (.at .escape (rest.length + 2))
  | c :: rest =>
    if c.val < 0x20 then .error (.at .control (rest.length + 1))
    else stringBody opening (.char c :: read) rest
termination_by text => text.length

def takeDigits (text : List Char) : List Char × List Char :=
  (text.takeWhile Char.isDigit, text.dropWhile Char.isDigit)

def digitsValue (digits : List Char) : Nat :=
  digits.foldl (fun n c => 10 * n + (c.toNat - 48)) 0

def takeFraction : List Char → List Char × List Char
  | '.' :: rest =>
    if (takeDigits rest).1.isEmpty then ([], '.' :: rest) else takeDigits rest
  | text => ([], text)

def takeExponent (text : List Char) : Option (Int × List Char) :=
  let afterSign (sign : Int) (rest : List Char) : Option (Int × List Char) :=
    if (takeDigits rest).1.isEmpty then none
    else some (sign * digitsValue (takeDigits rest).1, (takeDigits rest).2)
  let afterLetter : List Char → Option (Int × List Char)
    | '+' :: rest => afterSign 1 rest
    | '-' :: rest => afterSign (-1) rest
    | rest => afterSign 1 rest
  match text with
  | 'e' :: rest => afterLetter rest
  | 'E' :: rest => afterLetter rest
  | _ => none

/-- Reads a number. The whole part is zero or does not start with zero. -/
def number (text : List Char) : Except Fault (Value × List Char) :=
  let (negative, unsigned) := match text with
    | '-' :: rest => (true, rest)
    | text => (false, text)
  let (whole, rest) := match unsigned with
    | '0' :: rest => (['0'], rest)
    | text => takeDigits text
  if whole.isEmpty then .error (.at .value text.length)
  else
    let (fraction, rest) := takeFraction rest
    match takeExponent rest with
    | some (exponent, rest) =>
      let x := Decimal.floatOfDecimal negative (digitsValue (whole ++ fraction))
        (exponent - fraction.length)
      .ok (.number (.float x), rest)
    | none =>
      if fraction.isEmpty then
        if whole.length > Text.digitLimit then .error .integerTooLong
        else
          let n : Int := digitsValue whole
          .ok (.whole (if negative then -n else n), rest)
      else
        let x := Decimal.floatOfDecimal negative (digitsValue (whole ++ fraction))
          (-(fraction.length : Int))
        .ok (.number (.float x), rest)

mutual

def value : Nat → Nat → List Char → Except Fault (Value × List Char)
  | 0, _, text => .error (.at .value text.length)
  | fuel + 1, room, text =>
    match text with
    | '"' :: rest => do
      let (s, rest) ← stringBody text [] rest
      pure (.string (Text.ofPoints s), rest)
    | '{' :: rest =>
      match room, skip rest with
      | 0, _ => .error .tooDeep
      | _, '}' :: rest => .ok (.object [], rest)
      | room + 1, rest => do
        let (fields, rest) ← members fuel room rest
        pure (.object (fieldsOf fields), rest)
    | '[' :: rest =>
      match room, skip rest with
      | 0, _ => .error .tooDeep
      | _, ']' :: rest => .ok (.array [], rest)
      | room + 1, rest => do
        let (items, rest) ← elements fuel room rest
        pure (.array items, rest)
    | 'n' :: 'u' :: 'l' :: 'l' :: rest => .ok (.null, rest)
    | 't' :: 'r' :: 'u' :: 'e' :: rest => .ok (.bool true, rest)
    | 'f' :: 'a' :: 'l' :: 's' :: 'e' :: rest => .ok (.bool false, rest)
    | 'N' :: 'a' :: 'N' :: rest => .ok (.number (.float (0.0 / 0.0)), rest)
    | 'I' :: 'n' :: 'f' :: 'i' :: 'n' :: 'i' :: 't' :: 'y' :: rest =>
      .ok (.number (.float (1.0 / 0.0)), rest)
    | '-' :: 'I' :: 'n' :: 'f' :: 'i' :: 'n' :: 'i' :: 't' :: 'y' :: rest =>
      .ok (.number (.float (-1.0 / 0.0)), rest)
    | text => number text

def elements : Nat → Nat → List Char → Except Fault (List Value × List Char)
  | 0, _, text => .error (.at .value text.length)
  | fuel + 1, room, text => do
    let (item, rest) ← value fuel room text
    match skip rest with
    | ']' :: rest => pure ([item], rest)
    | ',' :: rest => do
      let (items, rest) ← elements fuel room (skip rest)
      pure (item :: items, rest)
    | rest => .error (.at .comma rest.length)

def members : Nat → Nat → List Char → Except Fault (List (String × Value) × List Char)
  | 0, _, text => .error (.at .name text.length)
  | fuel + 1, room, text =>
    match text with
    | '"' :: rest => do
      let (name, rest) ← stringBody text [] rest
      match skip rest with
      | ':' :: rest => do
        let (item, rest) ← value fuel room (skip rest)
        match skip rest with
        | '}' :: rest => pure ([(Text.ofPoints name, item)], rest)
        | ',' :: rest => do
          let (fields, rest) ← members fuel room (skip rest)
          pure ((Text.ofPoints name, item) :: fields, rest)
        | rest => .error (.at .comma rest.length)
      | rest => .error (.at .colon rest.length)
    | text => .error (.at .name text.length)

end

def document (room : Nat) (text : List Char) : Except Fault Value :=
  if text.head? = some (Char.ofNat 0xFEFF) then .error (.at .byteOrderMark text.length)
  else
    match value (text.length + 1) room (skip text) with
    | .error fault => .error fault
    | .ok (v, rest) =>
      if (skip rest).isEmpty then .ok v else .error (.at .extra (skip rest).length)

inductive ReadError where
  | malformed (problem : Problem) (line column offset : Nat)
  | integerTooLong
  | tooDeep
deriving DecidableEq, Repr

def ReadError.message : ReadError → String
  | .malformed problem line column offset =>
    s!"{problem.text}: line {line} column {column} (char {offset})"
  | .integerTooLong => "Exceeds the limit for whole numbers"
  | .tooDeep => "Exceeds the limit for containers within one another"

/-- Reads JSON text. Lines and columns count from one, the offset from zero. -/
def read (text : String) (limits : Limits := {}) : Except ReadError Value :=
  let chars := text.toList
  match document limits.containers chars with
  | .ok v => .ok v
  | .error .integerTooLong => .error .integerTooLong
  | .error .tooDeep => .error .tooDeep
  | .error (.at problem left) =>
    let offset := chars.length - left
    let before := chars.take offset
    let line := before.count '\n' + 1
    let column := (before.reverse.takeWhile (· != '\n')).length + 1
    .error (.malformed problem line column offset)

end SourceSimilarity.Json
