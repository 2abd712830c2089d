import SourceSimilarity.Json.Value
import SourceSimilarity.Text.Utf16
import SourceSimilarity.Text.Quoted

namespace SourceSimilarity.Json

open Decimal (Number)

def numberSpelling : Decimal.Spelling := ⟨"NaN", "Infinity"⟩

def unitEscape (unit : Nat) : List Char := '\\' :: 'u' :: Text.hexPadded 4 unit

def escapeChar (c : Char) : List Char :=
  if c == '"' then ['\\', '"']
  else if c == '\\' then ['\\', '\\']
  else if c == '\n' then ['\\', 'n']
  else if c == '\r' then ['\\', 'r']
  else if c == '\t' then ['\\', 't']
  else if c == '\x0c' then ['\\', 'f']
  else if c == '\x08' then ['\\', 'b']
  else if ' ' ≤ c && c ≤ '~' then [c]
  else (Text.Point.char c).units.flatMap unitEscape

def escapePoint : Text.Point → List Char
  | .char c => escapeChar c
  | .half h => unitEscape h.unit

def writeString (s : String) : List Char :=
  '"' :: (Text.points s.toList).flatMap escapePoint ++ ['"']

structure Style where
  comma : List Char
  colon : List Char

def Style.spaced : Style := ⟨[',', ' '], [':', ' ']⟩

def Style.compact : Style := ⟨[','], [':']⟩

def writeAtom : Value → List Char
  | .null => "null".toList
  | .bool true => "true".toList
  | .bool false => "false".toList
  | .number n => (n.text numberSpelling).toList
  | .string s => writeString s
  | .array _ => "[]".toList
  | .object _ => ['{', '}']

mutual

def Value.write (style : Style) : Value → List Char
  | .array items => '[' :: writeItems style items ++ [']']
  | .object fields => '{' :: writeFields style fields ++ ['}']
  | v => writeAtom v

def writeItems (style : Style) : List Value → List Char
  | [] => []
  | [item] => item.write style
  | item :: items => item.write style ++ style.comma ++ writeItems style items

def writeFields (style : Style) : List (String × Value) → List Char
  | [] => []
  | [(name, item)] => writeString name ++ style.colon ++ item.write style
  | (name, item) :: fields =>
    writeString name ++ style.colon ++ item.write style ++ style.comma ++ writeFields style fields

end

def newLine (depth : Nat) : List Char := '\n' :: List.replicate (2 * depth) ' '

mutual

/-- A value spread over lines, two blanks deeper for each container around it. -/
def Value.writeLines (depth : Nat) : Value → List Char
  | .array [] => ['[', ']']
  | .array (item :: items) =>
    '[' :: newLine (depth + 1) ++ item.writeLines (depth + 1) ++ writeItemLines (depth + 1) items
      ++ newLine depth ++ [']']
  | .object [] => ['{', '}']
  | .object ((name, item) :: fields) =>
    '{' :: newLine (depth + 1) ++ writeString name ++ [':', ' '] ++ item.writeLines (depth + 1)
      ++ writeFieldLines (depth + 1) fields ++ newLine depth ++ ['}']
  | v => writeAtom v

def writeItemLines (depth : Nat) : List Value → List Char
  | [] => []
  | item :: items =>
    ',' :: newLine depth ++ item.writeLines depth ++ writeItemLines depth items

def writeFieldLines (depth : Nat) : List (String × Value) → List Char
  | [] => []
  | (name, item) :: fields =>
    ',' :: newLine depth ++ writeString name ++ [':', ' '] ++ item.writeLines depth
      ++ writeFieldLines depth fields

end

end SourceSimilarity.Json
