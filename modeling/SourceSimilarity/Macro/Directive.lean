import SourceSimilarity.Macro.Lexeme
import SourceSimilarity.Text.Blank

namespace SourceSimilarity.Macro

open Text (isBlank isWordChar stripStart strip)

/-- The recorded macros: names with their replacements, in the order of the first definitions. -/
abbrev Definitions := List (List Char × List Char)

/-- Records a definition: in place where the name is known, else at the end. -/
def define (name replacement : List Char) : Definitions → Definitions
  | [] => [(name, replacement)]
  | (other, old) :: rest =>
    if other = name then (name, replacement) :: rest
    else (other, old) :: define name replacement rest

def Definitions.ofList (written : List (List Char × List Char)) : Definitions :=
  written.foldl (fun definitions pair => define pair.1 pair.2 definitions) []

/-- Joins a line that ends in a backslash with the next one. The end of a line may have a carriage
return before it. -/
def joinContinuations : List Char → List Char
  | '\\' :: '\n' :: rest => joinContinuations rest
  | '\\' :: '\r' :: '\n' :: rest => joinContinuations rest
  | c :: rest => c :: joinContinuations rest
  | [] => []

def isDirective (line : List Char) : Bool := (stripStart line).head? == some '#'

def dropWord? (word text : List Char) : Option (List Char) :=
  if word.isPrefixOf text then some (text.drop word.length) else none

/-- Replaces every comment of a line by a blank, wherever it stands: quotes have no meaning here. A
comment that is not closed stays. -/
def blankComments : List Char → List Char
  | [] => []
  | '/' :: '/' :: rest => ' ' :: blankComments (rest.dropWhile (· != '\n'))
  | '/' :: '*' :: rest =>
    match _closed : commentBody rest with
    | some (_, after) => ' ' :: blankComments after
    | none => '/' :: blankComments ('*' :: rest)
  | c :: rest => c :: blankComments rest
termination_by text => text.length
decreasing_by
  · have := (List.dropWhile_sublist (· != '\n') (l := rest)).length_le
    simp only [List.length_cons]
    omega
  · have := congrArg List.length (commentBody_append (by assumption))
    simp only [List.length_append, List.length_cons] at *
    omega
  · simp
  · simp

def definition? (line : List Char) : Option (List Char × List Char) := do
  let hash ← dropWord? ['#'] (stripStart line)
  let keyword ← dropWord? "define".toList (stripStart hash)
  let start := stripStart keyword
  if keyword.length = start.length then none
  else
    match start with
    | [] => none
    | c :: rest =>
      if startsIdentifier c then
        let after := rest.dropWhile isWordChar
        if after.head? = some '(' then none
        else some (c :: rest.takeWhile isWordChar, strip (blankComments after))
      else none

def stripLine (line : List Char) : List Char := if isDirective line then [] else line

def definitionsOf (lines : List (List Char)) : Definitions :=
  Definitions.ofList ((lines.filter isDirective).filterMap definition?)

def linesOf (text : List Char) : List (List Char) := text.splitOn '\n'

def stripDirectives (text : List Char) : List Char × Definitions :=
  let lines := linesOf text
  (['\n'].intercalate (lines.map stripLine), definitionsOf lines)

end SourceSimilarity.Macro
