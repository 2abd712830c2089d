import SourceSimilarity.CommandLine.Option
import SourceSimilarity.Text.Digit

/-!
The words of a command line. A word is an operand or an option. An option is known by its spelling,
by the start of a long spelling that no other option shares, or by its letter with a value attached.
All words after a separator are operands.
-/

namespace SourceSimilarity

inductive Operand where
  | value (text : String)
  | separator
deriving DecidableEq, Repr

def Operand.text : Operand → String
  | .value text => text
  | .separator => "--"

inductive OptionWord where
  | known (option : CommandOption) (isLetter : Bool) (attached : Option String)
  | unknown (text : String)
deriving DecidableEq, Repr

inductive Word where
  | operand (operand : Operand)
  | option (option : OptionWord)
deriving DecidableEq, Repr

structure AmbiguousWord where
  word : String
  candidates : List String
deriving DecidableEq, Repr

namespace Word

def splitAtEquals (text : List Char) : List Char × Option (List Char) :=
  match text.dropWhile (· != '=') with
  | _ :: rest => (text.takeWhile (· != '='), some rest)
  | [] => (text, none)

/-- Whether a text is one minus with digits of any script behind it, among which one point may stand
before the last. A line feed may follow. -/
def isNegativeNumber (text : List Char) : Bool :=
  let line := if text.getLast? = some '\n' then text.dropLast else text
  match line with
  | '-' :: unsigned =>
    let rest := unsigned.dropWhile Text.isDigit
    match rest with
    | [] => !unsigned.isEmpty
    | '.' :: places => !places.isEmpty && places.all Text.isDigit
    | _ => false
  | _ => false

/-- Whether a word with a dash is an operand after all: it is a negative number or holds a blank. -/
def isOperandDespiteDash (text : List Char) : Bool := isNegativeNumber text || text.contains ' '

def isLetterSpelling (spelling : List Char) : Bool := spelling[1]? != some '-'

def longCandidates (start : String) : List String :=
  (CommandOption.all.flatMap (·.spellings)).filter fun spelling =>
    start.toList.isPrefixOf spelling.toList

/-- A word of two dashes that is no spelling: of the part before the equals sign, if there is one,
exactly one spelling has to be the continuation. -/
def ofLongStart (word : String) : Except AmbiguousWord (Option OptionWord) :=
  let (start, attached) := splitAtEquals word.toList
  match longCandidates (String.ofList start) with
  | [] => .ok none
  | [spelling] =>
    .ok ((CommandOption.ofSpelling? spelling).map fun found =>
      .known found false (attached.map String.ofList))
  | candidates => .error ⟨word, candidates⟩

/-- A word of one dash that is no spelling: a letter with a value attached to it. -/
def ofLetter (word : String) : Option OptionWord :=
  match word.toList with
  | dash :: letter :: attached =>
    (CommandOption.ofSpelling? (String.ofList [dash, letter])).map fun found =>
      .known found true (some (String.ofList attached))
  | _ => none

def ofSpelling (word : String) : Option OptionWord :=
  match CommandOption.ofSpelling? word, splitAtEquals word.toList with
  | some found, _ => some (.known found (isLetterSpelling word.toList) none)
  | none, (spelling, some attached) =>
    (CommandOption.ofSpelling? (String.ofList spelling)).map fun found =>
      .known found (isLetterSpelling spelling) (some (String.ofList attached))
  | none, (_, none) => none

def read (word : String) : Except AmbiguousWord Word :=
  match word.toList with
  | '-' :: second :: _ =>
    match ofSpelling word with
    | some found => .ok (.option found)
    | none => do
      match ← if second = '-' then ofLongStart word else pure (ofLetter word) with
      | some found => pure (.option found)
      | none =>
        if isOperandDespiteDash word.toList then pure (.operand (.value word))
        else pure (.option (.unknown word))
  | _ => .ok (.operand (.value word))

def readAll : List String → Except AmbiguousWord (List Word)
  | [] => .ok []
  | word :: words =>
    if word = "--" then
      .ok (.operand .separator :: words.map fun word => .operand (.value word))
    else do
      let first ← read word
      pure (first :: (← readAll words))

end Word

end SourceSimilarity
