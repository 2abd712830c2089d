import SourceSimilarity.CommandLine.Word
import SourceSimilarity.Comparator
import SourceSimilarity.Json.Value
import SourceSimilarity.Release
import SourceSimilarity.Text.Quoted
import SourceSimilarity.Text.WholeNumber

namespace SourceSimilarity

/-- What the command line says of an option with one value: nothing, the option without a value, or
the value. -/
inductive OptionValue (α : Type) where
  | absent
  | bare
  | given (value : α)
deriving DecidableEq, Repr

namespace OptionValue

variable {α β ε : Type}

def ofValues : List α → OptionValue α
  | [] => .bare
  | value :: _ => .given value

def read (f : α → Except ε β) : OptionValue α → Except ε (OptionValue β)
  | .absent => .ok .absent
  | .bare => .ok .bare
  | .given value => (f value).map .given

def json? (shown : α → Json.Value) : OptionValue α → Option Json.Value
  | .absent => none
  | .bare => some (.array [])
  | .given value => some (shown value)

def value? : OptionValue α → Option α
  | .given value => some value
  | _ => none

end OptionValue

structure Arguments where
  directories : List String := []
  name : OptionValue String := .absent
  regex : OptionValue String := .absent
  old : List String := []
  single : List String := []
  threads : OptionValue Int := .absent
  algorithms : OptionValue String := .absent
  normalizer : OptionValue Normalizer := .absent
  k : OptionValue Int := .absent
  w : OptionValue Int := .absent
  config : OptionValue String := .absent
  output : OptionValue String := .absent
  json : OptionValue String := .absent
  rankBy : OptionValue String := .absent
  save : OptionValue String := .absent
  load : OptionValue String := .absent
  limit : OptionValue Int := .given 10
  quiet : Bool := false
  debug : Bool := false
  noColor : Bool := false
deriving DecidableEq, Repr

inductive UsageError where
  | ambiguous (word : AmbiguousWord)
  | valueMissing (option : CommandOption)
  | valuesMissing (option : CommandOption)
  | valueIgnored (option : CommandOption) (value : String)
  | notANumber (option : CommandOption) (value : String)
  | notAChoice (option : CommandOption) (value : String)
  | rival (option other : CommandOption)
  | unrecognized (words : List String)
deriving DecidableEq, Repr

def UsageError.message : UsageError → String
  | .ambiguous e =>
    s!"ambiguous option: {e.word} could match " ++ ", ".intercalate e.candidates
  | .valueMissing option => s!"argument {option.label}: expected one argument"
  | .valuesMissing option => s!"argument {option.label}: expected at least one argument"
  | .valueIgnored option value =>
    s!"argument {option.label}: ignored explicit argument {Text.quoted value}"
  | .notANumber option value =>
    s!"argument {option.label}: invalid int value: {Text.quoted value}"
  | .notAChoice option value =>
    let choices := ", ".intercalate (Normalizer.all.map fun choice => Text.quoted choice.name)
    s!"argument {option.label}: invalid choice: {Text.quoted value} (choose from {choices})"
  | .rival option other =>
    s!"argument {option.label}: not allowed with argument {other.label}"
  | .unrecognized words => "unrecognized arguments: " ++ " ".intercalate words

def UsageError.line (e : UsageError) : String := s!"{Release.name}: error: {e.message}"

inductive NoArguments where
  | help
  | version
  | wrong (e : UsageError)
deriving DecidableEq, Repr

namespace Arguments

def numberValue (option : CommandOption) (value : String) : Except NoArguments Int :=
  match Text.wholeNumber? value.toList with
  | some n => .ok n
  | none => .error (.wrong (.notANumber option value))

def normalizerValue (option : CommandOption) (value : String) : Except NoArguments Normalizer :=
  match Normalizer.all.find? fun normalizer => normalizer.name = value with
  | some normalizer => .ok normalizer
  | none => .error (.wrong (.notAChoice option value))

/-- The arguments after an option with its values. An option with one value takes the first. -/
def give (arguments : Arguments) (option : CommandOption) (values : List String) :
    Except NoArguments Arguments :=
  let value := OptionValue.ofValues values
  let number := value.read (numberValue option)
  match option with
  | .help => .error .help
  | .version => .error .version
  | .quiet => .ok { arguments with quiet := true }
  | .debug => .ok { arguments with debug := true }
  | .noColor => .ok { arguments with noColor := true }
  | .old => .ok { arguments with old := values }
  | .single => .ok { arguments with single := values }
  | .name => .ok { arguments with name := value }
  | .regex => .ok { arguments with regex := value }
  | .algorithms => .ok { arguments with algorithms := value }
  | .config => .ok { arguments with config := value }
  | .output => .ok { arguments with output := value }
  | .json => .ok { arguments with json := value }
  | .rankBy => .ok { arguments with rankBy := value }
  | .save => .ok { arguments with save := value }
  | .load => .ok { arguments with load := value }
  | .normalizer =>
    (value.read (normalizerValue option)).map fun normalizer => { arguments with normalizer }
  | .threads => number.map fun threads => { arguments with threads }
  | .k => number.map fun k => { arguments with k }
  | .w => number.map fun w => { arguments with w }
  | .limit => number.map fun limit => { arguments with limit }

structure Group where
  option : OptionWord
  operands : List Operand

def groups : List Word → List Operand × List Group
  | [] => ([], [])
  | .operand operand :: words => (operand :: (groups words).1, (groups words).2)
  | .option option :: words => ([], ⟨option, (groups words).1⟩ :: (groups words).2)

def leadingValues : List Operand → List String × List Operand
  | .value text :: operands =>
    (text :: (leadingValues operands).1, (leadingValues operands).2)
  | operands => ([], operands)

def takeValues (option : CommandOption) (operands : List Operand) :
    Except UsageError (List String × List Operand) :=
  match option.arity, operands with
  | .flag, operands => .ok ([], operands)
  | .one, .value text :: operands => .ok ([text], operands)
  | .one, _ => .error (.valueMissing option)
  | .several, .value text :: operands => .ok (leadingValues (.value text :: operands))
  | .several, _ => .error (.valuesMissing option)

abbrev Given := CommandOption × List String

def attachedValues (text : String) : List String := if text = "--" then [] else [text]

/-- The options of a word whose first one has a text attached, and the operands they leave. A letter
without values may have more letters attached; an option with values takes the text as its value. -/
def takeAttached (option : CommandOption) (isLetter : Bool) (operands : List Operand) :
    List Char → Except UsageError (List Given × List Operand)
  | [] =>
    if option.arity = .flag then .error (.valueIgnored option "")
    else .ok ([(option, [""])], operands)
  | letter :: attached =>
    let text := String.ofList (letter :: attached)
    if option.arity = .flag then
      match isLetter, CommandOption.ofSpelling? (String.ofList ['-', letter]) with
      | true, some next =>
        if attached.isEmpty then do
          let (values, rest) ← takeValues next operands
          pure ([(option, []), (next, values)], rest)
        else do
          let (given, rest) ← takeAttached next true operands attached
          pure ((option, []) :: given, rest)
      | _, _ => .error (.valueIgnored option text)
    else .ok ([(option, attachedValues text)], operands)

def takeKnown (option : CommandOption) (isLetter : Bool) (attached : Option String)
    (operands : List Operand) : Except UsageError (List Given × List Operand) :=
  match attached with
  | some text => takeAttached option isLetter operands text.toList
  | none => do
    let (values, rest) ← takeValues option operands
    pure ([(option, values)], rest)

structure Reading where
  arguments : Arguments := {}
  given : List CommandOption := []
  directoriesGiven : Bool := false
  rest : List String := []

def readOperands (reading : Reading) (operands : List Operand) : Reading :=
  if operands.isEmpty then reading
  else if reading.directoriesGiven then
    { reading with rest := reading.rest ++ operands.map Operand.text }
  else
    let directories := operands.filterMap fun operand => match operand with
      | .value text => some text
      | .separator => none
    { reading with
      arguments := { reading.arguments with directories }
      directoriesGiven := true }

def readGiven (reading : Reading) (given : Given) : Except NoArguments Reading := do
  let (option, values) := given
  let arguments ← reading.arguments.give option values
  match option.rivals.find? fun rival => reading.given.contains rival with
  | some rival => throw (.wrong (.rival option rival))
  | none => pure { reading with arguments, given := option :: reading.given }

def readGroup (reading : Reading) (group : Group) : Except NoArguments Reading :=
  match group.option with
  | .unknown text =>
    .ok (readOperands { reading with rest := reading.rest ++ [text] } group.operands)
  | .known option isLetter attached => do
    let (given, rest) ← (takeKnown option isLetter attached group.operands).mapError .wrong
    let reading ← given.foldlM readGiven reading
    pure (readOperands reading rest)

def ofWords (words : List String) : Except NoArguments Arguments := do
  let words ← (Word.readAll words).mapError fun e => .wrong (.ambiguous e)
  let (operands, groups) := groups words
  let reading ← groups.foldlM readGroup (readOperands {} operands)
  if reading.rest.isEmpty then pure reading.arguments
  else throw (.wrong (.unrecognized reading.rest))

end Arguments

end SourceSimilarity
