import SourceSimilarity.CommandLine.Setup
import SourceSimilarity.Console.Message
import SourceSimilarity.Console.ProgressLine
import SourceSimilarity.Report
import SourceSimilarity.SavedScan
import SourceSimilarity.Scan.Run

namespace SourceSimilarity

structure Session where
  files : FileTree
  clock : Float
  tick : Float := 0
  printed : Printed := {}

structure Surroundings where
  parser : Parser
  processors : Nat
  isTerminal : Bool := false
  limits : Limits := {}

inductive Fault where
  | configuration (e : ConfigFailure)
  | discovery (e : DiscoveryError)
  | savedScan (e : SavedScanError)
  | unit (e : UnitError)
  | file (e : OpenError)
  | limit
  | report (e : Report.Error)
  | loneUnit
  | drawing (e : DrawingError)

def Fault.text : Fault → String
  | .configuration _ => "the configuration file is not text or holds values of the wrong kind"
  | .discovery _ => "the regular expression cannot be used"
  | .savedScan _ => "the manifest of the saved scan holds values of the wrong kind"
  | .unit (.broken (.crashed reason)) => reason
  | .unit _ => "a file could not be prepared or compared"
  | .file (.refused e) => e.text
  | .file (.unfit _) => "a path holds a character that no file name has"
  | .limit => "the option for the number of pairs has no value"
  | .report _ => "the ranking names a pair that is not there"
  | .loneUnit => "a report holds a path that is no text"
  | .drawing _ => "a number is too large to be shown"

inductive Exit where
  | noArguments (reason : NoArguments)
  | finished
  | failed
  | cancelled
  | broken (fault : Fault)

def Exit.status? : Exit → Option Nat
  | .noArguments (.wrong _) => some 2
  | .noArguments _ => some 0
  | .finished => some 0
  | .failed => some 1
  | .cancelled => some 130
  | .broken _ => none

def Exit.closing : Exit → String
  | .noArguments .help => CommandOption.usage
  | .noArguments (.wrong e) => e.line ++ "\n"
  | .broken fault => s!"{Release.name}: {fault.text}\n"
  | _ => ""

/-- A part of a run. It may end the run before the parts that follow. -/
abbrev Action := ExceptT Exit (StateM Session)

structure Manner where
  palette : Palette
  quiet : Bool
  threshold : LogLevel

def Manner.ofArguments (arguments : Arguments) (isTerminal : Bool) : Manner where
  palette := if arguments.noColor || !isTerminal then .plain else .terminal
  quiet := arguments.quiet
  threshold := .threshold arguments.debug arguments.quiet

namespace Action

def stop {α : Type} (exit : Exit) : Action α := throw exit

def fault {α : Type} (fault : Fault) : Action α := stop (.broken fault)

def print (printed : Printed) : Action Unit :=
  modify fun session => { session with printed := session.printed ++ printed }

def write (text : String) : Action Unit := print { output := text }

def readClock : Action Float := do
  let session ← get
  let now := session.clock + session.tick
  set { session with clock := now }
  pure now

def files : Action FileTree := do pure (← get).files

def writeFile (path : String) (content : Bytes) : Action Unit := do
  match (← files).write path content with
  | .ok files => modify fun session => { session with files }
  | .error e => fault (.file e)

def say (manner : Manner) (kind : MessageKind) (text : String) : Action Unit :=
  print (taggedMessage manner.palette kind text)

def unlessQuiet (manner : Manner) (action : Action Unit) : Action Unit :=
  if manner.quiet then pure () else action

def fail {α : Type} (manner : Manner) (text : String) : Action α := do
  say manner .error text
  stop .failed

def failWith {α : Type} (manner : Manner) (message? : Option String) (fault : Fault) : Action α :=
  match message? with
  | some text => fail manner text
  | none => Action.fault fault

def drawn (text : Except DrawingError String) : Action String :=
  match text with
  | .ok text => pure text
  | .error e => fault (.drawing e)

end Action

end SourceSimilarity
