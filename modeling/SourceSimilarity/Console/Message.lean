import SourceSimilarity.Console.Palette
import SourceSimilarity.Console.Template
import SourceSimilarity.Release
import SourceSimilarity.Scan.Log

namespace SourceSimilarity

structure Printed where
  output : String := ""
  errors : String := ""
deriving DecidableEq, Repr

def Printed.append (first second : Printed) : Printed where
  output := first.output ++ second.output
  errors := first.errors ++ second.errors

instance : Append Printed := ⟨Printed.append⟩

inductive MessageKind where
  | info
  | warning
  | error
  | step
deriving DecidableEq, Repr

namespace MessageKind

def tag : MessageKind → String
  | .info => "[INFO]"
  | .warning => "[WARN]"
  | .error => "[ERROR]"
  | .step => "[STEP]"

def colour (palette : Palette) : MessageKind → String
  | .info => palette.green
  | .warning => palette.yellow
  | .error => palette.red
  | .step => palette.magenta

def ofLevel (level : Int) : MessageKind :=
  if LogLevel.error.number ≤ level then .error
  else if LogLevel.warning.number ≤ level then .warning
  else .info

end MessageKind

def taggedMessage (palette : Palette) (kind : MessageKind) (text : String) : Printed :=
  let line := s!"{kind.colour palette}{kind.tag}{palette.reset} {text}\n"
  match kind with
  | .error => { errors := line }
  | _ => { output := line }

def LogLevel.threshold (debug quiet : Bool) : LogLevel :=
  if debug then .debug else if quiet then .error else .warning

def LogLine.printed (palette : Palette) (threshold : LogLevel) (line : LogLine) : Printed :=
  if threshold.number ≤ line.level.number then
    taggedMessage palette (.ofLevel line.level.number) line.text
  else {}

structure LogRecord where
  source : String
  level : Int
  template : String
  values : List Json.Value

namespace LogRecord

def isOwn (record : LogRecord) : Bool :=
  record.source == Release.name || (Release.name ++ ".").toList.isPrefixOf record.source.toList

/-- A record as it is written under a threshold. Of other programs those that weigh a warning or more
are written as they are to the stream for errors. A record whose values do not fit its template is
left out. -/
def printed (palette : Palette) (threshold : LogLevel) (record : LogRecord) : Printed :=
  let least := if record.isOwn then threshold else .warning
  match fillTemplate? record.template record.values with
  | none => {}
  | some text =>
    if record.level < least.number then {}
    else if record.isOwn then taggedMessage palette (.ofLevel record.level) text
    else { errors := text ++ "\n" }

end LogRecord

end SourceSimilarity
