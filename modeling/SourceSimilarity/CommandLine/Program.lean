import SourceSimilarity.CommandLine.Session

namespace SourceSimilarity

namespace Program

abbrev Scores := (pairs : Nat) × ScoreTable pairs

def showJournal (manner : Manner) (view : ProgressView) : List JournalEntry → Action Unit
  | [] => pure ()
  | .line line :: entries => do
    Action.print (line.printed manner.palette manner.threshold)
    showJournal manner view entries
  | .report report :: entries => do
    if manner.quiet then showJournal manner view entries
    else
      let (view, text) := view.draw manner.palette (← Action.readClock) report
      Action.write (← Action.drawn text)
      showJournal manner view entries

def failScan {α : Type} (manner : Manner) (e : ScanError) : Action α := do
  match e, e.message? with
  | .cancelled _, some text =>
    Action.write "\n"
    Action.say manner .warning text
    Action.stop .cancelled
  | _, some text =>
    Action.write "\n"
    Action.fail manner text
  | .unit e, none => Action.fault (.unit e)
  | _, none => Action.stop .failed

def scan (surroundings : Surroundings) (manner : Manner) (config : Config) (inputs : Inputs) :
    Action Scores := do
  let task ← match Task.ofInputs inputs with
    | .ok task => pure task
    | .error e => failScan manner e
  let sources : Sources := { files := ← Action.files, parser := surroundings.parser }
  let outcome := Scan.run { sources, config, task } false
  showJournal manner .initial outcome.journal.toList
  match outcome.scores with
  | .ok table => pure ⟨_, table⟩
  | .error e => failScan manner e

def tellDuration (manner : Manner) (started : Float) : Action Unit := do
  Action.write "\n"
  let elapsed ← Action.drawn (durationText (.float ((← Action.readClock) - started)))
  let palette := manner.palette
  Action.write (Box.draw palette "Scan complete" s!"Total time: {elapsed}" palette.blue ++ "\n")

def scanAndSave (surroundings : Surroundings) (manner : Manner) (arguments : Arguments)
    (config : Config) (inputs : Inputs) : Action Scores := do
  let started ← Action.readClock
  let scores ← scan surroundings manner config inputs
  Action.unlessQuiet manner (tellDuration manner started)
  if let some path := nonempty? arguments.save then
    Action.writeFile path (SavedScan.toBytes inputs config scores.2)
    Action.unlessQuiet manner (Action.say manner .info s!"Scores saved to {path}")
  pure scores

def loadSaved (surroundings : Surroundings) (manner : Manner) (path : String) (inputs : Inputs) :
    Action Scores := do
  let _ ← Action.readClock
  match SavedScan.load (← Action.files) path inputs surroundings.limits with
  | .ok table =>
    Action.unlessQuiet manner (Action.say manner .info s!"Loaded scores from {path}")
    pure ⟨_, table⟩
  | .error e => Action.failWith manner e.message? (.savedScan e)

def rankText (rank : Nat) : String :=
  let digits := toString rank
  repeated ' ' (3 - digits.length) ++ digits

def pairText (palette : Palette) (entry : RankedPair) : String :=
  let scores := ", ".intercalate (entry.scores.map fun (comparator, score) =>
    s!"{comparator.title}: {Score.text score}")
  s!"{palette.cyan}{rankText entry.rank}.{palette.reset} {entry.first}\n" ++
    s!"     {entry.second}\n     {palette.dim}{scores}{palette.reset}\n"

def showPairs (manner : Manner) (entries : List RankedPair) : Action Unit := do
  let palette := manner.palette
  let rule := repeated '=' 60 ++ "\n"
  Action.write ("\n" ++ rule ++ s!"{palette.bold}Most similar pairs{palette.reset}\n" ++ rule)
  Action.write (String.join (entries.map (pairText palette)))

def reported {α : Type} (part : Except Report.Error α) : Action α :=
  match part with
  | .ok part => pure part
  | .error e => Action.fault (.report e)

/-- The lines of a text in front of the first one that is no text. -/
def wholeLines (text : List Text.Point) : List Char :=
  let whole := (text.takeWhile fun p => p.char?.isSome).filterMap Text.Point.char?
  (whole.reverse.dropWhile (· != '\n')).reverse

/-- Writes a report to a file, if one is named, and says so. A report that holds a half of a pair of
units is written as far as the line before it. -/
def writeReport (manner : Manner) (path? : OptionValue String) (title : String)
    (report : Except Report.Error String) : Action Unit := do
  if let some path := nonempty? path? then
    let text := Text.points (← reported report).toList
    match Text.whole? text with
    | some text => Action.writeFile path (Text.encode text)
    | none =>
      Action.writeFile path (Text.encode (wholeLines text))
      Action.fault .loneUnit
    Action.unlessQuiet manner (Action.say manner .info s!"{title} written to {path}")

def present (manner : Manner) (arguments : Arguments) (rankBy : Option Comparator)
    (limit : Option Nat) (inputs : Inputs) (scores : Scores) : Action Unit := do
  let ⟨_, table⟩ := scores
  let ranking ← match table.ranking rankBy with
    | .ok ranking => pure (ranking.map fun pair => (pair.val : Int))
    | .error e => Action.fail manner e.message
  let limit : Option Int := limit.map Int.ofNat
  Action.unlessQuiet manner do
    showPairs manner (← reported (Report.records inputs table ranking limit))
  writeReport manner arguments.output "Report" (Report.asText inputs table ranking limit)
  writeReport manner arguments.json "JSON report" (Report.asJson inputs table ranking limit)

def findInputs (surroundings : Surroundings) (manner : Manner) (entries : List Entry) :
    Action Inputs := do
  Action.unlessQuiet manner (Action.say manner .step "Discovering files...")
  let inputs ← match Inputs.ofEntries entries (← Action.files) surroundings.limits with
    | .ok inputs => pure inputs
    | .error e => Action.failWith manner e.message? (.discovery e)
  if inputs.pairCount = 0 then Action.fail manner "No file pairs found"
  pure inputs

def tellPlan (manner : Manner) (config : Config) (inputs : Inputs) : Action Unit := do
  let titles := ", ".intercalate (config.enabled.map Comparator.title)
  Action.say manner .info s!"Files: {inputs.fileCount}, pairs: {inputs.pairCount}"
  Action.say manner .info s!"Comparators: {titles}"
  Action.say manner .info s!"Threads: {config.threads}"

def act (surroundings : Surroundings) (arguments : Arguments) : Action Unit := do
  let manner := Manner.ofArguments arguments surroundings.isTerminal
  Action.unlessQuiet manner (Action.write (banner manner.palette))
  let { processors, limits, .. } := surroundings
  let config ← match arguments.scanConfig processors (← Action.files) limits with
    | .ok config => pure config
    | .error e => Action.failWith manner e.message? (.configuration e)
  let entries ← match arguments.entries with
    | .ok entries => pure entries
    | .error e => Action.fail manner e.message
  let rankBy ← match arguments.rankingComparator with
    | .ok rankBy => pure rankBy
    | .error e => Action.fail manner e.message
  let limit ← match arguments.shownLimit with
    | .ok limit => pure limit
    | .error .negative => Action.fail manner "--limit must be >= 0"
    | .error .noValue => Action.fault .limit
  let inputs ← findInputs surroundings manner entries
  Action.unlessQuiet manner (tellPlan manner config inputs)
  let scores ← match nonempty? arguments.load with
    | some path => loadSaved surroundings manner path inputs
    | none => scanAndSave surroundings manner arguments config inputs
  present manner arguments rankBy limit inputs scores

def actOnWords (surroundings : Surroundings) (words : List String) : Action Unit := do
  match Arguments.ofWords words with
  | .ok arguments => act surroundings arguments
  | .error reason =>
    if reason = .version then Action.write Release.line
    Action.stop (.noArguments reason)

def run (surroundings : Surroundings) (words : List String) (session : Session) : Exit × Session :=
  match (actOnWords surroundings words).run.run session with
  | (.ok (), after) => (.finished, after)
  | (.error exit, after) => (exit, after)

end Program

end SourceSimilarity
