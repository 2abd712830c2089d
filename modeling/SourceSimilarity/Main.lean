import SourceSimilarity.CommandLine.Program
import SourceSimilarity.Json.Reader
import SourceSimilarity.Snapshot

/-!
The command line program. The options are its arguments; its standard input is one line with the
snapshot of the files and parses, as a JSON document whose `directory` names the working directory.
Files that a run changes are written to where the snapshot was taken.
-/

namespace SourceSimilarity

def startOf (seconds : Float) (document : String) : Option (Session × Surroundings) := do
  let data ← (Json.read document).toOption
  let directory ← Snapshot.text? "directory" data
  let names := (Path.normalComponents directory.toList).map String.ofList
  let session : Session := { files := ← Snapshot.files? names data, clock := seconds }
  pure (session, { parser := ← Snapshot.parser? data, processors := 1 })

def writeChanged (file : List String × Bytes) : IO Unit :=
  IO.FS.writeBinFile ("/" ++ "/".intercalate file.1) ⟨file.2.toArray⟩

def runOn (words : List String) (document : String) : IO UInt32 := do
  let seconds := (← IO.monoMsNow).toFloat / 1000
  match startOf seconds document with
  | none =>
    (← IO.getStderr).putStr s!"{Release.name}: standard input holds no snapshot\n"
    pure 2
  | some (before, surroundings) =>
    let (exit, after) := Program.run surroundings words before
    (← IO.getStdout).putStr after.printed.output
    (← IO.getStderr).putStr (after.printed.errors ++ exit.closing)
    (after.files.changedSince before.files).forM writeChanged
    pure (UInt32.ofNat (exit.status?.getD 1))

end SourceSimilarity

def main (words : List String) : IO UInt32 := do
  SourceSimilarity.runOn words (← (← IO.getStdin).getLine)
