import SourceSimilarity.Inputs
import SourceSimilarity.Config.Basic
import SourceSimilarity.Decimal.Places
import SourceSimilarity.Scan.Artefact

namespace SourceSimilarity

structure UnreadableFault where
  unreadable : List String
  total : Nat
  share : Decimal.Number
deriving Repr

def UnreadableFault.message (fault : UnreadableFault) : String :=
  let limit := Decimal.percentText fault.share.toFloat
  s!"{fault.unreadable.length} of {fault.total} files could not be read (limit {limit})"

inductive ScanError where
  | fileOutOfRange (pair : Nat)
  | sameFile (pair : Nat) (file : Int)
  | cancelled (phase : String)
  | unreadable (fault : UnreadableFault)
  | unit (e : UnitError)
deriving Repr

def cancelledText (phase : String) : String :=
  if phase.isEmpty then "Scan cancelled" else s!"Scan cancelled during {phase}"

def ScanError.message? : ScanError → Option String
  | .fileOutOfRange pair => some s!"Pair {pair} refers to a file id out of range"
  | .sameFile pair file => some s!"Pair {pair} pairs file {file} with itself"
  | .cancelled phase => some (cancelledText phase)
  | .unreadable fault => some fault.message
  | .unit _ => none

structure Task where
  files : Array String
  pairs : Array (Fin files.size × Fin files.size)

namespace Task

def fileOf? (count : Nat) (file : Int) : Option (Fin count) :=
  if inside : 0 ≤ file ∧ file < count then some ⟨file.toNat, by omega⟩ else none

def checkPair (count number : Nat) (pair : Int × Int) : Except ScanError (Fin count × Fin count) :=
  match fileOf? count pair.1, fileOf? count pair.2 with
  | some a, some b => if a = b then .error (.sameFile number pair.1) else .ok (a, b)
  | _, _ => .error (.fileOutOfRange number)

def ofInputs (inputs : Inputs) : Except ScanError Task := do
  let files := inputs.files.toArray
  let pairs ← inputs.pairs.zipIdx.mapM fun (pair, number) => checkPair files.size number pair
  pure { files, pairs := pairs.toArray }

end Task

def Config.fault? (config : Config) (cache : Cache) (total : Nat) : Option UnreadableFault :=
  let unreadable := cache.unreadablePaths
  if total ≠ 0 ∧ config.exceeds unreadable.length total then
    some { unreadable, total, share := config.unreadableShare }
  else none

end SourceSimilarity
