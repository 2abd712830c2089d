import SourceSimilarity.FileTree
import SourceSimilarity.Json.Part
import SourceSimilarity.Source.Parser
import SourceSimilarity.Text.Hex
import SourceSimilarity.Tree.Table

/-!
Snapshots: the files that a run of the program finds, and what the parsers tell about their texts,
as one JSON document. A file has a path and a `text`, bytes in `hex` digits, or the mark `dir` of an
empty directory. A parse has a `language`, the `source` that is parsed, and the `nodes` of its
syntax tree, each after its parent; `interrupt` and `crash` stand for a parser that breaks down.
-/

namespace SourceSimilarity

open Json (Value)

namespace Snapshot

def text? (name : String) (v : Value) : Option String :=
  match v.get? name with
  | some (.string s) => some s
  | _ => none

def whole? (name : String) (v : Value) : Option (List Char) := do
  Text.whole? (Text.points (← text? name v).toList)

def items? (name : String) (v : Value) : Option (List Value) :=
  match v.get? name with
  | some (.array items) => some items
  | none => some []
  | _ => none

def namesOf (files : FileTree) (path : String) : List String :=
  (Path.normalComponents (Path.join files.workingPath path.toList)).map String.ofList

def enter? (files : FileTree) (v : Value) : Option FileTree := do
  let names := namesOf files (← text? "path" v)
  let node ←
    if Json.Part.flag "dir" v then pure FileNode.empty
    else match text? "hex" v with
      | some digits => (Text.ofHex? digits.toList).map FileNode.file
      | none => (whole? "text" v).map fun text => FileNode.file (Text.encode text)
  pure { files with root := files.root.put names node }

def files? (workingDirectory : List String) (v : Value) : Option FileTree := do
  let start : FileTree :=
    { root := FileNode.empty.put workingDirectory FileNode.empty, workingDirectory }
  (← items? "files" v).foldlM enter? start

def startPoint (bytes : Bytes) (start : Nat) : Nat × Nat :=
  let before := bytes.take start
  let lineStart := before.length - (before.reverse.takeWhile (· != 10)).length
  (before.count 10, start - lineStart)

def node? (bytes : Bytes) : Value → Option (SyntaxNode × Option Nat)
  | .array [.string type, .number (.whole kind), .number (.whole start), .number (.whole stop),
      .number (.whole parent), .string flags] =>
    let node : SyntaxNode := {
      type, kind, start := start.toNat, stop := stop.toNat
      startPoint := startPoint bytes start.toNat
      isExtra := flags.toList.contains 'x'
      isMissing := flags.toList.contains 'm'
      hasError := flags.toList.contains 'e' }
    some (node, if parent < 0 then none else some parent.toNat)
  | _ => none

def tree? (bytes : Bytes) (nodes : List Value) : Option (Tree SyntaxNode) := do
  let rows ← nodes.mapM (node? bytes)
  let table ← (Tree.Table.ofRows rows).toOption
  table.toTree?

def reply? (bytes : Bytes) (v : Value) : Option ParserReply :=
  match v.get? "nodes", text? "crash" v with
  | some (.array nodes), _ => (tree? bytes nodes).map ParserReply.tree
  | _, some reason => some (.crashed reason)
  | _, none => if Json.Part.flag "interrupt" v then some .interrupted else none

def parse? (v : Value) : Option ((String × String) × ParserReply) := do
  let source ← whole? "source" v
  pure ((← text? "language" v, String.ofList source), ← reply? (Text.encode source) v)

def parser? (v : Value) : Option Parser := do
  let replies ← (← items? "parses" v).mapM parse?
  pure fun language source => (replies.lookup (language.name, source)).getD .unanswered

end Snapshot

end SourceSimilarity
