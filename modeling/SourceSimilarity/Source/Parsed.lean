import SourceSimilarity.Source.Parser
import SourceSimilarity.Macro.Expansion
import SourceSimilarity.Text.Utf8
import SourceSimilarity.Text.Quoted
import SourceSimilarity.Tree.Table

/-!
Parsed sources. From the tree that a parser returns, the nodes that may stand anywhere are dropped
with all below them, and so is everything below a node that counts as one token. What is left is
stored as a table, and the tokens are listed beside it. A tree with an error in it is not converted:
its first error is reported.
-/

namespace SourceSimilarity

structure Token where
  kind : Int
  text : List Char
  isVariable : Bool
deriving DecidableEq, Repr

structure ParsedSource where
  language : Language
  text : String
  tree : Tree.Table String
  tokens : List Token

/-- The error that a source is refused with. Lines and columns count from one, columns in bytes. -/
structure SourceError where
  path : String
  line : Nat
  column : Nat
  detail : String
deriving DecidableEq, Repr

def SourceError.message (e : SourceError) : String :=
  s!"{e.path}:{e.line}:{e.column}: {e.detail}"

inductive Breakdown where
  | interrupted
  | crashed (reason : String)
  | unanswered
  | loneUnit
  | unfitPath (fault : Path.Fault)
deriving DecidableEq, Repr

inductive ParseFailure where
  | refused (error : SourceError)
  | broken (breakdown : Breakdown)
deriving DecidableEq, Repr

namespace ParsedSource

def sentinel : List Char := ['V', 'A', 'R']

def tokenKinds (source : ParsedSource) : List Int := source.tokens.map (·.kind)

def plainText (source : ParsedSource) : List Char := source.tokens.flatMap (·.text)

def normalizedText (source : ParsedSource) : List Char :=
  source.tokens.flatMap fun token => if token.isVariable then sentinel else token.text

/-- The first node of a list of trees that is an error or missing, found without going below nodes
that have no error in them. -/
def firstError? : List (Tree SyntaxNode) → Option SyntaxNode
  | [] => none
  | .node node children :: rest =>
    if node.type = "ERROR" ∨ node.isMissing then some node
    else if node.hasError then firstError? (children ++ rest)
    else firstError? rest
termination_by trees => Tree.sizeAll trees
decreasing_by
  all_goals simp only [Tree.sizeAll, Tree.size, Tree.sizeAll_append]
  all_goals omega

def errorAt (path : String) (node : SyntaxNode) (detail : String) : SourceError where
  path
  line := node.startPoint.1 + 1
  column := node.startPoint.2 + 1
  detail

def wording (node : SyntaxNode) : String :=
  (if node.isMissing then "missing " else "unexpected ") ++ Text.quoted node.type

def errorOf (path : String) (root : Tree SyntaxNode) : SourceError :=
  match firstError? [root] with
  | some node => errorAt path node (wording node)
  | none => errorAt path root.label "syntax error"

structure Pending where
  tree : Tree SyntaxNode
  parent : Option (Nat × String)

def pendingSize (waiting : List Pending) : Nat := Tree.sizeAll (waiting.map (·.tree))

theorem pendingSize_cons (first : Pending) (waiting : List Pending) :
    pendingSize (first :: waiting) = first.tree.size + pendingSize waiting := by
  simp [pendingSize, Tree.sizeAll]

def Pending.below (parent : Nat × String) (children : List (Tree SyntaxNode)) : List Pending :=
  children.map (⟨·, some parent⟩)

theorem pendingSize_below_append (parent : Nat × String) (children : List (Tree SyntaxNode))
    (waiting : List Pending) :
    pendingSize (Pending.below parent children ++ waiting) =
      Tree.sizeAll children + pendingSize waiting := by
  have trees : (Pending.below parent children).map (·.tree) = children := by
    simp [Pending.below, Function.comp_def]
  simp [pendingSize, Tree.sizeAll_append, trees]

def nodeText (bytes : Array UInt8) (node : SyntaxNode) : List Char :=
  Text.decodeReplacing (bytes.extract node.start node.stop).toList

/-- Converts the waiting trees in order, children before what waits behind their parent. The root
is never a token. -/
def convert (language : Language) (bytes : Array UInt8) (table : Tree.Table String) :
    List Pending → Tree.Table String × List Token
  | [] => (table, [])
  | ⟨.node node children, parent⟩ :: waiting =>
    if node.isExtra then convert language bytes table waiting
    else
      let grown := table.add node.type (parent.map (·.1))
      if children.isEmpty || language.isAtomic node.type then
        match parent with
        | none => convert language bytes grown waiting
        | some (_, parentType) =>
          let token : Token := {
            kind := node.kind
            text := nodeText bytes node
            isVariable := language.isVariableUse node.type (some parentType) }
          let (final, tokens) := convert language bytes grown waiting
          (final, token :: tokens)
      else
        convert language bytes grown (Pending.below (table.size, node.type) children ++ waiting)
termination_by waiting => pendingSize waiting
decreasing_by
  all_goals have head := pendingSize_cons ⟨.node node children, parent⟩ waiting
  all_goals simp only [Tree.size] at head
  · omega
  · omega
  · omega
  · have := pendingSize_below_append (table.size, node.type) children waiting
    omega

def parserText (language : Language) (text : List Char) : List Char :=
  match language with
  | .c => Macro.preprocess text
  | .java => text

def parsePrepared (parser : Parser) (path : String) (language : Language) (prepared : List Char) :
    Except ParseFailure ParsedSource :=
  match parser language (String.ofList prepared) with
  | .interrupted => .error (.broken .interrupted)
  | .crashed reason => .error (.broken (.crashed reason))
  | .unanswered => .error (.broken .unanswered)
  | .tree root =>
    if root.label.hasError then .error (.refused (errorOf path root))
    else
      let (tree, tokens) := convert language (Text.encode prepared).toArray .empty [⟨root, none⟩]
      .ok { language, text := String.ofList prepared, tree, tokens }

/-- A character for private use that a text does not hold. -/
def standIn (text : List Char) : Char :=
  (((List.range 0x1FFFE).map fun n => Char.ofNat (0xF0000 + n)).find? (!text.contains ·)).getD
    Text.sentinel

/-- The text that is given to the parser for the text that a string spells, if there are bytes for
it. A half of a pair of units does no harm where it goes with a directive: until then another
character takes its place. -/
def prepared? (language : Language) (text : String) : Option (List Char) :=
  let points := Text.points text.toList
  match Text.whole? points with
  | some whole => some (parserText language whole)
  | none =>
    let other := standIn (points.filterMap Text.Point.char?)
    let prepared := parserText language (points.map fun p => p.char?.getD other)
    if prepared.contains other then none else some prepared

def parse (parser : Parser) (path : String) (language : Language) (text : String) :
    Except ParseFailure ParsedSource :=
  match prepared? language text with
  | some prepared => parsePrepared parser path language prepared
  | none => .error (.broken .loneUnit)

/-- Parses the content of a file, read for display. Such a text always has bytes. -/
def parseContent (parser : Parser) (path : String) (language : Language) (content : Bytes) :
    Except ParseFailure ParsedSource :=
  parsePrepared parser path language (parserText language (Text.decodeReplacing content))

end ParsedSource

end SourceSimilarity
