import SourceSimilarity.Source.Language
import SourceSimilarity.Tree.Basic

namespace SourceSimilarity

/-- A node of a syntax tree: its type by name and by number, the bytes of the text it covers, the line
and the column it starts at, both from zero, and whether it may stand anywhere, was put in where
something is missing, or has an error in or below it. -/
structure SyntaxNode where
  type : String
  kind : Int
  start : Nat
  stop : Nat
  startPoint : Nat × Nat
  isExtra : Bool
  isMissing : Bool
  hasError : Bool
deriving DecidableEq, Repr

/-- The outcome of a call of a parser. A call that is interrupted or fails gives no tree. -/
inductive ParserReply where
  | tree (root : Tree SyntaxNode)
  | interrupted
  | crashed (reason : String)
  | unanswered

abbrev Parser := Language → String → ParserReply

end SourceSimilarity
