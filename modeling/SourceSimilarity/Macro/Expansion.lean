import SourceSimilarity.Macro.Directive

namespace SourceSimilarity.Macro

def expandLexeme (definitions : Definitions) (lexeme : Lexeme) : List Char :=
  if lexeme.kind = .identifier then (definitions.lookup lexeme.text).getD lexeme.text
  else lexeme.text

def expand (definitions : Definitions) (text : List Char) : List Char :=
  (lexemes text).flatMap (expandLexeme definitions)

/-- C text made ready for its parser: lines joined, directives emptied, macros replaced. -/
def preprocess (text : List Char) : List Char :=
  let (stripped, definitions) := stripDirectives (joinContinuations text)
  expand definitions stripped

end SourceSimilarity.Macro
