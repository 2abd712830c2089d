import SourceSimilarity.Text.Hex
import SourceSimilarity.Text.Point
import SourceSimilarity.Text.Printable

namespace SourceSimilarity.Text

def numberEscape (n : Nat) : List Char :=
  if n < 0x100 then '\\' :: 'x' :: hexPadded 2 n
  else if n < 0x10000 then '\\' :: 'u' :: hexPadded 4 n
  else '\\' :: 'U' :: hexPadded 8 n

def quotedPoint (quote : Char) : Point → List Char
  | .half h => numberEscape h.unit
  | .char c =>
    if c == quote || c == '\\' then ['\\', c]
    else if c == '\n' then ['\\', 'n']
    else if c == '\r' then ['\\', 'r']
    else if c == '\t' then ['\\', 't']
    else if isPrintable c then [c]
    else numberEscape c.toNat

def quoteFor (text : List Char) : Char :=
  if text.contains '\'' && !text.contains '"' then '"' else '\''

def quoted (text : String) : String :=
  let quote := quoteFor text.toList
  String.ofList (quote :: (points text.toList).flatMap (quotedPoint quote) ++ [quote])

end SourceSimilarity.Text
