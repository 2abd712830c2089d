namespace SourceSimilarity

structure Palette where
  red : String
  green : String
  yellow : String
  blue : String
  cyan : String
  magenta : String
  bold : String
  dim : String
  reset : String
deriving DecidableEq, Repr

namespace Palette

def code (style : String) : String := "\x1b[" ++ style ++ "m"

def terminal : Palette where
  red := code "0;31"
  green := code "0;32"
  yellow := code "1;33"
  blue := code "0;34"
  cyan := code "0;36"
  magenta := code "0;35"
  bold := code "1"
  dim := code "2"
  reset := code "0"

def plain : Palette := ⟨"", "", "", "", "", "", "", "", ""⟩

end Palette

end SourceSimilarity
