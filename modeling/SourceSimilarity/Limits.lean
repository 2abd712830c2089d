namespace SourceSimilarity

/-- How many containers in JSON text, groups in a regular expression and directories in a search may
be open within one another. A machine that runs the program has bounds for these, and they differ
from one to the next. -/
structure Limits where
  containers : Nat := 990
  groups : Nat := 491
  directories : Nat := 980
deriving DecidableEq, Repr

end SourceSimilarity
