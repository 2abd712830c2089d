import SourceSimilarity.Release

namespace SourceSimilarity

inductive CommandOption where
  | help
  | name
  | regex
  | old
  | single
  | threads
  | algorithms
  | normalizer
  | k
  | w
  | config
  | output
  | json
  | rankBy
  | save
  | load
  | limit
  | quiet
  | debug
  | noColor
  | version
deriving DecidableEq, Repr

inductive Arity where
  | flag
  | one
  | several
deriving DecidableEq, Repr

namespace CommandOption

def all : List CommandOption := [.help, .name, .regex, .old, .single, .threads, .algorithms,
  .normalizer, .k, .w, .config, .output, .json, .rankBy, .save, .load, .limit, .quiet, .debug,
  .noColor, .version]

def spellings : CommandOption → List String
  | .help => ["-h", "--help"]
  | .name => ["-n", "--name"]
  | .regex => ["-r", "--regex"]
  | .old => ["--old"]
  | .single => ["--single"]
  | .threads => ["-j", "--threads"]
  | .algorithms => ["-a", "--algorithms"]
  | .normalizer => ["--normalizer"]
  | .k => ["-k"]
  | .w => ["-w"]
  | .config => ["--config"]
  | .output => ["-o", "--output"]
  | .json => ["--json"]
  | .rankBy => ["--rank-by"]
  | .save => ["--save"]
  | .load => ["--load"]
  | .limit => ["--limit"]
  | .quiet => ["-q", "--quiet"]
  | .debug => ["--debug"]
  | .noColor => ["--no-color"]
  | .version => ["-v", "--version"]

def arity : CommandOption → Arity
  | .help | .quiet | .debug | .noColor | .version => .flag
  | .old | .single => .several
  | _ => .one

def label (option : CommandOption) : String := "/".intercalate option.spellings

def ofSpelling? (spelling : String) : Option CommandOption :=
  all.find? fun option => option.spellings.contains spelling

/-- The options that an option cannot be combined with. -/
def rivals : CommandOption → List CommandOption
  | .name => [.regex]
  | .regex => [.name]
  | .save => [.load]
  | .load => [.save]
  | _ => []

def usage : String :=
  s!"usage: {Release.name} [DIR ...]" ++
    String.join (all.map fun option => s!" [{option.label}]") ++ "\n"

theorem ofSpelling?_of_mem (option : CommandOption) :
    ∀ spelling ∈ option.spellings, ofSpelling? spelling = some option := by
  cases option <;> decide

end CommandOption

end SourceSimilarity
