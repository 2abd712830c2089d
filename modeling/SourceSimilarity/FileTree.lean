import SourceSimilarity.Path
import SourceSimilarity.Text.Utf8
import SourceSimilarity.Text.Quoted

/-!
File systems as values: a tree of directories with regular files as leaves. A path is followed name
by name, so that every name but the last has to be that of a directory.
-/

namespace SourceSimilarity

inductive FileError where
  | missing
  | notADirectory
  | isADirectory
  | nameTooLong
deriving DecidableEq, Repr

def FileError.code : FileError → Nat
  | .missing => 2
  | .notADirectory => 20
  | .isADirectory => 21
  | .nameTooLong => 36

def FileError.text : FileError → String
  | .missing => "No such file or directory"
  | .notADirectory => "Not a directory"
  | .isADirectory => "Is a directory"
  | .nameTooLong => "File name too long"

def FileError.message (e : FileError) (path : String) : String :=
  s!"[Errno {e.code}] {e.text}: {Text.quoted path}"

inductive OpenError where
  | unfit (fault : Path.Fault)
  | refused (e : FileError)
deriving DecidableEq, Repr

/-- A regular file or a directory. The names in a directory differ. A directory may be closed: what is
in it can be opened by name, but nobody is told the names. -/
inductive FileNode where
  | file (content : Bytes)
  | directory (entries : List (String × FileNode)) (isOpen : Bool := true)
deriving Repr

namespace FileNode

def empty : FileNode := .directory []

def entry? (name : String) : FileNode → Option FileNode
  | .file _ => none
  | .directory entries _ => entries.lookup name

def find? (node : FileNode) (names : List String) : Option FileNode :=
  names.foldlM (fun node name => node.entry? name) node

def setEntry (name : String) (node : FileNode) : List (String × FileNode) → List (String × FileNode)
  | [] => [(name, node)]
  | (other, old) :: rest =>
    if other = name then (name, node) :: rest else (other, old) :: setEntry name node rest

def put : FileNode → List String → FileNode → FileNode
  | _, [], node => node
  | .directory entries isOpen, name :: names, node =>
    .directory (setEntry name (put ((entries.lookup name).getD empty) names node) entries) isOpen
  | .file _, name :: names, node => .directory [(name, put empty names node)]

def remove : List String → FileNode → FileNode
  | [name], .directory entries isOpen => .directory (entries.filter (·.1 != name)) isOpen
  | name :: names, .directory entries isOpen =>
    .directory (entries.map fun (other, node) =>
      if other = name then (other, remove names node) else (other, node)) isOpen
  | _, node => node

mutual

def contents : FileNode → List (List String × Bytes)
  | .file content => [([], content)]
  | .directory entries _ => contentsAll entries

def contentsAll : List (String × FileNode) → List (List String × Bytes)
  | [] => []
  | (name, node) :: entries =>
    (contents node).map (fun found => (name :: found.1, found.2)) ++ contentsAll entries

end

mutual

/-- The regular files that a search finds in and below what a path leads to, each by the names that
lead to it from there. A search passes over a directory that is closed, or whose path is too long to
be opened. It gives up where more directories lie within one another than `room`. -/
def search (room : Nat) (path : List Char) : FileNode → Option (List (List String))
  | .file _ => some [[]]
  | .directory entries isOpen =>
    match room with
    | 0 => none
    | room + 1 =>
      if isOpen && Path.byteCount path < Path.pathLimit then searchAll room path entries
      else some []

def searchAll (room : Nat) (path : List Char) :
    List (String × FileNode) → Option (List (List String))
  | [] => some []
  | (name, node) :: entries => do
    let found ← search room (Path.join path name.toList) node
    pure (found.map (name :: ·) ++ (← searchAll room path entries))

end

end FileNode

/-- A file system with its working directory, whose components are those of an absolute path. -/
structure FileTree where
  root : FileNode
  workingDirectory : List String

namespace FileTree

def workingPath (files : FileTree) : List Char :=
  '/' :: ['/'].intercalate (files.workingDirectory.map String.toList)

/-- Follows the parts of a path between its slashes from a place given by its names, which has to
exist. Only a directory has parts below it; the empty part and `.` stay there. -/
def followFrom (root : FileNode) (place : List String) :
    List (List Char) → Except FileError (List String)
  | [] => .ok place
  | part :: parts =>
    match root.find? place with
    | none => .error .missing
    | some (.file _) => .error .notADirectory
    | some (.directory entries _) =>
      if part = [] ∨ part = ['.'] then followFrom root place parts
      else if part = ['.', '.'] then followFrom root place.dropLast parts
      else if Path.componentLimit < Path.byteCount part then .error .nameTooLong
      else if (entries.lookup (String.ofList part)).isSome then
        followFrom root (place ++ [String.ofList part]) parts
      else .error .missing

def locate (files : FileTree) (path : String) : Except FileError (List String) :=
  let text := path.toList
  if text.isEmpty then .error .missing
  else if Path.pathLimit ≤ Path.byteCount text then .error .nameTooLong
  else
    let start := if Path.isAbsolute text then [] else files.workingDirectory
    followFrom files.root start (text.splitOn '/')

def lookup (files : FileTree) (path : String) : Except FileError FileNode := do
  let place ← files.locate path
  match files.root.find? place with
  | some node => pure node
  | none => throw .missing

def content (files : FileTree) (path : String) : Except FileError Bytes := do
  match ← files.lookup path with
  | .file content => pure content
  | .directory _ _ => throw .isADirectory

def read (files : FileTree) (path : String) : Except OpenError Bytes :=
  match Path.fault? path.toList with
  | some fault => .error (.unfit fault)
  | none => (files.content path).mapError .refused

/-- Puts a regular file into a directory that exists. A path that ends in a slash, `.` or `..` can
only be that of a directory. -/
def store (files : FileTree) (path : String) (content : Bytes) : Except FileError FileTree :=
  let text := path.toList
  let stem := (text.reverse.dropWhile (· == '/')).reverse
  let name := Path.name stem
  let parent := stem.take (stem.length - name.length)
  if text.isEmpty then .error .missing
  else if Path.pathLimit ≤ Path.byteCount text then .error .nameTooLong
  else do
    let directory ← files.locate (String.ofList (if parent.isEmpty then ['.'] else parent))
    if stem.length < text.length ∨ name = ['.'] ∨ name = ['.', '.'] then throw .isADirectory
    if Path.componentLimit < Path.byteCount name then throw .nameTooLong
    let place := directory ++ [String.ofList name]
    match files.root.find? place with
    | some (.directory _ _) => throw .isADirectory
    | _ => pure { files with root := files.root.put place (.file content) }

def write (files : FileTree) (path : String) (content : Bytes) : Except OpenError FileTree :=
  match Path.fault? path.toList with
  | some fault => .error (.unfit fault)
  | none => (files.store path content).mapError .refused

def changedSince (files before : FileTree) : List (List String × Bytes) :=
  files.root.contents.filter fun (names, content) =>
    match before.root.find? names with
    | some (.file known) => known != content
    | _ => true

end FileTree

end SourceSimilarity
