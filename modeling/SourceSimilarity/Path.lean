import SourceSimilarity.Text.Point
import SourceSimilarity.Text.Utf8

namespace SourceSimilarity.Path

def name (path : List Char) : List Char := (path.reverse.takeWhile (· != '/')).reverse

/-- The extension of a file name with its point: the last point and what follows it. Points at the
start of a name belong to the name, so a name with no other character before its last point has no
extension. -/
def extension (path : List Char) : List Char :=
  let file := name path
  let reversed := file.reverse
  let tail := reversed.takeWhile (· != '.')
  match reversed.dropWhile (· != '.') with
  | '.' :: stem => if stem.all (· == '.') then [] else '.' :: tail.reverse
  | _ => []

def components (path : List Char) : List (List Char) :=
  (path.splitOn '/').filter fun part => !part.isEmpty

def isAbsolute (path : List Char) : Bool := path.head? == some '/'

/-- Follows a component from the directory whose components are given, innermost first, in an
absolute path: `.` stays, `..` leaves the innermost, and at the root it stays as well. -/
def follow (inner : List (List Char)) (part : List Char) : List (List Char) :=
  if part = ['.'] then inner
  else if part = ['.', '.'] then inner.tail
  else part :: inner

def normalComponents (path : List Char) : List (List Char) :=
  ((components path).foldl follow []).reverse

/-- The slashes an absolute path starts with once it is normal: two if there are exactly two, which
the path then keeps, else one. -/
def leadingSlashes : List Char → List Char
  | '/' :: '/' :: '/' :: _ => ['/']
  | '/' :: '/' :: _ => ['/', '/']
  | _ => ['/']

def normalize (path : List Char) : List Char :=
  leadingSlashes path ++ ['/'].intercalate (normalComponents path)

/-- A path below a directory: the path itself if it is absolute. -/
def join (directory path : List Char) : List Char :=
  if isAbsolute path then path
  else if directory.getLast? = some '/' ∨ directory.isEmpty then directory ++ path
  else directory ++ '/' :: path

def absolute (workingDirectory path : List Char) : List Char :=
  normalize (join workingDirectory path)

/-- What makes a text unfit to name a file: a half of a surrogate pair, or the character NUL. -/
inductive Fault where
  | loneUnit
  | nul
deriving DecidableEq, Repr

/-- Whether a point stands for no bytes: a half, except those from U+DC80 to U+DCFF, which stand for
the bytes that are no text. -/
def isUnspelled : Text.Point → Bool
  | .char _ => false
  | .half h => !(0xDC80 ≤ h.unit && h.unit ≤ 0xDCFF)

def fault? (path : List Char) : Option Fault :=
  if (Text.points path).any isUnspelled then some .loneUnit
  else if path.contains (Char.ofNat 0) then some .nul
  else none

/-- The bytes of the longest component, and of the longest path with the byte that ends it. -/
def componentLimit : Nat := 255

def pathLimit : Nat := 4096

def pointBytes : Text.Point → Nat
  | .char c => (String.utf8EncodeChar c).length
  | .half _ => 1

def byteCount (path : List Char) : Nat :=
  (Text.points path).foldr (fun p bytes => pointBytes p + bytes) 0

end SourceSimilarity.Path
