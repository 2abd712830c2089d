import SourceSimilarity.Text.Blank
import SourceSimilarity.Text.LetterCase

namespace SourceSimilarity

/-- Whether a text names a choice with this short name and this constant name, in any case and with
blanks around it. -/
def namesChoice (text short constant : String) : Bool :=
  let key := Text.strip text.toList
  Text.hasSmalls key short || Text.hasCapitals key constant

inductive Comparator where
  | byteEdit
  | tokenEdit
  | moss
  | treeEdit
  | isomorphism
deriving DecidableEq, Repr

namespace Comparator

def all : List Comparator := [.byteEdit, .tokenEdit, .moss, .treeEdit, .isomorphism]

def inOrder : List Comparator := [.moss, .tokenEdit, .isomorphism, .byteEdit, .treeEdit]

def saved : List Comparator := [.moss, .tokenEdit, .isomorphism, .byteEdit]

def name : Comparator → String
  | .byteEdit => "byte"
  | .tokenEdit => "token"
  | .moss => "moss"
  | .treeEdit => "tree"
  | .isomorphism => "ahu"

def constant : Comparator → String
  | .byteEdit => "BYTE_EDIT"
  | .tokenEdit => "TOKEN_EDIT"
  | .moss => "MOSS"
  | .treeEdit => "TREE_EDIT"
  | .isomorphism => "AHU_ISO"

def title : Comparator → String
  | .byteEdit => "Edit Distance"
  | .tokenEdit => "Token Distance"
  | .moss => "Moss"
  | .treeEdit => "AST Distance"
  | .isomorphism => "AST Isomorphism"

def choices : String := ", ".intercalate (all.map name)

def ofName? (text : String) : Option Comparator :=
  all.find? fun comparator => namesChoice text comparator.name comparator.constant

def arrange (members : List Comparator) : List Comparator :=
  inOrder.filter fun comparator => members.contains comparator

theorem mem_inOrder (comparator : Comparator) : comparator ∈ inOrder := by
  cases comparator <;> decide

theorem mem_arrange {comparator : Comparator} {members : List Comparator} :
    comparator ∈ arrange members ↔ comparator ∈ members := by
  simp [arrange, mem_inOrder]

end Comparator

inductive Normalizer where
  | unchanged
  | whitespaceOnly
  | variables
deriving DecidableEq, Repr

namespace Normalizer

def all : List Normalizer := [.unchanged, .whitespaceOnly, .variables]

def name : Normalizer → String
  | .unchanged => "none"
  | .whitespaceOnly => "whitespace"
  | .variables => "variables"

def constant : Normalizer → String
  | .unchanged => "NONE"
  | .whitespaceOnly => "WHITESPACE_ONLY"
  | .variables => "VARIABLES"

def choices : String := ", ".intercalate (all.map name)

def ofName? (text : String) : Option Normalizer :=
  all.find? fun normalizer => namesChoice text normalizer.name normalizer.constant

def isDropped (byte : UInt8) : Bool := byte == 32 || byte == 9 || byte == 10 || byte == 13

def lowerByte (byte : UInt8) : UInt8 := if 65 ≤ byte && byte ≤ 90 then byte + 32 else byte

/-- The bytes compared where no tokens are at hand. -/
def applyToBytes (normalizer : Normalizer) (bytes : List UInt8) : List UInt8 :=
  match normalizer with
  | .unchanged => bytes
  | _ => (bytes.filter (!isDropped ·)).map lowerByte

end Normalizer

end SourceSimilarity
