import SourceSimilarity.Text.Blank
import SourceSimilarity.Text.Digit
import SourceSimilarity.Text.LetterCase
import SourceSimilarity.Text.Point
import SourceSimilarity.Text.WordChar

namespace SourceSimilarity.Pattern

inductive CharClass where
  | digit
  | blank
  | word
deriving DecidableEq, Repr

def CharClass.containsChar (asciiOnly : Bool) (c : Char) : CharClass → Bool
  | .digit => if asciiOnly then c.isDigit else Text.isDigit c
  | .blank => Text.isBlank c && (!asciiOnly || c.val < 0x80 && !(0x1c ≤ c.val && c.val ≤ 0x1f))
  | .word => Text.isWordChar c && (!asciiOnly || c.val < 0x80)

def CharClass.contains (asciiOnly : Bool) (p : Text.Point) (class_ : CharClass) : Bool :=
  p.char?.any fun c => class_.containsChar asciiOnly c

inductive SetItem where
  | point (n : Nat)
  | range (first last : Nat)
  | members (class_ : CharClass) (complement : Bool)
deriving DecidableEq, Repr

/-- Which characters count as equal: only equal ones, or those that differ by case, in ASCII or in
all scripts. -/
inductive CaseFold where
  | exact
  | ascii
  | full
deriving DecidableEq, Repr

namespace CaseFold

/-- The character that stands for all that count as equal to it. -/
def lowerChar : CaseFold → Char → Char
  | .exact, c => c
  | .ascii, c => c.toLower
  | .full, c => Text.lowerChar c

def lower (fold : CaseFold) (p : Text.Point) : Text.Point := p.map fold.lowerChar

/-- The characters whose lower case is this one, or has the same upper case as it. -/
def sameCaseChars : CaseFold → Char → List Char
  | .exact, c => [c]
  | .ascii, c => [c, c.toUpper]
  | .full, c =>
    (Text.caseVariants c).flatMap fun lower => lower :: lower.toUpper :: Text.capitalsOf lower

def sameCase (fold : CaseFold) : Text.Point → List Text.Point
  | .char c => (fold.sameCaseChars c).map .char
  | .half h => [.half h]

def hasForms : CaseFold → Char → Bool
  | .exact, _ => false
  | .ascii, c => c.isAlpha
  | .full, c => Text.isCased c

end CaseFold

def lastInPlane : Nat := 0xFFFF

namespace SetItem

/-- Whether a member makes it necessary to look for lower cases: it describes a character with
another form, or one beyond the first plane. -/
def isFolding (fold : CaseFold) : SetItem → Bool
  | .point n => lastInPlane < n || fold.hasForms (Char.ofNat n)
  | .range first last =>
    lastInPlane < last ||
      (List.range' first (last + 1 - first)).any fun n => fold.hasForms (Char.ofNat n)
  | .members _ _ => false

/-- Whether a code point of the first plane, in a range, counts as equal to a lower-case
character. -/
def hasEqual (fold : CaseFold) (first last : Nat) (lower : Text.Point) : Bool :=
  (fold.sameCase lower).any fun p => first ≤ p.code && p.code ≤ min last lastInPlane

/-- Whether a member describes a character, given as the one that stands for it. Beyond the first
plane a code point counts only as itself, and the end of a range also by its capital. -/
def describes (asciiOnly : Bool) (fold : CaseFold) (p : Text.Point) : SetItem → Bool
  | .point n => if lastInPlane < n then p.code == n else hasEqual fold n n p
  | .range first last =>
    let isWithin (code : Nat) : Bool := first ≤ code && code ≤ last
    hasEqual fold first last p ||
      (lastInPlane < last && (isWithin p.code || (fold != .exact &&
        p.char?.any fun c => isWithin (Text.upperChar c).toNat)))
  | .members class_ complement => class_.contains asciiOnly p != complement

end SetItem

structure CharSet where
  items : List SetItem
  complement : Bool := false
  fold : CaseFold := .exact
  asciiOnly : Bool := false
deriving DecidableEq, Repr

namespace CharSet

def everything : CharSet := { items := [], complement := true }

/-- The set of these items. Where case is ignored it is folded if an item asks for it. -/
def ofItems (asciiOnly ignoreCase : Bool) (items : List SetItem) (complement : Bool) : CharSet :=
  let fold : CaseFold := if !ignoreCase then .exact else if asciiOnly then .ascii else .full
  { items, complement, asciiOnly
    fold := if items.any (SetItem.isFolding fold) then fold else .exact }

/-- The set of one code point, or of all others. Where case is ignored its lower case stands for it,
beyond the first plane too. -/
def ofPoint (asciiOnly ignoreCase : Bool) (n : Nat) (complement : Bool) : CharSet :=
  let fold : CaseFold := if !ignoreCase then .exact else if asciiOnly then .ascii else .full
  ofItems asciiOnly ignoreCase [.point (fold.lower (Text.pointOf n)).code] complement

def contains (set : CharSet) (p : Text.Point) : Bool :=
  set.items.any (SetItem.describes set.asciiOnly set.fold (set.fold.lower p)) != set.complement

end CharSet

end SourceSimilarity.Pattern
