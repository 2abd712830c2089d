import SourceSimilarity.Pattern.CharSet
import SourceSimilarity.Pattern.RegexError
import SourceSimilarity.Pattern.RegexOption

namespace SourceSimilarity.Pattern

inductive AnchorSign where
  | start
  | stop
  | textStart
  | textStop
  | wordEdge
  | noWordEdge
deriving DecidableEq, Repr

structure Width where
  least : Nat
  most : Nat
deriving DecidableEq, Repr

namespace Width

/-- The width from which on no greater one is told apart. -/
def limit : Nat := 18446744073709551616

def zero : Width := ⟨0, 0⟩

def one : Width := ⟨1, 1⟩

def add (a b : Width) : Width := ⟨a.least + b.least, a.most + b.most⟩

def either (a b : Width) : Width := ⟨min a.least b.least, max a.most b.most⟩

def repeated (least : Nat) (most : Option Nat) (body : Width) : Width where
  least := body.least * least
  most := if body.most = 0 then 0 else (most.map (body.most * ·)).getD limit

def capped (width : Width) : Width := ⟨min width.least limit, min width.most limit⟩

end Width

/-- A regular expression as it is written. A reference holds the width of its group. A group has the
number of its text, if it has one, and the options that are turned on and off in it. -/
inductive Expression where
  | point (n : Nat) (complement : Bool)
  | set (items : List SetItem) (complement : Bool)
  | any
  | anchor (sign : AnchorSign)
  | reference (group : Nat) (width : Width)
  | sequence (items : List Expression)
  | alternatives (branches : List Expression)
  | repeated (least : Nat) (most : Option Nat) (manner : RepeatManner) (body : Expression)
  | group (number : Option Nat) (on off : List RegexOption) (body : Expression)
  | atomic (body : Expression)
  | look (behind negative : Bool) (body : Expression)
  | conditional (group : Nat) (yes no : Expression)
deriving Repr

namespace Expression

mutual

def width : Expression → Width
  | .point _ _ | .set _ _ | .any => .one
  | .anchor _ | .look _ _ _ => .zero
  | .reference _ width => width
  | .sequence items => (widthOfAll items).capped
  | .alternatives branches => widthOfAny branches
  | .repeated least most _ body => body.width.repeated least most
  | .group _ _ _ body | .atomic body => body.width
  | .conditional _ yes no => yes.width.either no.width

def widthOfAll : List Expression → Width
  | [] => .zero
  | item :: items => item.width.add (widthOfAll items)

def widthOfAny : List Expression → Width
  | [] => ⟨Width.limit, 0⟩
  | branch :: branches => branch.width.either (widthOfAny branches)

end

def isSameLeaf : Expression → Expression → Bool
  | .point n complement, .point other complement' => n == other && complement == complement'
  | .set items complement, .set others complement' => items == others && complement == complement'
  | .any, .any => true
  | .anchor sign, .anchor other => sign == other
  | .reference known _, .reference other _ => known == other
  | _, _ => false

/-- The items that an item of a sequence stands for: a group that has neither number nor options is
no more than its items. -/
def unpacked : Expression → List Expression
  | .group none [] [] (.sequence items) => items
  | item => [item]

/-- The leaves that a sequence starts with and others start with as well, and what is left of the
sequence and of the others. -/
def sharedStart : List Expression → List (List Expression) →
    List Expression × List Expression × List (List Expression)
  | [], others => ([], [], others)
  | item :: items, others =>
    if others.all fun other => other.head?.any item.isSameLeaf then
      let (shared, rest, others) := sharedStart items (others.map List.tail)
      (item :: shared, rest, others)
    else ([], item :: items, others)

/-- The members of a sequence that is one character or one set, not described by a complement. -/
def members? : List Expression → Option (List SetItem)
  | [.point n false] => some [.point n]
  | [.set items false] => some items
  | _ => none

def ofAlternatives : List (List Expression) → List Expression
  | [] => []
  | [items] => items
  | first :: others =>
    let (shared, rest, others) := sharedStart first others
    match (rest :: others).mapM members? with
    | some members => shared ++ [.set members.flatten false]
    | none => shared ++ [.alternatives ((rest :: others).map .sequence)]

end Expression

end SourceSimilarity.Pattern
