import SourceSimilarity.Pattern.Regex
import SourceSimilarity.Pattern.RegexText

namespace SourceSimilarity.Pattern

def AnchorSign.anchor (options : List RegexOption) : AnchorSign → Anchor
  | .start => if options.contains .multiline then .lineStart else .textStart
  | .stop => if options.contains .multiline then .lineEnd else .finalLineEnd
  | .textStart => .textStart
  | .textStop => .textEnd
  | .wordEdge => .wordEdge (options.contains .ascii)
  | .noWordEdge => .noWordEdge (options.contains .ascii)

def Regex.nothing : Regex := .one { items := [] }

def Regex.repeatedBy (manner : RepeatManner) (least : Nat) (most : Option Nat) (body : Regex) :
    Regex :=
  match manner with
  | .greedy => .repeated least most false body
  | .lazy => .repeated least most true body
  | .possessive => .atomic (.repeated least most false (.atomic body))

def farthestBehind : Nat := 4294967295

/-- The distance that an expression is looked for behind a position, which has to be one. -/
def Width.distance (width : Width) : Except RegexError Nat :=
  if farthestBehind < width.least then .error (.meaningless .farBehind)
  else if width.least ≠ width.most then .error (.meaningless .variableBehind)
  else .ok width.least

namespace Expression

mutual

def meaning (referenced : List Nat) (options : List RegexOption) :
    Expression → Except RegexError Regex
  | .point n complement =>
    .ok (.one (.ofPoint (options.contains .ascii) (options.contains .ignoreCase) n complement))
  | .set items complement =>
    .ok (.one (.ofItems (options.contains .ascii) (options.contains .ignoreCase) items complement))
  | .any =>
    .ok (.one (if options.contains .dotAll then .everything
      else { items := [.point 10], complement := true }))
  | .anchor sign => .ok (.anchor (sign.anchor options))
  | .reference number _ =>
    .ok (.reference (if !options.contains .ignoreCase then .exact
      else if options.contains .ascii then .ascii else .full) number)
  | .sequence items => meaningOfAll referenced options items
  | .alternatives branches => meaningOfAny referenced options branches
  | .repeated least most manner body => do
    if options.contains .template then throw (.meaningless (.repeatInTemplate manner))
    pure (Regex.repeatedBy manner least most (← meaning referenced options body))
  | .group number on off body => do
    let regex ← meaning referenced (RegexOption.changed options on off) body
    pure (match number with
      | some number => if referenced.contains number then .group number regex else regex
      | none => regex)
  | .atomic body => do pure (.atomic (← meaning referenced options body))
  | .look behind negative body => do
    let distance ← if behind then body.width.distance else pure 0
    pure (.look distance negative (← meaning referenced options body))
  | .conditional number yes no => do
    let yes ← meaning referenced options yes
    pure (.conditional number yes (← meaning referenced options no))

def meaningOfAll (referenced : List Nat) (options : List RegexOption) :
    List Expression → Except RegexError Regex
  | [] => .ok .empty
  | item :: items => do
    let first ← meaning referenced options item
    pure (.seq first (← meaningOfAll referenced options items))

def meaningOfAny (referenced : List Nat) (options : List RegexOption) :
    List Expression → Except RegexError Regex
  | [] => .ok .nothing
  | branch :: branches => do
    let first ← meaning referenced options branch
    pure (.either first (← meaningOfAny referenced options branches))

end

end Expression

def Regex.ofText (pattern : List Text.Point) (limits : Limits := {}) : Except RegexError Regex := do
  let written ← Written.ofText pattern limits
  written.body.meaning written.referenced written.options

end SourceSimilarity.Pattern
