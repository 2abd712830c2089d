import SourceSimilarity.Scan.Cache
import SourceSimilarity.Config.Basic
import SourceSimilarity.EditDistance
import SourceSimilarity.Fingerprint.Text
import SourceSimilarity.Tree.EditDistance
import SourceSimilarity.Tree.Shape

namespace SourceSimilarity

def Artefact : Comparator → Type
  | .byteEdit => Bytes
  | .tokenEdit => Option (List Int)
  | .moss => List Int
  | .treeEdit => Option (Tree.PostOrder String)
  | .isomorphism => Option (List Char)

inductive UnitError where
  | broken (breakdown : Breakdown)
  | emptyTree
  | scoreTooLarge (score : Nat)
deriving DecidableEq, Repr

namespace Artefact

def missing : (comparator : Comparator) → Artefact comparator
  | .byteEdit => ([] : Bytes)
  | .tokenEdit => (none : Option (List Int))
  | .moss => ([] : List Int)
  | .treeEdit => (none : Option (Tree.PostOrder String))
  | .isomorphism => (none : Option (List Char))

def compare : (comparator : Comparator) → Artefact comparator → Artefact comparator →
    Nat × Option EditDistance.Warning
  | .byteEdit, (a : Bytes), (b : Bytes) => EditDistance.limited a b
  | .moss, (a : List Int), (b : List Int) => EditDistance.limited a b
  | .tokenEdit, (a : Option (List Int)), (b : Option (List Int)) =>
    match a, b with
    | some a, some b => EditDistance.limited a b
    | _, _ => (incomparable, none)
  | .treeEdit, (a : Option (Tree.PostOrder String)), (b : Option (Tree.PostOrder String)) =>
    match a, b with
    | some a, some b => (Tree.editDistance a b, none)
    | _, _ => (incomparable, none)
  | .isomorphism, (a : Option (List Char)), (b : Option (List Char)) =>
    match a, b with
    | some a, some b => (if a = b then 0 else 1, none)
    | _, _ => (incomparable, none)

/-- The post-order view of a parsed source, whose tree must not be empty. -/
def treeOf : Option ParsedSource → Except UnitError (Option (Tree.PostOrder String))
  | none => .ok none
  | some source =>
    match Tree.PostOrder.ofTable? source.tree with
    | some view => .ok (some view)
    | none => .error .emptyTree

def afterAccess {α β : Type} (access : Access (Except Breakdown α)) (f : α → Except UnitError β) :
    Access (Except UnitError β) :=
  { value := match access.value with
      | .ok value => f value
      | .error breakdown => .error (.broken breakdown)
    cache := access.cache
    lines := access.lines }

def take (cache : Cache) (sources : Sources) (config : Config) (path : String) :
    (comparator : Comparator) → Access (Except UnitError (Artefact comparator))
  | .byteEdit =>
    afterAccess (cache.normalized sources config.normalizer path) fun (bytes : Bytes) =>
      Except.ok bytes
  | .moss =>
    afterAccess (cache.normalized sources config.normalizer path) fun (bytes : Bytes) =>
      Except.ok (Fingerprint.ofText config.k config.w
        ((Text.decodeReplacing bytes).map .char))
  | .tokenEdit =>
    afterAccess (cache.parse sources path) fun (source : Option ParsedSource) =>
      Except.ok (source.map ParsedSource.tokenKinds)
  | .treeEdit => afterAccess (cache.parse sources path) treeOf
  | .isomorphism =>
    afterAccess (cache.parse sources path) fun (source : Option ParsedSource) =>
      Except.ok (source.map fun source => source.tree.shapeName)

end Artefact

end SourceSimilarity
