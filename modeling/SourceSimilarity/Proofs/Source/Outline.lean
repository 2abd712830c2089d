import SourceSimilarity.Proofs.Source.Conversion
import SourceSimilarity.Proofs.Tree.Rows

namespace SourceSimilarity.ParsedSource

/-- What an outline tells of a node: its type by name and by number, whether it has no children, not
even extra ones, and its text if it is a token that names no variable. -/
structure Feature where
  type : String
  kind : Int
  isLeaf : Bool
  text : Option (List Char)
deriving DecidableEq

variable (language : Language) (bytes : Array UInt8)

/-- The feature of a node below a parent of some type. A node with a node above it that counts as one
token is `covered`: it is no token itself. -/
def feature (parent : Option String) (covered : Bool) (node : SyntaxNode) (isLeaf : Bool) :
    Feature where
  type := node.type
  kind := node.kind
  isLeaf := isLeaf
  text :=
    if parent.isSome && !covered && (isLeaf || language.isAtomic node.type) &&
        !language.isVariableUse node.type parent then
      some (nodeText bytes node)
    else none

mutual

/-- The tree of the features of the nodes that are left when the extra ones are dropped with all
below them; no tree if the root is extra. -/
def core (parent : Option String) (covered : Bool) : Tree SyntaxNode → List (Tree Feature)
  | .node node children =>
    if node.isExtra then []
    else
      [.node (feature language bytes parent covered node children.isEmpty)
        (coreAll (some node.type) (covered || language.isAtomic node.type) children)]

def coreAll (parent : Option String) (covered : Bool) :
    List (Tree SyntaxNode) → List (Tree Feature)
  | [] => []
  | tree :: trees => core parent covered tree ++ coreAll parent covered trees

end

/-- The nodes of a syntax tree that are not extra nor below an extra one, in pre-order, each with
the place of its parent in the list. -/
def outline (root : Tree SyntaxNode) : List (Feature × Option Nat) :=
  (core language bytes none false root).flatMap Tree.rows

variable {language bytes} {bytes' : Array UInt8}

theorem core_of_isExtra {parent : Option String} {covered : Bool} {node : SyntaxNode}
    (extra : node.isExtra = true) (children : List (Tree SyntaxNode)) :
    core language bytes parent covered (.node node children) = [] := by
  rw [core, if_pos extra]

theorem core_of_not_isExtra {parent : Option String} {covered : Bool} {node : SyntaxNode}
    (plain : ¬ node.isExtra = true) (children : List (Tree SyntaxNode)) :
    core language bytes parent covered (.node node children) =
      [.node (feature language bytes parent covered node children.isEmpty)
        (coreAll language bytes (some node.type) (covered || language.isAtomic node.type)
          children)] := by
  rw [core, if_neg plain]

theorem core_eq_of_outline_eq {root root' : Tree SyntaxNode}
    (plain : ¬ root.label.isExtra = true) (plain' : ¬ root'.label.isExtra = true)
    (same : outline language bytes root = outline language bytes' root') :
    core language bytes none false root = core language bytes' none false root' := by
  obtain ⟨node, children⟩ := root
  obtain ⟨node', children'⟩ := root'
  rw [Tree.label] at plain plain'
  rw [outline, outline, core_of_not_isExtra plain, core_of_not_isExtra plain',
    List.flatMap_singleton, List.flatMap_singleton] at same
  rw [core_of_not_isExtra plain, core_of_not_isExtra plain', Tree.rows_inj same]

def Pending.cores (language : Language) (bytes : Array UInt8) (waiting : List Pending) :
    List (Option (Nat × String) × Tree Feature) :=
  waiting.flatMap fun pending =>
    (core language bytes (pending.parent.map (·.2)) false pending.tree).map (pending.parent, ·)

theorem Pending.cores_cons (first : Pending) (waiting : List Pending) :
    Pending.cores language bytes (first :: waiting) =
      (core language bytes (first.parent.map (·.2)) false first.tree).map (first.parent, ·) ++
        Pending.cores language bytes waiting := by
  rw [cores, List.flatMap_cons]
  rfl

theorem Pending.cores_below_append (parent : Nat × String) (children : List (Tree SyntaxNode))
    (waiting : List Pending) :
    Pending.cores language bytes (Pending.below parent children ++ waiting) =
      (coreAll language bytes (some parent.2) false children).map (some parent, ·) ++
        Pending.cores language bytes waiting := by
  induction children with
  | nil => rfl
  | cons tree trees ih =>
      rw [Pending.below, List.map_cons, List.cons_append, cores_cons, coreAll, List.map_append,
        List.append_assoc, ← ih]
      rfl

theorem exists_entered (language : Language) (bytes : Array UInt8) (waiting : List Pending) :
    (Pending.cores language bytes waiting = [] ∧
      ∀ table, convert language bytes table waiting = (table, [])) ∨
    ∃ node children parent rest, ¬ node.isExtra = true ∧
      Pending.cores language bytes waiting =
        Pending.cores language bytes (⟨.node node children, parent⟩ :: rest) ∧
      pendingSize (⟨.node node children, parent⟩ :: rest) ≤ pendingSize waiting ∧
      ∀ table, convert language bytes table waiting =
        convert language bytes table (⟨.node node children, parent⟩ :: rest) := by
  induction waiting with
  | nil => exact .inl ⟨rfl, fun table => by rw [convert]⟩
  | cons first waiting ih =>
      obtain ⟨⟨node, children⟩, parent⟩ := first
      by_cases extra : node.isExtra = true
      · have cores : Pending.cores language bytes (⟨.node node children, parent⟩ :: waiting) =
            Pending.cores language bytes waiting := by
          rw [Pending.cores_cons, core_of_isExtra extra]
          rfl
        have converted : ∀ table, convert language bytes table
            (⟨.node node children, parent⟩ :: waiting) = convert language bytes table waiting := by
          intro table
          rw [convert, if_pos extra]
        simp only [cores, converted]
        rcases ih with nothing | ⟨node', children', parent', rest, plain, same, small, equal⟩
        · exact .inl nothing
        · refine .inr ⟨node', children', parent', rest, plain, same, small.trans ?_, equal⟩
          rw [pendingSize_cons]
          exact Nat.le_add_left _ _
      · exact .inr ⟨node, children, parent, waiting, extra, rfl, Nat.le_refl _, fun _ => rfl⟩

/-- The kind of a token, and its text if it names no variable. -/
def shown (token : Token) : Int × Option (List Char) :=
  (token.kind, if token.isVariable then none else some token.text)

theorem tokenKinds_eq (source : ParsedSource) :
    source.tokenKinds = (source.tokens.map shown).map (·.1) := by
  rw [tokenKinds, List.map_map]
  rfl

theorem normalizedText_eq (source : ParsedSource) :
    source.normalizedText = (source.tokens.map shown).flatMap fun token => token.2.getD sentinel := by
  rw [normalizedText, List.flatMap_map]
  congr 1
  funext token
  cases variableUse : token.isVariable <;> simp [shown, variableUse]

/-- Two tokens with the same feature differ at most in the name of a variable. -/
theorem shown_eq_of_feature_eq {parentType : String} {node node' : SyntaxNode} {isLeaf : Bool}
    (same : feature language bytes (some parentType) false node isLeaf =
      feature language bytes' (some parentType) false node' isLeaf)
    (token : (isLeaf || language.isAtomic node.type) = true) :
    shown ⟨node.kind, nodeText bytes node, language.isVariableUse node.type (some parentType)⟩ =
      shown ⟨node'.kind, nodeText bytes' node',
        language.isVariableUse node'.type (some parentType)⟩ := by
  have type : node.type = node'.type := congrArg Feature.type same
  have kind : node.kind = node'.kind := congrArg Feature.kind same
  have text := congrArg Feature.text same
  simp only [feature, ← type, token] at text
  rw [shown, shown, ← type, kind]
  cases variableUse : language.isVariableUse node.type (some parentType) with
  | true => rfl
  | false =>
      rw [variableUse] at text
      exact congrArg (Prod.mk node'.kind) text

theorem convert_congr {waiting waiting' : List Pending}
    (same : Pending.cores language bytes waiting = Pending.cores language bytes' waiting')
    (table : Tree.Table String) :
    (convert language bytes table waiting).1 = (convert language bytes' table waiting').1 ∧
      (convert language bytes table waiting).2.map shown =
        (convert language bytes' table waiting').2.map shown := by
  induction size : pendingSize waiting using Nat.strongRecOn generalizing waiting waiting' table with
  | _ size ih =>
      rcases exists_entered language bytes waiting with
        ⟨nothing, converted⟩ | ⟨node, children, parent, rest, plain, entered, small, converted⟩ <;>
      rcases exists_entered language bytes' waiting' with
        ⟨nothing', converted'⟩ |
          ⟨node', children', parent', rest', plain', entered', -, converted'⟩
      · rw [converted, converted']
        exact ⟨rfl, rfl⟩
      · rw [nothing, entered', Pending.cores_cons, core_of_not_isExtra plain'] at same
        cases same
      · rw [nothing', entered, Pending.cores_cons, core_of_not_isExtra plain] at same
        cases same
      · rw [converted, converted']
        rw [entered, entered', Pending.cores_cons, Pending.cores_cons, core_of_not_isExtra plain,
          core_of_not_isExtra plain', List.map_singleton, List.map_singleton,
          List.singleton_append, List.singleton_append, List.cons.injEq, Prod.mk.injEq,
          Tree.node.injEq] at same
        obtain ⟨⟨rfl, features, below⟩, later⟩ := same
        rw [pendingSize_cons, Tree.size] at small
        have type : node.type = node'.type := congrArg Feature.type features
        have leaf : children.isEmpty = children'.isEmpty := congrArg Feature.isLeaf features
        rw [convert, convert, if_neg plain, if_neg plain', ← type, ← leaf]
        by_cases token : (children.isEmpty || language.isAtomic node.type) = true
        · rw [if_pos token, if_pos token]
          cases parent with
          | none => exact ih (pendingSize rest) (by omega) later _ rfl
          | some parent =>
              obtain ⟨tables, tokens⟩ := ih (pendingSize rest) (by omega) later
                (table.add node.type (some parent.1)) rfl
              rw [← leaf] at features
              have head := shown_eq_of_feature_eq features token
              rw [← type] at head
              refine ⟨tables, ?_⟩
              rw [List.map_cons, List.map_cons]
              exact congrArg₂ List.cons head tokens
        · rw [if_neg token, if_neg token]
          have inner : language.isAtomic node.type = false :=
            (Bool.or_eq_false_iff.mp (Bool.eq_false_iff.mpr token)).2
          refine ih (pendingSize (Pending.below (table.size, node.type) children ++ rest)) ?_ ?_ _ rfl
          · rw [pendingSize_below_append]
            omega
          · rw [← type, inner] at below
            rw [Pending.cores_below_append, Pending.cores_below_append, later]
            exact congrArg (· ++ _) (congrArg _ below)

end SourceSimilarity.ParsedSource
