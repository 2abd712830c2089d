import SourceSimilarity.Proofs.Source.Conversion
import SourceSimilarity.Proofs.Tree.Listing

namespace SourceSimilarity.ParsedSource

structure Kept where
  node : SyntaxNode
  parent : Option String
  isToken : Bool

def Kept.type (kept : Kept) : String := kept.node.type

variable (language : Language) (bytes : Array UInt8)

def Kept.token? (kept : Kept) : Option Token :=
  if kept.isToken then
    kept.parent.map fun parent => {
      kind := kept.node.kind
      text := nodeText bytes kept.node
      isVariable := language.isVariableUse kept.node.type (some parent) }
  else none

mutual

/-- The tree that is kept of a syntax tree below a parent of some type. -/
def kept (parent : Option String) : Tree SyntaxNode → Tree Kept
  | .node node children =>
    if children.isEmpty || language.isAtomic node.type then .node ⟨node, parent, true⟩ []
    else .node ⟨node, parent, false⟩ (keptAll (some node.type) children)

def keptAll (parent : Option String) : List (Tree SyntaxNode) → List (Tree Kept)
  | [] => []
  | .node node children :: trees =>
    if node.isExtra then keptAll parent trees
    else kept parent (.node node children) :: keptAll parent trees

end

def tokensOf (trees : List (Tree Kept)) : List Token :=
  (Tree.preOrderAll trees).filterMap (Kept.token? language bytes)

variable {language bytes}

theorem tokensOf_cons (item : Kept) (children trees : List (Tree Kept)) :
    tokensOf language bytes (.node item children :: trees) =
      (item.token? language bytes).toList ++
        (tokensOf language bytes children ++ tokensOf language bytes trees) := by
  rw [tokensOf, Tree.preOrderAll, Tree.preOrder, List.cons_append, List.filterMap_cons,
    List.filterMap_append, ← tokensOf, ← tokensOf]
  cases item.token? language bytes <;> rfl

theorem convert_below (language : Language) (bytes : Array UInt8) {table : Tree.Table String}
    (parent : Nat × String) (inside : parent.1 < table.size) (waiting : List Pending) :
    (children : List (Tree SyntaxNode)) →
      convert language bytes table (Pending.below parent children ++ waiting) =
        Prod.map id (tokensOf language bytes (keptAll language (some parent.2) children) ++ ·)
          (convert language bytes
            (table.graft parent.1
              (Tree.mapAll Kept.type (keptAll language (some parent.2) children))) waiting)
  | [] => by
    rw [keptAll, Tree.mapAll, Tree.Table.graft_nil]
    rfl
  | .node node children :: trees => by
    rw [Pending.below, List.map_cons, List.cons_append, ← Pending.below, convert, keptAll]
    by_cases extra : node.isExtra = true
    · rw [if_pos extra, if_pos extra]
      exact convert_below language bytes parent inside waiting trees
    · have entered : table.size < (table.add node.type (some parent.1)).size := by
        rw [Tree.Table.size_add]
        exact Nat.lt_succ_self _
      rw [if_neg extra, if_neg extra, kept]
      by_cases single : (children.isEmpty || language.isAtomic node.type) = true
      · have rest := convert_below language bytes parent (inside.trans entered) waiting trees
        rw [if_pos single, if_pos single, Tree.mapAll, Tree.map, Tree.mapAll,
          Tree.Table.graft_cons inside, Tree.Table.graft_nil, tokensOf_cons]
        simp only [Option.map_some, rest]
        rfl
      · -- first the children of the node, then the trees behind it
        have below := convert_below language bytes (table.size, node.type) entered
          (Pending.below parent trees ++ waiting) children
        have known : parent.1 < ((table.add node.type (some parent.1)).graft table.size
            (Tree.mapAll Kept.type (keptAll language (some node.type) children))).size := by
          rw [Tree.Table.size_graft]
          omega
        have rest := convert_below language bytes parent known waiting trees
        rw [if_neg single, if_neg single, Tree.mapAll, Tree.map, Tree.Table.graft_cons inside,
          tokensOf_cons]
        simp only [Option.map_some, below, rest]
        exact Prod.ext rfl (List.append_assoc _ _ _).symm
termination_by children => Tree.sizeAll children
decreasing_by
  all_goals simp only [Tree.sizeAll, Tree.size]
  all_goals omega

theorem convert_kept {root : Tree SyntaxNode} (plain : root.label.isExtra = false) :
    convert language bytes .empty [⟨root, none⟩] =
      (((kept language none root).map Kept.type).toTable,
        (kept language none root).preOrder.filterMap (Kept.token? language bytes)) := by
  obtain ⟨node, children⟩ := root
  have tokens : (kept language none (.node node children)).preOrder.filterMap
      (Kept.token? language bytes) =
        tokensOf language bytes [kept language none (.node node children)] := by
    rw [tokensOf, Tree.preOrderAll, Tree.preOrderAll, List.append_nil]
  rw [Tree.label] at plain
  rw [tokens, convert, if_neg (Bool.eq_false_iff.mp plain), kept]
  dsimp only [Option.map_none]
  by_cases single : (children.isEmpty || language.isAtomic node.type) = true
  · rw [if_pos single, if_pos single, convert, tokensOf_cons, Tree.map, Tree.mapAll,
      ← Tree.Table.graft_root, Tree.Table.graft_nil]
    rfl
  · have inside : 0 < (Tree.Table.empty.add node.type none).size := Nat.lt_succ_self 0
    have below := convert_below language bytes (0, node.type) inside [] children
    rw [if_neg single, if_neg single, Tree.Table.size_empty, below, convert, tokensOf_cons,
      Tree.map, ← Tree.Table.graft_root]
    exact Prod.ext rfl rfl

theorem parse_of_ready (parser : Parser) (path : String) {text : String} {prepared : List Char}
    (ready : prepared? language text = some prepared) :
    parse parser path language text = parsePrepared parser path language prepared := by
  rw [parse, ready]

theorem prepared?_spelled (language : Language) (text : List Char) :
    prepared? language (Text.spelled text) = some (parserText language text) := by
  rw [prepared?, Text.spelled, Text.points_toList_ofPoints]
  simp only [Text.whole?_map_char]

/-- A text with a correct tree is parsed into the table of what is kept of the tree. -/
theorem parse_eq_kept (parser : Parser) (path : String) {text : String} {prepared : List Char}
    {root : Tree SyntaxNode} (ready : prepared? language text = some prepared)
    (parsed : parser language (String.ofList prepared) = .tree root)
    (correct : root.label.hasError = false) (plain : root.label.isExtra = false) :
    ∃ source, parse parser path language text = .ok source ∧
      source.language = language ∧
      source.text = String.ofList prepared ∧
      source.tree = ((kept language none root).map Kept.type).toTable ∧
      source.tree.toTree? = some ((kept language none root).map Kept.type) ∧
      source.tree.PreOrdered ∧
      source.tokens = (kept language none root).preOrder.filterMap
        (Kept.token? language (Text.encode prepared).toArray) := by
  have found := (parse_of_ready parser path ready).trans
    (parsePrepared_eq_ok_iff.mpr ⟨root, parsed, correct, rfl⟩)
  rw [convert_kept plain] at found
  exact ⟨_, found, rfl, rfl, rfl, Tree.Table.toTree?_toTable _,
    Tree.Table.preOrdered_toTable _, rfl⟩

def literalRoot : Tree SyntaxNode :=
  let leaf (type : String) (kind start stop : Nat) (extra : Bool) : Tree SyntaxNode :=
    .node ⟨type, kind, start, stop, (0, start), extra, false, false⟩ []
  .node ⟨"program", 0, 0, 8, (0, 0), false, false, false⟩ [
    .node ⟨"expression", 1, 0, 4, (0, 0), false, false, false⟩ [
      leaf "identifier" 2 0 1 false,
      .node ⟨"string_literal", 3, 1, 4, (0, 1), false, false, false⟩ [
        leaf "quote" 4 1 2 false, leaf "string_fragment" 5 2 3 false, leaf "quote" 4 3 4 false]],
    .node ⟨"block", 6, 4, 8, (0, 4), false, false, false⟩ [leaf "block_comment" 7 4 8 true]]

theorem parse_eq_kept_of_literalRoot :
    ∃ source, parse (fun _ _ => .tree literalRoot) "A.java" .java "f\"a\"/**/" = .ok source ∧
      source.tree.entries.toList.map (fun entry => (entry.label, entry.parent)) =
        [("program", none), ("expression", some 0), ("identifier", some 1),
          ("string_literal", some 1), ("block", some 0)] ∧
      (List.range 5).map source.tree.childrenOf = [[1, 4], [2, 3], [], [], []] ∧
      source.tokens = [⟨2, "f".toList, true⟩, ⟨3, "\"a\"".toList, false⟩] := by
  have ready : prepared? .java "f\"a\"/**/" = some "f\"a\"/**/".toList := by decide +kernel
  obtain ⟨source, parsed, -, -, tree, -, -, tokens⟩ :=
    parse_eq_kept (fun _ _ => .tree literalRoot) "A.java" ready rfl rfl rfl
  refine ⟨source, parsed, ?_, ?_, ?_⟩
  · rw [tree]
    decide +kernel
  · rw [tree]
    decide +kernel
  · rw [tokens]
    decide +kernel

end SourceSimilarity.ParsedSource
