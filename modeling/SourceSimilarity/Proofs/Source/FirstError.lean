import SourceSimilarity.Proofs.Source.Kept
import Mathlib.Data.List.TakeWhile

namespace SourceSimilarity

def SyntaxNode.isFault (node : SyntaxNode) : Bool := node.type = "ERROR" || node.isMissing

/-- Every node is marked if and only if there is a fault at or below it. -/
inductive Marked : Tree SyntaxNode → Prop
  | node {node : SyntaxNode} {children : List (Tree SyntaxNode)} :
    (node.hasError = true ↔
      ∃ fault ∈ (Tree.node node children).preOrder, fault.isFault = true) →
    (∀ child ∈ children, Marked child) → Marked (.node node children)

theorem Marked.hasError_iff {root : Tree SyntaxNode} (marked : Marked root) :
    root.label.hasError = true ↔ ∃ node ∈ root.preOrder, node.isFault = true := by
  cases marked with
  | node mark _ => exact mark

theorem Marked.of_children {node : SyntaxNode} {children : List (Tree SyntaxNode)}
    (mark : node.hasError = (node.isFault || children.any (·.label.hasError)))
    (below : ∀ child ∈ children, Marked child) : Marked (.node node children) := by
  refine .node ?_ below
  have inChild : children.any (·.label.hasError) =
      children.any (·.preOrder.any SyntaxNode.isFault) := by
    rw [Bool.eq_iff_iff, List.any_eq_true, List.any_eq_true]
    refine exists_congr fun child => and_congr_right fun member => ?_
    rw [(below child member).hasError_iff, List.any_eq_true]
  rw [← List.any_eq_true, mark, inChild, Tree.preOrder, Tree.preOrderAll_eq, List.any_cons,
    List.any_flatMap]

namespace ParsedSource

variable {language : Language} {path : String}

theorem firstError?_eq {trees : List (Tree SyntaxNode)} (marked : ∀ tree ∈ trees, Marked tree) :
    firstError? trees = (trees.flatMap Tree.preOrder).find? SyntaxNode.isFault := by
  fun_induction firstError? trees with
  | case1 => rfl
  | case2 node children rest fault =>
      have isFault : node.isFault = true := by simpa [SyntaxNode.isFault] using fault
      simp [Tree.preOrder, isFault]
  | case3 node children rest sound error ih =>
      have notFault : node.isFault = false := by simpa [SyntaxNode.isFault] using sound
      obtain ⟨first, later⟩ := List.forall_mem_cons.mp marked
      cases first with
      | node _ below =>
        rw [ih (List.forall_mem_append.mpr ⟨below, later⟩)]
        simp [Tree.preOrder, Tree.preOrderAll_eq, notFault]
  | case4 node children rest sound unmarked ih =>
      obtain ⟨first, later⟩ := List.forall_mem_cons.mp marked
      cases first with
      | node mark _ =>
        have none : (Tree.node node children).preOrder.find? SyntaxNode.isFault = none := by
          simpa [unmarked] using mark
        rw [ih later, List.flatMap_cons, List.find?_append, none, Option.none_or]

theorem parse_of_tree (parser : Parser) (path : String) {text : String} {prepared : List Char}
    {root : Tree SyntaxNode} (ready : prepared? language text = some prepared)
    (parsed : parser language (String.ofList prepared) = .tree root) :
    (root.label.hasError = false ∧ ∃ source, parse parser path language text = .ok source) ∨
      (root.label.hasError = true ∧
        parse parser path language text = .error (.refused (errorOf path root))) := by
  rw [parse_of_ready parser path ready]
  cases mark : root.label.hasError with
  | false => exact .inl ⟨rfl, _, parsePrepared_eq_ok_iff.mpr ⟨root, parsed, mark, rfl⟩⟩
  | true =>
      refine .inr ⟨rfl, ?_⟩
      rw [parsePrepared, parsed]
      exact if_pos mark

theorem wording_ne (node : SyntaxNode) : wording node ≠ "syntax error" := by
  intro same
  have letters := congrArg String.toList same
  rw [wording, String.toList_append] at letters
  split at letters <;> simp at letters

theorem errorOf_of_firstError? {root : Tree SyntaxNode} {node : SyntaxNode}
    (found : firstError? [root] = some node) :
    errorOf path root = errorAt path node (wording node) := by
  rw [errorOf, found]

/-- A source is refused if and only if there is a fault in its tree, and then for the first one in
pre-order. -/
theorem parse_refuses_first_fault (parser : Parser) (path : String) {text : String}
    {prepared : List Char} {root : Tree SyntaxNode}
    (ready : prepared? language text = some prepared)
    (parsed : parser language (String.ofList prepared) = .tree root) (marked : Marked root) :
    ((∃ error, parse parser path language text = .error (.refused error)) ↔
      ∃ node ∈ root.preOrder, node.isFault = true) ∧
    ((∃ source, parse parser path language text = .ok source) ↔
      ∀ node ∈ root.preOrder, node.isFault = false) ∧
    (∀ front node back, root.preOrder = front ++ node :: back → node.isFault = true →
      (∀ earlier ∈ front, earlier.isFault = false) →
      parse parser path language text = .error (.refused {
        path
        line := node.startPoint.1 + 1
        column := node.startPoint.2 + 1
        detail := wording node })) ∧
    ∀ error, parse parser path language text = .error (.refused error) →
      error.detail ≠ "syntax error" := by
  have faulty := marked.hasError_iff
  have sound : root.label.hasError = false ↔ ∀ node ∈ root.preOrder, node.isFault = false := by
    simpa using not_congr faulty
  rcases parse_of_tree parser path ready parsed with
    ⟨unmarked, source, found⟩ | ⟨mark, found⟩
  · refine ⟨?_, ?_, fun front node back split fault => ?_, ?_⟩
    · rw [← faulty, unmarked, found]
      simp
    · rw [← sound, found]
      simp [unmarked]
    · have clean := sound.mp unmarked node (by simp [split])
      rw [fault] at clean
      cases clean
    · rw [found]
      exact nofun
  · have first : firstError? [root] = root.preOrder.find? SyntaxNode.isFault := by
      simpa using firstError?_eq (List.forall_mem_singleton.mpr marked)
    refine ⟨?_, ?_, fun front node back split fault clean => ?_, ?_⟩
    · rw [← faulty, found]
      simp [mark]
    · rw [← sound, mark, found]
      simp
    · have here : root.preOrder.find? SyntaxNode.isFault = some node :=
        List.find?_eq_some_iff_append.mpr ⟨fault, front, back, split, by simpa using clean⟩
      rw [found, errorOf_of_firstError? (first.trans here)]
      rfl
    · rintro error same
      rw [found] at same
      obtain rfl : errorOf path root = error := by simpa using same
      obtain ⟨node, here⟩ : ∃ node, root.preOrder.find? SyntaxNode.isFault = some node := by
        simpa [← Option.isSome_iff_exists] using faulty.mp mark
      rw [errorOf_of_firstError? (first.trans here)]
      exact wording_ne node

def unclosedString : Tree SyntaxNode :=
  .node ⟨"program", 0, 0, 8, (0, 0), false, false, true⟩ [
    .node ⟨"identifier", 1, 0, 1, (0, 0), false, false, false⟩ [],
    .node ⟨"annotation", 2, 4, 7, (1, 1), true, false, true⟩ [
      .node ⟨"string_literal", 3, 5, 7, (1, 2), false, false, true⟩ [
        .node ⟨"\"", 4, 7, 7, (1, 4), false, true, true⟩ []]],
    .node ⟨"ERROR", 5, 7, 8, (1, 4), false, false, true⟩ []]

theorem parse_refuses_first_fault_of_unclosedString :
    Marked unclosedString ∧
      parse (fun _ _ => .tree unclosedString) "A.java" .java "x;\n @\"s?" =
        .error (.refused ⟨"A.java", 2, 5, "missing '\"'"⟩) := by
  have leaf {node : SyntaxNode} (mark : node.hasError = node.isFault) : Marked (.node node []) :=
    .of_children (by simpa using mark) nofun
  have marked : Marked unclosedString := by
    refine .of_children (by decide) (List.forall_mem_cons.mpr ⟨leaf (by decide),
      List.forall_mem_cons.mpr ⟨?_, List.forall_mem_singleton.mpr (leaf (by decide))⟩⟩)
    refine .of_children (by decide) (List.forall_mem_singleton.mpr ?_)
    exact .of_children (by decide) (List.forall_mem_singleton.mpr (leaf (by decide)))
  have ready : prepared? .java "x;\n @\"s?" = some "x;\n @\"s?".toList := by decide +kernel
  have nodes : unclosedString.preOrder =
      [⟨"program", 0, 0, 8, (0, 0), false, false, true⟩,
        ⟨"identifier", 1, 0, 1, (0, 0), false, false, false⟩,
        ⟨"annotation", 2, 4, 7, (1, 1), true, false, true⟩,
        ⟨"string_literal", 3, 5, 7, (1, 2), false, false, true⟩] ++
      ⟨"\"", 4, 7, 7, (1, 4), false, true, true⟩ ::
        [⟨"ERROR", 5, 7, 8, (1, 4), false, false, true⟩] := rfl
  obtain ⟨-, -, reported, -⟩ := parse_refuses_first_fault (fun _ _ => .tree unclosedString)
    "A.java" ready rfl marked
  have refused := reported _ _ _ nodes rfl (by decide)
  have words : wording ⟨"\"", 4, 7, 7, (1, 4), false, true, true⟩ = "missing '\"'" := by
    decide +kernel
  rw [words] at refused
  exact ⟨marked, refused⟩

end ParsedSource

end SourceSimilarity
