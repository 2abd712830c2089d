import SourceSimilarity.Snapshot
import SourceSimilarity.Proofs.Source.Conversion
import SourceSimilarity.Proofs.Tree.Listing
import Mathlib.Data.List.TakeWhile

namespace SourceSimilarity

/-- Whether an offset is behind this many line ends and, from the start of its line, at this column.
Offsets, lines and columns are counted from zero. -/
def LiesAt (bytes : Bytes) (offset line column : Nat) : Prop :=
  ∃ lines rest, bytes.take offset = lines ++ rest ∧ (∀ last ∈ lines.getLast?, last = 10) ∧
    10 ∉ rest ∧ lines.count 10 = line ∧ lines.length + column = offset

theorem LiesAt.line_le {bytes : Bytes} {offset line column : Nat}
    (lies : LiesAt bytes offset line column) : line ≤ bytes.count 10 := by
  obtain ⟨lines, rest, split, -, -, rfl, -⟩ := lies
  have inBytes : (lines ++ rest).Sublist bytes := split ▸ List.take_sublist offset bytes
  exact ((List.sublist_append_left lines rest).trans inBytes).count_le 10

theorem startPoint_liesAt (bytes : Bytes) (offset : Nat) :
    LiesAt bytes offset (Snapshot.startPoint bytes offset).1
      (Snapshot.startPoint bytes offset).2 := by
  let before := bytes.take offset
  let rest := (before.reverse.takeWhile (· != 10)).reverse
  let lines := (before.reverse.dropWhile (· != 10)).reverse
  have split : before = lines ++ rest := by
    rw [← List.reverse_append, List.takeWhile_append_dropWhile, List.reverse_reverse]
  have noEnd : 10 ∉ rest := by
    intro member
    simpa using List.mem_takeWhile_imp (List.mem_reverse.mp member)
  refine ⟨lines, rest, split, ?_, noEnd, ?_, ?_⟩
  · intro last member
    rw [List.getLast?_reverse, Option.mem_def] at member
    have stops := List.head?_dropWhile_not (· != 10) before.reverse
    rw [member] at stops
    simpa using stops
  · change lines.count 10 = before.count 10
    rw [split, List.count_append, List.count_eq_zero_of_not_mem noEnd, Nat.add_zero]
  · have length := congrArg List.length split
    have short : before.length ≤ offset := List.length_take_le _ _
    have all : rest.length = (before.reverse.takeWhile (· != 10)).length := List.length_reverse
    change lines.length +
      (offset - (before.length - (before.reverse.takeWhile (· != 10)).length)) = offset
    rw [List.length_append] at length
    omega

/-- That the line and the column of a node are those of its first byte. -/
def SyntaxNode.IsLocated (bytes : Bytes) (node : SyntaxNode) : Prop :=
  LiesAt bytes node.start node.startPoint.1 node.startPoint.2

theorem SyntaxNode.isLocated_of_startPoint {bytes : Bytes} {node : SyntaxNode}
    (same : Snapshot.startPoint bytes node.start = node.startPoint) : node.IsLocated bytes := by
  rw [SyntaxNode.IsLocated, ← same]
  exact startPoint_liesAt bytes node.start

theorem Snapshot.isLocated_of_node? {bytes : Bytes} {v : Json.Value} {node : SyntaxNode}
    {parent : Option Nat} (found : Snapshot.node? bytes v = some (node, parent)) :
    node.IsLocated bytes := by
  unfold Snapshot.node? at found
  split at found
  · obtain ⟨rfl, -⟩ := Prod.mk.inj (Option.some.inj found)
    exact SyntaxNode.isLocated_of_startPoint rfl
  · cases found

namespace ParsedSource

theorem mem_of_firstError? {trees : List (Tree SyntaxNode)} {node : SyntaxNode}
    (found : firstError? trees = some node) : node ∈ trees.flatMap Tree.preOrder := by
  fun_induction firstError? trees with
  | case1 => cases found
  | case2 other children rest fault =>
      obtain rfl := Option.some.inj found
      simp [Tree.preOrder]
  | case3 other children rest sound error ih =>
      rw [List.flatMap_cons, Tree.preOrder, Tree.preOrderAll_eq]
      rw [List.flatMap_append] at ih
      exact List.mem_cons_of_mem _ (ih found)
  | case4 other children rest sound unmarked ih =>
      rw [List.flatMap_cons]
      exact List.mem_append_right _ (ih found)

theorem exists_errorAt (path : String) (root : Tree SyntaxNode) :
    ∃ node ∈ root.preOrder, ∃ detail, errorOf path root = errorAt path node detail := by
  rw [errorOf]
  cases found : firstError? [root] with
  | some node => exact ⟨node, by simpa using mem_of_firstError? found, _, rfl⟩
  | none =>
      refine ⟨root.label, ?_, _, rfl⟩
      cases root
      exact List.mem_cons_self

/-- Every error of a parsed text stands at a node of the tree that the parser gave. -/
theorem exists_errorAt_of_refused {parser : Parser} {path : String} {language : Language}
    {prepared : List Char} {error : SourceError}
    (refused : parsePrepared parser path language prepared = .error (.refused error)) :
    ∃ root, parser language (String.ofList prepared) = .tree root ∧
      ∃ node ∈ root.preOrder, ∃ detail, error = errorAt path node detail := by
  rw [parsePrepared] at refused
  split at refused
  · cases refused
  · cases refused
  · cases refused
  · rename_i root reply
    split at refused
    · obtain rfl : errorOf path root = error := by simpa using refused
      exact ⟨root, reply, exists_errorAt path root⟩
    · cases refused

end ParsedSource

end SourceSimilarity
