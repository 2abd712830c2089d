import SourceSimilarity.Proofs.Macro.Recording
import SourceSimilarity.Proofs.Source.Kept
import SourceSimilarity.Proofs.Source.Located
import SourceSimilarity.Proofs.Text.Parts
import SourceSimilarity.Proofs.Text.Utf8

namespace SourceSimilarity.Macro

open Text (isBlank isWordChar stripStart strip)

variable {definitions : Definitions}

inductive LineExpands (definitions : Definitions) : (line expanded : List Char) → Prop
  | nil : LineExpands definitions [] []
  | copied (c : Char) {line expanded : List Char} : LineExpands definitions line expanded →
    LineExpands definitions (c :: line) (c :: expanded)
  | replaced {name value line expanded : List Char} : name ≠ [] →
    definitions.lookup name = some value → LineExpands definitions line expanded →
    LineExpands definitions (name ++ line) (value ++ expanded)

def StartsWithHash (line : List Char) : Prop := line.find? (!isBlank ·) = some '#'

instance (line : List Char) : Decidable (StartsWithHash line) :=
  inferInstanceAs (Decidable (line.find? (!isBlank ·) = some '#'))

/-- A line before and after directives are emptied and macros replaced. -/
def LineBecomes (definitions : Definitions) (line seen : List Char) : Prop :=
  if StartsWithHash line then seen = [] else LineExpands definitions line seen

@[simp] theorem linesOf_nil : linesOf [] = [[]] := List.splitOn_nil _

@[simp] theorem linesOf_lineEnd (text : List Char) :
    linesOf ('\n' :: text) = [] :: linesOf text := by
  simp [linesOf, List.splitOn_cons_eq_if_modifyHead]

theorem linesOf_append {part : List Char} (noEnd : '\n' ∉ part) (text : List Char) :
    linesOf (part ++ text) = (linesOf text).modifyHead (part ++ ·) :=
  Text.splitOn_append_of_notMem noEnd text

theorem linesOf_cons {c : Char} (other : c ≠ '\n') (text : List Char) :
    linesOf (c :: text) = (linesOf text).modifyHead (c :: ·) := by
  have noEnd : '\n' ∉ [c] := by simpa using other.symm
  exact linesOf_append noEnd text

theorem length_linesOf (text : List Char) : (linesOf text).length = text.count '\n' + 1 := by
  induction text with
  | nil => simp
  | cons c text ih =>
    by_cases lineEnd : c = '\n'
    · simp [lineEnd, ih]
    · simp [linesOf_cons lineEnd, List.count_cons_of_ne lineEnd, ih]

theorem lineEnd_notMem {text line : List Char} (member : line ∈ linesOf text) : '\n' ∉ line :=
  Text.notMem_of_mem_splitOn member

theorem isDirective_iff {line : List Char} : isDirective line = true ↔ StartsWithHash line := by
  rw [isDirective, stripStart, beq_iff_eq, StartsWithHash, List.find?_not_eq_head?_dropWhile]

theorem stripLine_eq (line : List Char) :
    stripLine line = if StartsWithHash line then [] else line :=
  if_congr isDirective_iff rfl rfl

theorem linesOf_stripDirectives (text : List Char) :
    linesOf (stripDirectives text).1 = (linesOf text).map stripLine := by
  refine List.splitOn_intercalate '\n' (List.forall_mem_map.mpr fun line member => ?_) ?_
  · rw [stripLine_eq]
    split
    · exact List.not_mem_nil
    · exact lineEnd_notMem member
  · simp [linesOf]

theorem mem_of_commentsBlanked {text blanked : List Char} (same : CommentsBlanked text blanked)
    {c : Char} (member : c ∈ blanked) : c = ' ' ∨ c ∈ text := by
  induction same with
  | nil => cases member
  | comment _ _ _ ih =>
    rcases List.mem_cons.mp member with blank | later
    · exact .inl blank
    · exact (ih later).imp_right (List.mem_append_right _)
  | copied _ _ ih =>
    rcases List.mem_cons.mp member with rfl | later
    · exact .inr List.mem_cons_self
    · exact (ih later).imp_right (List.mem_cons_of_mem _)

theorem lineEnd_notMem_value {text name value : List Char}
    (recorded : (name, value) ∈ (stripDirectives text).2) : '\n' ∉ value := by
  obtain ⟨line, inText, defined⟩ := exists_directive_of_mem recorded
  obtain ⟨whole, defines, rfl⟩ := exists_defines defined
  intro member
  rcases mem_of_commentsBlanked (commentsBlanked_blankComments whole)
    (Text.mem_of_mem_strip member) with blank | inValue
  · exact absurd blank (by decide)
  · apply lineEnd_notMem inText
    cases defines
    simp [inValue]

theorem lineEnd_notMem_name {name : List Char} (formed : Lexeme.Formed ⟨.identifier, name⟩) :
    '\n' ∉ name := by
  intro member
  have word := formed.isWordChar_of_mem '\n' member
  revert word
  decide

theorem LineExpands.eq_nil {line expanded : List Char}
    (expands : LineExpands definitions line expanded) (empty : line = []) : expanded = [] := by
  cases expands with
  | nil => rfl
  | copied c _ => cases empty
  | replaced some _ _ => exact absurd (List.append_eq_nil_iff.mp empty).1 some

theorem forall₂_modifyHead {lines expanded : List (List Char)} {f g : List Char → List Char}
    (heads : ∀ line seen, LineExpands definitions line seen →
      LineExpands definitions (f line) (g seen))
    (all : List.Forall₂ (LineExpands definitions) lines expanded) :
    List.Forall₂ (LineExpands definitions) (lines.modifyHead f) (expanded.modifyHead g) := by
  cases all with
  | nil => exact .nil
  | cons first rest => exact .cons (heads _ _ first) rest

theorem lines_expand (named : definitions.Named)
    (flat : ∀ name value, (name, value) ∈ definitions → '\n' ∉ value) (text : List Char) :
    List.Forall₂ (LineExpands definitions) (linesOf text) (linesOf (expand definitions text)) := by
  obtain ⟨pieces, rfl, result, values, -⟩ := replaces_apart named text
  rw [← result]
  clear result
  -- only a copied line end parts lines, on both sides
  induction pieces with
  | nil => exact .cons .nil .nil
  | cons piece pieces ih =>
    have later := ih fun name value member => values name value (List.mem_cons_of_mem _ member)
    rw [List.flatMap_cons, List.flatMap_cons]
    cases piece with
    | copied c =>
      by_cases lineEnd : c = '\n'
      · subst lineEnd
        simpa [Piece.source, Piece.result] using ⟨.nil, later⟩
      · change List.Forall₂ _ (linesOf (c :: _)) (linesOf (c :: _))
        rw [linesOf_cons lineEnd, linesOf_cons lineEnd]
        exact forall₂_modifyHead (fun line seen => .copied c) later
    | replaced name value =>
      have found := values name value List.mem_cons_self
      have entry : (name, value) ∈ definitions := by
        obtain ⟨_, _, rfl, -⟩ := List.lookup_eq_some_iff.mp found
        simp
      rw [Piece.source, Piece.result, linesOf_append (lineEnd_notMem_name (named _ entry)),
        linesOf_append (flat name value entry)]
      exact forall₂_modifyHead (fun line seen => .replaced (named _ entry).text_ne_nil found) later

/-- What is made ready for the parser has the lines of the joined text, each emptied if it is a
directive and else expanded, and the parser's errors are told with their numbers. -/
theorem preprocess_keeps_lines (text : List Char) :
    (preprocess text).count '\n' = (joinContinuations text).count '\n' ∧
    (∀ (number : Nat) line, (linesOf text)[number]? = some line →
      (linesOf (stripDirectives text).1)[number]? =
        some (if StartsWithHash line then [] else line)) ∧
    (∀ name value, (name, value) ∈ (stripDirectives text).2 → '\n' ∉ value) ∧
    List.Forall₂ (LineBecomes (stripDirectives (joinContinuations text)).2)
      (linesOf (joinContinuations text)) (linesOf (preprocess text)) ∧
    ∀ parser path error,
      (∀ root, parser .c (String.ofList (preprocess text)) = .tree root →
        ∀ node ∈ root.preOrder, node.IsLocated (Text.encode (preprocess text))) →
      ParsedSource.parse parser path .c (Text.spelled text) = .error (.refused error) →
      ∃ (offset number column : Nat) (line seen : List Char),
        LiesAt (Text.encode (preprocess text)) offset number column ∧
        error.line = number + 1 ∧ error.column = column + 1 ∧
        (linesOf (joinContinuations text))[number]? = some line ∧
        (linesOf (preprocess text))[number]? = some seen ∧
        LineBecomes (stripDirectives (joinContinuations text)).2 line seen := by
  let joined := joinContinuations text
  have expanded := lines_expand (named_definitionsOf (linesOf joined))
    (fun name value recorded => lineEnd_notMem_value recorded) (stripDirectives joined).1
  rw [linesOf_stripDirectives, List.forall₂_map_left_iff] at expanded
  have becomes : List.Forall₂ (LineBecomes (stripDirectives joined).2) (linesOf joined)
      (linesOf (preprocess text)) := by
    refine expanded.imp fun line seen expands => ?_
    rw [stripLine_eq] at expands
    by_cases hash : StartsWithHash line
    · rw [if_pos hash] at expands
      rw [LineBecomes, if_pos hash]
      exact expands.eq_nil rfl
    · rw [if_neg hash] at expands
      rw [LineBecomes, if_neg hash]
      exact expands
  have counts : (preprocess text).count '\n' = joined.count '\n' := by
    have lengths := becomes.length_eq
    rw [length_linesOf, length_linesOf] at lengths
    omega
  refine ⟨counts, fun number line here => ?_, fun name value => lineEnd_notMem_value, becomes,
    fun parser path error located refused => ?_⟩
  · rw [linesOf_stripDirectives, List.getElem?_map, here, Option.map_some, stripLine_eq]
  · rw [ParsedSource.parse_of_ready parser path (ParsedSource.prepared?_spelled .c text)] at refused
    obtain ⟨root, reply, node, member, detail, rfl⟩ :=
      ParsedSource.exists_errorAt_of_refused refused
    have lies : LiesAt (Text.encode (preprocess text)) node.start node.startPoint.1
        node.startPoint.2 := located root reply node member
    have inside := lies.line_le
    rw [Text.count_encode] at inside
    change node.startPoint.1 ≤ (preprocess text).count '\n' at inside
    have inJoined : node.startPoint.1 < (linesOf joined).length := by
      rw [length_linesOf]
      omega
    have inPrepared : node.startPoint.1 < (linesOf (preprocess text)).length := by
      rw [length_linesOf]
      omega
    exact ⟨node.start, node.startPoint.1, node.startPoint.2, _, _, lies, rfl, rfl,
      List.getElem?_eq_getElem inJoined, List.getElem?_eq_getElem inPrepared,
      becomes.get inJoined inPrepared⟩

def openBracket : List Char := "#define N \\\n12\nint /*\n*/ a[N\n".toList

def openBracketTree : Tree SyntaxNode := .node ⟨"ERROR", 0, 12, 15, (2, 4), false, false, true⟩ []

theorem preprocess_keeps_lines_of_openBracket :
    (∀ node ∈ openBracketTree.preOrder,
        node.IsLocated (Text.encode (preprocess openBracket))) ∧
      ∃ seen, ParsedSource.parse (fun _ _ => .tree openBracketTree) "a.c" .c
          (Text.spelled openBracket) = .error (.refused ⟨"a.c", 3, 5, "unexpected 'ERROR'"⟩) ∧
        (linesOf (joinContinuations openBracket))[2]? = some "*/ a[N".toList ∧
        (linesOf (preprocess openBracket))[2]? = some seen ∧
        LineBecomes [("N".toList, "12".toList)] "*/ a[N".toList seen := by
  have located : ∀ node ∈ openBracketTree.preOrder,
      node.IsLocated (Text.encode (preprocess openBracket)) := by
    refine List.forall_mem_singleton.mpr (SyntaxNode.isLocated_of_startPoint ?_)
    decide +kernel
  have told : ParsedSource.errorOf "a.c" openBracketTree = ⟨"a.c", 3, 5, "unexpected 'ERROR'"⟩ := by
    decide +kernel
  have refused : ParsedSource.parse (fun _ _ => .tree openBracketTree) "a.c" .c
      (Text.spelled openBracket) = .error (.refused ⟨"a.c", 3, 5, "unexpected 'ERROR'"⟩) := by
    rw [ParsedSource.parse_of_ready _ _ (ParsedSource.prepared?_spelled .c openBracket), ← told]
    rfl
  have macros : (stripDirectives (joinContinuations openBracket)).2 =
      [("N".toList, "12".toList)] := by
    decide +kernel
  have third : (linesOf (joinContinuations openBracket))[2]? = some "*/ a[N".toList := by
    decide +kernel
  obtain ⟨-, -, -, -, reported⟩ := preprocess_keeps_lines openBracket
  obtain ⟨_, number, _, line, seen, -, line', -, here, there, becomes⟩ :=
    reported (fun _ _ => .tree openBracketTree) "a.c" _
      (fun root same => by cases same; exact located) refused
  obtain rfl : 2 = number := Nat.succ.inj line'
  obtain rfl : "*/ a[N".toList = line := Option.some.inj (third.symm.trans here)
  exact ⟨located, seen, refused, third, there, macros ▸ becomes⟩

end SourceSimilarity.Macro
