import SourceSimilarity.Proofs.Macro.Splicing
import Mathlib.Data.List.Infix

/-!
What is recorded for a `define` directive. The comments of its value are found by a rule of their
own, for which quotes have no meaning: a comment is replaced by a blank wherever it begins, in a
literal as well. So what is recorded is the value with its comment lexemes replaced by blanks if and
only if no comment begins in a literal of it.
-/

namespace SourceSimilarity.Macro

open Text (isBlank isWordChar isDigit stripStart stripEnd strip)

/-- Whether a line is a directive that defines a macro without parameters, with all that follows the
name as its value. -/
inductive Defines : (line name value : List Char) → Prop
  | intro {margin gap space name value : List Char} : (∀ c ∈ margin, isBlank c = true) →
    (∀ c ∈ gap, isBlank c = true) → (∀ c ∈ space, isBlank c = true) → space ≠ [] →
    Lexeme.Formed ⟨.identifier, name⟩ → Stops isWordChar value → value.head? ≠ some '(' →
    Defines (margin ++ (['#'] ++ (gap ++ ("define".toList ++ (space ++ (name ++ value))))))
      name value

def OpensComment (text : List Char) : Prop :=
  ∃ opened after, Lexeme.Formed ⟨.comment, opened⟩ ∧ text = opened ++ after

/-- A text before and after its comments are replaced by blanks, wherever they begin. -/
inductive CommentsBlanked : (text blanked : List Char) → Prop
  | nil : CommentsBlanked [] []
  | comment {opened after blanked : List Char} : Lexeme.Formed ⟨.comment, opened⟩ →
    Lexeme.EndsBefore ⟨.comment, opened⟩ after → CommentsBlanked after blanked →
    CommentsBlanked (opened ++ after) (' ' :: blanked)
  | copied {c : Char} {rest blanked : List Char} : ¬OpensComment (c :: rest) →
    CommentsBlanked rest blanked → CommentsBlanked (c :: rest) (c :: blanked)

def Lexeme.blanked (lexeme : Lexeme) : List Char :=
  if lexeme.kind = .comment then [' '] else lexeme.text

def withoutComments (text : List Char) : List Char := (lexemes text).flatMap Lexeme.blanked

/-- Whether a comment begins in a part of a text, with this text after it. -/
def CommentBeginsIn (part after : List Char) : Prop :=
  ∃ inside rest, part = inside ++ rest ∧ rest ≠ [] ∧ OpensComment (rest ++ after)

/-- Whether a comment begins in a lexeme that is a literal, with this text after it. -/
def Lexeme.HidesComment (lexeme : Lexeme) (after : List Char) : Prop :=
  lexeme.kind = .literal ∧ CommentBeginsIn lexeme.text after

def HidesComment (text : List Char) : Prop :=
  ∃ front literal back, lexemes text = front ++ literal :: back ∧
    literal.HidesComment (back.flatMap (·.text))

/-! ## Blanks -/

theorem isBlank_of_startsIdentifier {c : Char} (starts : startsIdentifier c = true) :
    isBlank c = false := by
  have letter := toNat_of_startsIdentifier starts
  simp only [isBlank, Bool.or_eq_false_iff, Bool.and_eq_false_iff, decide_eq_false_iff_not,
    beq_eq_false_iff_ne]
  omega

theorem stripStart_append {margin text : List Char} (blank : ∀ c ∈ margin, isBlank c = true)
    (stops : Stops isBlank text) : stripStart (margin ++ text) = text :=
  (span_append blank stops).2

theorem exists_margin (text : List Char) :
    ∃ margin, (∀ c ∈ margin, isBlank c = true) ∧ text = margin ++ stripStart text :=
  ⟨text.takeWhile isBlank, fun _ => List.mem_takeWhile_imp, List.takeWhile_append_dropWhile.symm⟩

theorem stripEnd_prefix_self (text : List Char) : stripEnd text <+: text := by
  rw [← List.reverse_suffix, stripEnd, List.reverse_reverse]
  exact List.dropWhile_suffix _

theorem prefix_stripEnd {c : Char} (notBlank : isBlank c = false) (front back : List Char) :
    front ++ [c] <+: stripEnd (front ++ c :: back) := by
  have turned : (front ++ c :: back).reverse = back.reverse ++ (c :: front.reverse) := by simp
  rw [← List.reverse_suffix, stripEnd, List.reverse_reverse, turned, List.dropWhile_append,
    List.reverse_concat]
  split
  · rw [List.dropWhile_cons_of_neg (by simp [notBlank])]
  · exact List.suffix_append _ _

theorem strip_append_ne {kept : List Char} (inside : ∃ c ∈ kept, isBlank c = false) {c d : Char}
    (notBlank : isBlank d = false) (differ : c ≠ d) (back back' : List Char) :
    strip (kept ++ c :: back) ≠ strip (kept ++ d :: back') := by
  have some : (kept.dropWhile isBlank).isEmpty = false := by
    obtain ⟨first, member, notBlank⟩ := inside
    rw [List.isEmpty_eq_false_iff, ne_eq, List.dropWhile_eq_nil_iff]
    intro blank
    rw [blank first member] at notBlank
    cases notBlank
  have start : ∀ rest, stripStart (kept ++ rest) = stripStart kept ++ rest := fun rest => by
    rw [stripStart, List.dropWhile_append, some, if_neg Bool.false_ne_true]
    rfl
  intro same
  rw [strip, strip, start, start] at same
  have reached := prefix_stripEnd notBlank (stripStart kept) back'
  rw [← same] at reached
  obtain ⟨rest, cut⟩ := reached.trans (stripEnd_prefix_self (stripStart kept ++ c :: back))
  rw [List.append_assoc] at cut
  exact differ (List.cons.inj (List.append_cancel_left cut)).1.symm

/-! ## Directives -/

theorem dropWord?_append (word rest : List Char) : dropWord? word (word ++ rest) = some rest := by
  rw [dropWord?, if_pos (List.isPrefixOf_iff_prefix.mpr (List.prefix_append word rest)),
    List.drop_left]

theorem eq_append_of_dropWord? {word text rest : List Char}
    (found : dropWord? word text = some rest) : text = word ++ rest := by
  rw [dropWord?] at found
  split at found
  · rename_i first
    obtain ⟨tail, rfl⟩ := List.isPrefixOf_iff_prefix.mp first
    rw [List.drop_left, Option.some.injEq] at found
    rw [found]
  · cases found

theorem Defines.isDirective {line name value : List Char} (defines : Defines line name value) :
    isDirective line = true := by
  obtain ⟨margin, -⟩ := defines
  rw [Macro.isDirective, stripStart_append margin (by simp; decide)]
  rfl

theorem Defines.definition?_eq {line name value : List Char} (defines : Defines line name value) :
    definition? line = some (name, strip (blankComments value)) := by
  cases defines with
  | @intro margin gap space name value marginBlank gapBlank spaceBlank apart formed ends plain =>
  cases formed with
  | @identifier first body starts inside =>
    obtain ⟨taken, left⟩ := span_append inside ends
    have hash : ∀ rest, Stops isBlank (['#'] ++ rest) := fun rest =>
      stops_cons.mpr (by decide : isBlank '#' = false)
    have keyword : ∀ rest, Stops isBlank ("define".toList ++ rest) := fun rest =>
      stops_cons.mpr (by decide : isBlank 'd' = false)
    have begins : stripStart (space ++ (first :: body ++ value)) = first :: (body ++ value) :=
      stripStart_append spaceBlank (stops_cons.mpr (isBlank_of_startsIdentifier starts))
    have longer :
        (space ++ (first :: body ++ value)).length ≠ (first :: (body ++ value)).length := by
      have := List.length_pos_iff.mpr apart
      simp only [List.length_append, List.length_cons]
      omega
    rw [definition?, stripStart_append marginBlank (hash _), dropWord?_append]
    simp only [Option.bind_eq_bind, Option.bind_some]
    rw [stripStart_append gapBlank (keyword _), dropWord?_append]
    simp only [Option.bind_some, begins, if_neg longer, if_pos starts, taken, left, if_neg plain]

theorem exists_defines {line name replacement : List Char}
    (found : definition? line = some (name, replacement)) :
    ∃ value, Defines line name value ∧ replacement = strip (blankComments value) := by
  unfold definition? at found
  obtain ⟨hash, isHash, found⟩ := Option.bind_eq_some_iff.mp found
  obtain ⟨keyword, isKeyword, found⟩ := Option.bind_eq_some_iff.mp found
  obtain ⟨margin, marginBlank, marginCut⟩ := exists_margin line
  obtain ⟨gap, gapBlank, gapCut⟩ := exists_margin hash
  obtain ⟨space, spaceBlank, spaceCut⟩ := exists_margin keyword
  rw [eq_append_of_dropWord? isHash] at marginCut
  rw [eq_append_of_dropWord? isKeyword] at gapCut
  dsimp only at found
  split at found
  · cases found
  rename_i apart
  have some : space ≠ [] := by
    rintro rfl
    exact apart (congrArg List.length spaceCut)
  split at found
  · cases found
  rename_i first rest start
  split at found
  · rename_i starts
    split at found
    · cases found
    · rename_i plain
      obtain ⟨rfl, rfl⟩ := Prod.mk.inj (Option.some.inj found)
      refine ⟨rest.dropWhile isWordChar, ?_, rfl⟩
      have name : first :: rest =
          (first :: rest.takeWhile isWordChar) ++ rest.dropWhile isWordChar := by
        rw [List.cons_append, List.takeWhile_append_dropWhile]
      rw [marginCut, gapCut, spaceCut, start, name]
      exact .intro marginBlank gapBlank spaceBlank some
        (.identifier starts fun _ => List.mem_takeWhile_imp) (stops_dropWhile _ rest) plain
  · cases found

/-! ## The table of definitions -/

theorem lookup_define (name replacement other : List Char) (definitions : Definitions) :
    (define name replacement definitions).lookup other =
      if other = name then some replacement else definitions.lookup other := by
  fun_induction define name replacement definitions <;> grind

theorem lookup_foldl_define {name : List Char} {later : List (List Char × List Char)}
    (absent : ∀ entry ∈ later, entry.1 ≠ name) (definitions : Definitions) :
    (later.foldl (fun definitions pair => define pair.1 pair.2 definitions) definitions).lookup
      name = definitions.lookup name := by
  induction later generalizing definitions with
  | nil => rfl
  | cons entry later ih =>
    obtain ⟨first, absent⟩ := List.forall_mem_cons.mp absent
    rw [List.foldl_cons, ih absent, lookup_define, if_neg first.symm]

theorem lookup_definitionsOf {front back : List (List Char)} {line name value : List Char}
    (defines : Defines line name value)
    (last : ∀ later ∈ back, ∀ other, ¬Defines later name other) :
    (definitionsOf (front ++ line :: back)).lookup name = some (strip (blankComments value)) := by
  have absent : ∀ entry ∈ (back.filter isDirective).filterMap definition?, entry.1 ≠ name := by
    rintro ⟨other, replacement⟩ member rfl
    obtain ⟨later, inBack, found⟩ := List.mem_filterMap.mp member
    obtain ⟨value, defines, -⟩ := exists_defines found
    exact last later (List.mem_of_mem_filter inBack) value defines
  rw [definitionsOf, Definitions.ofList, List.filter_append,
    List.filter_cons_of_pos defines.isDirective, List.filterMap_append,
    List.filterMap_cons_some defines.definition?_eq, List.foldl_append, List.foldl_cons,
    lookup_foldl_define absent, lookup_define, if_pos rfl]

/-! ## Comments wherever they begin -/

theorem head?_of_opensComment {text : List Char} (opens : OpensComment text) :
    text.head? = some '/' := by
  obtain ⟨opened, after, formed, rfl⟩ := opens
  cases formed <;> rfl

theorem Begins.of_opensComment {c : Char} {rest : List Char} (opens : OpensComment (c :: rest)) :
    Begins c rest := by
  obtain ⟨opened, after, formed, same⟩ := opens
  cases formed with
  | @block body =>
    obtain ⟨rfl, rfl⟩ := List.cons.inj same
    simpa using Begins.block body after
  | line =>
    obtain ⟨rfl, rfl⟩ := List.cons.inj same
    exact .line _

theorem exists_scan?_of_opensComment {text : List Char} (opens : OpensComment text) :
    ∃ opened after, scan? text = some (⟨.comment, opened⟩, after) := by
  obtain ⟨opened, after, formed, rfl⟩ := opens
  cases id formed with
  | block => exact ⟨_, after, scan?_of_formed formed nofun fun line => by simp at line⟩
  | line => exact ⟨_, _, rfl⟩

theorem blankComments_of_comment {text opened after : List Char}
    (found : scan? text = some (⟨.comment, opened⟩, after)) :
    blankComments text = ' ' :: blankComments after := by
  obtain ⟨same, -, formed, ends⟩ := scan?_eq_some_iff.mp found
  subst same
  cases formed with
  | @block body unclosed =>
    simp only [List.cons_append, List.append_assoc, List.nil_append]
    rw [blankComments]
    split
    · rename_i taken
      rw [commentBody_append_close unclosed, Option.some.injEq] at taken
      obtain ⟨-, rfl⟩ := Prod.mk.inj taken
      rfl
    · rename_i none
      rw [commentBody_append_close unclosed] at none
      cases none
  | @line body inside =>
    obtain ⟨-, left⟩ := span_append inside (ends ⟨body, rfl⟩)
    simp only [List.cons_append]
    rw [blankComments, left]

theorem blankComments_of_not_opens {c : Char} {rest : List Char}
    (unopened : ¬OpensComment (c :: rest)) :
    blankComments (c :: rest) = c :: blankComments rest := by
  have noLine : ∀ tail, c = '/' → rest = '/' :: tail → False := by
    rintro tail rfl rfl
    exact unopened ⟨['/', '/'], tail, .line (by simp), rfl⟩
  by_cases block : ∃ tail, c = '/' ∧ rest = '*' :: tail
  · obtain ⟨tail, rfl, rfl⟩ := block
    rw [blankComments]
    split
    · rename_i closed after found
      obtain ⟨body, inside, rfl⟩ := commentBody_eq_some found
      exact absurd ⟨_, after, .block inside, by rw [← commentBody_append found]; rfl⟩ unopened
    · rfl
  · rw [blankComments]
    · exact fun tail slash => noLine tail slash
    · exact fun tail slash star => block ⟨tail, slash, star⟩

theorem commentsBlanked_blankComments (text : List Char) :
    CommentsBlanked text (blankComments text) := by
  induction length : text.length using Nat.strong_induction_on generalizing text with
  | _ n ih =>
    subst length
    cases text with
    | nil =>
      rw [blankComments]
      exact .nil
    | cons c rest =>
      by_cases opens : OpensComment (c :: rest)
      · obtain ⟨opened, after, found⟩ := exists_scan?_of_opensComment opens
        obtain ⟨same, -, formed, ends⟩ := scan?_eq_some_iff.mp found
        rw [blankComments_of_comment found, same]
        exact .comment formed ends (ih _ (scan?_length_lt found) after rfl)
      · rw [blankComments_of_not_opens opens]
        exact .copied opens (ih _ (Nat.lt_succ_self _) rest rfl)

theorem not_commentBeginsIn_nil (after : List Char) : ¬CommentBeginsIn [] after := by
  rintro ⟨inside, rest, split, some, -⟩
  exact some (List.append_eq_nil_iff.mp split.symm).2

theorem commentBeginsIn_cons {c : Char} {part after : List Char} :
    CommentBeginsIn (c :: part) after ↔
      OpensComment (c :: (part ++ after)) ∨ CommentBeginsIn part after := by
  constructor
  · rintro ⟨inside, rest, split, some, opens⟩
    cases inside with
    | nil =>
      obtain rfl : c :: part = rest := split
      exact .inl opens
    | cons d inside => exact .inr ⟨inside, rest, (List.cons.inj split).2, some, opens⟩
  · rintro (opens | ⟨inside, rest, rfl, some, opens⟩)
    · exact ⟨[], c :: part, rfl, List.cons_ne_nil c part, opens⟩
    · exact ⟨c :: inside, rest, rfl, some, opens⟩

theorem blankComments_append {part after : List Char} (none : ¬CommentBeginsIn part after) :
    blankComments (part ++ after) = part ++ blankComments after := by
  induction part with
  | nil => rfl
  | cons c part ih =>
    rw [commentBeginsIn_cons, not_or] at none
    rw [List.cons_append, blankComments_of_not_opens none.1, ih none.2, List.cons_append]

theorem exists_first_comment {part after : List Char} (begins : CommentBeginsIn part after) :
    ∃ kept rest blanked, part = kept ++ '/' :: rest ∧
      blankComments (part ++ after) = kept ++ ' ' :: blanked := by
  induction part with
  | nil => exact absurd begins (not_commentBeginsIn_nil after)
  | cons c part ih =>
    by_cases here : OpensComment (c :: (part ++ after))
    · obtain ⟨opened, behind, found⟩ := exists_scan?_of_opensComment here
      obtain rfl : c = '/' := Option.some.inj (head?_of_opensComment here)
      exact ⟨[], part, blankComments behind, rfl, blankComments_of_comment found⟩
    · have later := (commentBeginsIn_cons.mp begins).resolve_left here
      obtain ⟨kept, rest, blanked, rfl, same⟩ := ih later
      refine ⟨c :: kept, rest, blanked, rfl, ?_⟩
      rw [List.cons_append, blankComments_of_not_opens here, same, List.cons_append]

/-! ## Comments among the lexemes -/

theorem slash_not_continues (last : Char) : continues last '/' = false := by
  have notWord : isWordChar '/' = false := by decide
  simp [continues, notWord]

theorem slash_notMem_number {first : Char} {body : List Char} (digit : isDigit first = true)
    (inside : IsNumberBody (first :: body)) : '/' ∉ first :: body := by
  have notFirst : '/' ≠ first := by
    rintro rfl
    cases digit
  clear digit
  induction body generalizing first with
  | nil => simpa using notFirst
  | cons c body ih =>
    obtain ⟨goesOn, inside⟩ := List.isChain_cons_cons.mp inside
    have notNext : '/' ≠ c := by
      rintro rfl
      rw [slash_not_continues] at goesOn
      cases goesOn
    exact List.not_mem_cons_of_ne_of_not_mem notFirst (ih inside notNext)

theorem Lexeme.Formed.not_commentBeginsIn {lexeme : Lexeme} {after : List Char}
    (formed : lexeme.Formed) (ends : lexeme.EndsBefore after) (noComment : lexeme.kind ≠ .comment)
    (noLiteral : lexeme.kind ≠ .literal) : ¬CommentBeginsIn lexeme.text after := by
  have noSlash : '/' ∉ lexeme.text → ¬CommentBeginsIn lexeme.text after := by
    rintro absent ⟨inside, rest, split, some, opens⟩
    obtain ⟨c, tail, rfl⟩ := List.exists_cons_of_ne_nil some
    obtain rfl : c = '/' := Option.some.inj (head?_of_opensComment opens)
    exact absent (by simp [split])
  cases formed with
  | block | line => exact absurd rfl noComment
  | literal => exact absurd rfl noLiteral
  | number digit body => exact noSlash (slash_notMem_number digit body)
  | fraction digit body =>
    exact noSlash (List.not_mem_cons_of_ne_of_not_mem (by decide) (slash_notMem_number digit body))
  | identifier starts body =>
    refine noSlash fun member => ?_
    have word := (Lexeme.Formed.identifier starts body).isWordChar_of_mem '/' member
    revert word
    decide
  | @other c =>
    rw [commentBeginsIn_cons, not_or]
    exact ⟨fun opens => ends c rfl (.of_opensComment opens), not_commentBeginsIn_nil after⟩

theorem blankComments_lexeme {lexeme : Lexeme} {after : List Char} (formed : lexeme.Formed)
    (ends : lexeme.EndsBefore after) (shown : ¬lexeme.HidesComment after) :
    blankComments (lexeme.text ++ after) = lexeme.blanked ++ blankComments after := by
  by_cases comment : lexeme.kind = .comment
  · obtain ⟨kind, text⟩ := lexeme
    obtain rfl : kind = .comment := comment
    exact blankComments_of_comment (scan?_of_formed formed nofun ends)
  · rw [Lexeme.blanked, if_neg comment]
    refine blankComments_append fun begins => ?_
    by_cases literal : lexeme.kind = .literal
    · exact shown ⟨literal, begins⟩
    · exact formed.not_commentBeginsIn ends comment literal begins

theorem blankComments_eq_of_shown {found : List Lexeme} (separate : Separate found)
    (shown : ∀ front literal back, found = front ++ literal :: back →
      ¬literal.HidesComment (back.flatMap (·.text))) :
    blankComments (found.flatMap (·.text)) = found.flatMap Lexeme.blanked := by
  induction found with
  | nil => rw [List.flatMap_nil, blankComments, List.flatMap_nil]
  | cons lexeme found ih =>
    obtain ⟨formed, ends, separate⟩ := separate
    have later : ∀ front literal back, found = front ++ literal :: back →
        ¬literal.HidesComment (back.flatMap (·.text)) :=
      fun front literal back split => shown (lexeme :: front) literal back (congrArg _ split)
    rw [List.flatMap_cons, List.flatMap_cons,
      blankComments_lexeme formed ends (shown [] lexeme found rfl), ih separate later]

theorem IsQuote.isBlank_eq {quote : Char} (isQuote : IsQuote quote) : isBlank quote = false := by
  rcases isQuote with rfl | rfl <;> decide

theorem exists_difference {found front back : List Lexeme} {literal : Lexeme}
    (separate : Separate found) (split : found = front ++ literal :: back)
    (hides : literal.HidesComment (back.flatMap (·.text))) :
    ∃ kept rest blanked, (∃ c ∈ kept, isBlank c = false) ∧
      blankComments (found.flatMap (·.text)) = kept ++ ' ' :: blanked ∧
      found.flatMap Lexeme.blanked = kept ++ '/' :: rest := by
  induction found generalizing front with
  | nil => simp at split
  | cons lexeme found ih =>
    obtain ⟨formed, ends, separate⟩ := separate
    by_cases here : lexeme.HidesComment (found.flatMap (·.text))
    · obtain ⟨kind, begins⟩ := here
      obtain ⟨kept, rest, blanked, cut, same⟩ := exists_first_comment begins
      refine ⟨kept, rest ++ found.flatMap Lexeme.blanked, blanked, ?_, ?_, ?_⟩
      · cases formed with
        | @literal quote body isQuote =>
          cases kept with
          | nil =>
            obtain ⟨rfl, -⟩ := List.cons.inj cut
            rcases isQuote with quote | quote <;> cases quote
          | cons first kept =>
            obtain ⟨rfl, -⟩ := List.cons.inj cut
            exact ⟨quote, List.mem_cons_self, isQuote.isBlank_eq⟩
        | _ => cases kind
      · rw [List.flatMap_cons, same]
      · have noComment : lexeme.kind ≠ .comment := by
          rw [kind]
          decide
        rw [List.flatMap_cons, Lexeme.blanked, if_neg noComment, cut, List.append_assoc,
          List.cons_append]
    · cases front with
      | nil =>
        obtain ⟨rfl, rfl⟩ := List.cons.inj split
        exact absurd hides here
      | cons first front =>
        obtain ⟨kept, rest, blanked, ⟨c, member, notBlank⟩, same, same'⟩ :=
          ih separate (List.cons.inj split).2
        refine ⟨lexeme.blanked ++ kept, rest, blanked,
          ⟨c, List.mem_append_right _ member, notBlank⟩, ?_, ?_⟩
        · rw [List.flatMap_cons, blankComments_lexeme formed ends here, same, List.append_assoc]
        · rw [List.flatMap_cons, same', List.append_assoc]

/-- The two rules for comments give the same value if and only if no literal hides a comment. -/
theorem strip_blankComments_eq_iff (text : List Char) :
    strip (blankComments text) = strip (withoutComments text) ↔ ¬HidesComment text := by
  have separate := separate_lexemes text
  have flat := lexemes_flatten text
  constructor
  · rintro same ⟨front, literal, back, split, hides⟩
    obtain ⟨kept, rest, blanked, inside, byRule, byLexemes⟩ :=
      exists_difference separate split hides
    rw [flat] at byRule
    rw [withoutComments, byRule, byLexemes] at same
    exact strip_append_ne inside (by decide) (by decide) blanked rest same
  · intro shown
    have same := blankComments_eq_of_shown separate fun front literal back split hides =>
      shown ⟨front, literal, back, split, hides⟩
    rw [flat] at same
    rw [same, withoutComments]

/-! ## What is recorded -/

/-- For a name its last definition is recorded, stripped and with its comments replaced by blanks,
those that begin in a literal as well. This is its value without comment lexemes if and only if no
comment begins in a literal. -/
theorem stripDirectives_records {text line name value : List Char} {front back : List (List Char)}
    (lines : linesOf text = front ++ line :: back) (defines : Defines line name value)
    (last : ∀ later ∈ back, ∀ other, ¬Defines later name other) :
    ∃ recorded, (stripDirectives text).2.lookup name = some recorded ∧
      (∃ blanked, CommentsBlanked value blanked ∧ recorded = strip blanked) ∧
      (recorded = strip (withoutComments value) ↔ ¬HidesComment value) := by
  refine ⟨strip (blankComments value), ?_, ⟨_, commentsBlanked_blankComments value, rfl⟩,
    strip_blankComments_eq_iff value⟩
  rw [stripDirectives, lines]
  exact lookup_definitionsOf defines last

theorem stripDirectives_records_of_redefined :
    let value := [' ', '"', '/', '*', '"', '/', '/', 'n']
    let line := ['#'] ++ ([' '] ++ ("define".toList ++ ([' '] ++ (['N'] ++ value))))
    let text := "#define N 1\n".toList ++ (line ++ ['\n', 'N'])
    linesOf text = ["#define N 1".toList] ++ line :: [['N']] ∧ Defines line ['N'] value ∧
      (∀ later ∈ [['N']], ∀ other, ¬Defines later ['N'] other) ∧
      (stripDirectives text).2.lookup ['N'] = some ['"', '/', '*', '"'] ∧
      strip (withoutComments value) = ['"', '/', '*', '"'] ∧ ¬HidesComment value := by
  intro value line text
  have lines : linesOf text = ["#define N 1".toList] ++ line :: [['N']] := by decide
  have defines : Defines line ['N'] value :=
    @Defines.intro [] [' '] [' '] ['N'] value (by simp) (by simp; decide) (by simp; decide)
      (List.cons_ne_nil _ _) (.identifier rfl (by simp)) (stops_cons.mpr (by decide)) (by decide)
  have last : ∀ later ∈ [['N']], ∀ other, ¬Defines later ['N'] other := by
    rintro _ member other defines
    obtain rfl := List.mem_singleton.mp member
    have none : definition? ['N'] = none := by decide +kernel
    rw [defines.definition?_eq] at none
    cases none
  have recorded : (stripDirectives text).2.lookup ['N'] = some ['"', '/', '*', '"'] := by
    rw [stripDirectives, lines]
    decide +kernel
  have expected : strip (withoutComments value) = ['"', '/', '*', '"'] := by decide +kernel
  obtain ⟨found, same, -, iff⟩ := stripDirectives_records lines defines last
  obtain rfl := Option.some.inj (recorded.symm.trans same)
  exact ⟨lines, defines, last, recorded, expected, iff.mp expected.symm⟩

/-- A comment that begins in a literal takes the rest of it along. -/
theorem stripDirectives_cuts_literal :
    ¬∀ (text line name value : List Char) (front back : List (List Char)),
      linesOf text = front ++ line :: back → Defines line name value → Complete (lexemes value) →
      (∀ later ∈ back, ∀ other, ¬Defines later name other) →
      (stripDirectives text).2.lookup name = some (strip (withoutComments value)) := by
  intro always
  let value := [' ', '"', 'a', '/', '/', 'b', '"']
  let line := ['#'] ++ ("define".toList ++ ([' '] ++ (['U'] ++ value)))
  have defines : Defines line ['U'] value :=
    @Defines.intro [] [] [' '] ['U'] value (by simp) (by simp) (by simp; decide) (by simp)
      (.identifier rfl (by simp)) (stops_cons.mpr (by decide)) (by decide)
  have divided : lexemes value =
      [⟨.other, [' ']⟩, ⟨.literal, ['"', 'a', '/', '/', 'b', '"']⟩] := by decide +kernel
  have complete : Complete (lexemes value) := by
    simp [divided, Complete, Lexeme.OpensNothing, IsQuote]
  have recorded := always line line ['U'] value [] [] (by decide) defines complete (by simp)
  have cut : (stripDirectives line).2.lookup ['U'] = some ['"', 'a'] := by decide +kernel
  have expected : strip (withoutComments value) = ['"', 'a', '/', '/', 'b', '"'] := by decide +kernel
  rw [cut, expected] at recorded
  cases recorded

end SourceSimilarity.Macro
