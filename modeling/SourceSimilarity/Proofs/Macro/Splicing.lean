import SourceSimilarity.Proofs.Macro.Expansion

namespace SourceSimilarity.Macro

open Text (isWordChar isDigit)

def substituteLexeme (definitions : Definitions) (lexeme : Lexeme) : List Lexeme :=
  match macroValue? definitions lexeme with
  | some value => lexemes value
  | none => [lexeme]

/-- The lexemes of a text with those of a value in the place of each name of a macro. -/
def substituted (definitions : Definitions) (text : List Char) : List Lexeme :=
  (lexemes text).flatMap (substituteLexeme definitions)

def significant (found : List Lexeme) : List Lexeme := found.filter (·.kind ≠ .other)

/-- Whether a lexeme opens neither a literal nor, with the text after it, a comment. -/
def Lexeme.OpensNothing (lexeme : Lexeme) (after : List Char) : Prop :=
  lexeme.kind = .other → ∀ c ∈ lexeme.text.head?, ¬IsQuote c ∧ (c = '/' → after.head? ≠ some '*')

def Complete : List Lexeme → Prop
  | [] => True
  | lexeme :: rest => lexeme.OpensNothing (rest.flatMap (·.text)) ∧ Complete rest

theorem text_substituteLexeme (definitions : Definitions) (lexeme : Lexeme) :
    (substituteLexeme definitions lexeme).flatMap (·.text) = expandLexeme definitions lexeme := by
  rw [expandLexeme_eq]
  unfold substituteLexeme
  split
  · rename_i value found
    rw [lexemes_flatten, found, Option.getD_some]
  · rename_i none
    rw [none, List.flatMap_singleton, Option.getD_none]

theorem text_substituted (definitions : Definitions) (text : List Char) :
    (substituted definitions text).flatMap (·.text) = expand definitions text := by
  simp only [substituted, expand, List.flatMap_assoc, text_substituteLexeme]

theorem formed_substituted {definitions : Definitions} {text : List Char} :
    ∀ lexeme ∈ substituted definitions text, lexeme.Formed := by
  intro lexeme member
  obtain ⟨source, inText, member⟩ := List.mem_flatMap.mp member
  unfold substituteLexeme at member
  split at member
  · exact (separate_lexemes _).formed lexeme member
  · obtain rfl := List.mem_singleton.mp member
    exact (separate_lexemes text).formed lexeme inText

theorem separate_iff {found : List Lexeme} :
    Separate found ↔ (∀ lexeme ∈ found, lexeme.Formed) ∧
      ∀ front lexeme back, found = front ++ lexeme :: back →
        lexeme.EndsBefore (back.flatMap (·.text)) := by
  constructor
  · refine fun separate => ⟨separate.formed, ?_⟩
    rintro front lexeme back rfl
    exact separate.endsBefore
  · rintro ⟨formed, ends⟩
    induction found with
    | nil => trivial
    | cons lexeme rest ih =>
      obtain ⟨first, formed⟩ := List.forall_mem_cons.mp formed
      refine ⟨first, ends [] lexeme rest rfl, ih formed ?_⟩
      rintro front lexeme' back rfl
      exact ends (lexeme :: front) lexeme' back rfl

/-- The lexemes of the expanded text are those of the text with the lexemes of the value in the
place of each name of a macro, if and only if each of these ends before what follows it there. -/
theorem lexemes_expand_iff (definitions : Definitions) (text : List Char) :
    lexemes (expand definitions text) = substituted definitions text ↔
      ∀ front lexeme back, substituted definitions text = front ++ lexeme :: back →
        lexeme.EndsBefore (back.flatMap (·.text)) := by
  rw [lexemes_eq_iff, separate_iff]
  constructor
  · exact fun both => both.2.2
  · exact fun ends => ⟨text_substituted definitions text, formed_substituted, ends⟩

def IsGap (c : Char) : Prop := c = ' ' ∨ c = '\t' ∨ c = '\n'

def Lexeme.IsGap (lexeme : Lexeme) : Prop := ∃ c, Macro.IsGap c ∧ lexeme = ⟨.other, [c]⟩

/-- Every name of a macro has blanks before and after it, or an end of the text. -/
def Spaced (definitions : Definitions) : List Lexeme → Prop
  | [] => True
  | lexeme :: rest =>
    (∀ next ∈ rest.head?, (macroValue? definitions lexeme).isSome → next.IsGap) ∧
      (∀ next ∈ rest.head?, (macroValue? definitions next).isSome → lexeme.IsGap) ∧
      Spaced definitions rest

theorem not_begins_nil (c : Char) : ¬Begins c [] := by
  intro begins
  generalize none : [] = after at begins
  cases begins <;> simp at none

theorem Begins.congr {c d : Char} {rest : List Char} (begins : Begins c (d :: rest))
    (notQuote : ¬IsQuote c) (noBlock : c = '/' → d ≠ '*') (rest' : List Char) :
    Begins c (d :: rest') := by
  generalize same : d :: rest = after at begins
  cases begins with
  | block =>
    obtain ⟨rfl, -⟩ := List.cons.inj same
    exact absurd rfl (noBlock rfl)
  | line =>
    obtain ⟨rfl, -⟩ := List.cons.inj same
    exact .line rest'
  | literal _ isQuote => exact absurd isQuote notQuote
  | fraction _ digit =>
    obtain ⟨rfl, -⟩ := List.cons.inj same
    exact .fraction rest' digit

theorem IsGap.ends {c : Char} (gap : IsGap c) :
    isWordChar c = false ∧ isDigit c = false ∧ c ≠ '*' ∧ c ≠ '/' ∧ c ≠ '.' ∧ c ≠ '+' ∧ c ≠ '-' := by
  rcases gap with rfl | rfl | rfl <;> decide

theorem IsGap.not_begins {c d : Char} {rest : List Char} (gap : IsGap d) (notQuote : ¬IsQuote c) :
    ¬Begins c (d :: rest) := by
  obtain ⟨-, notDigit, notStar, notSlash, -⟩ := gap.ends
  intro begins
  generalize same : d :: rest = after at begins
  cases begins with
  | block => exact notStar (List.cons.inj same).1
  | line => exact notSlash (List.cons.inj same).1
  | literal _ isQuote => exact notQuote isQuote
  | fraction _ digit =>
    obtain ⟨rfl, -⟩ := List.cons.inj same
    rw [notDigit] at digit
    cases digit

theorem IsGap.not_continues {c : Char} (gap : IsGap c) (last : Char) :
    continues last c = false := by
  obtain ⟨notWord, -, -, -, notPoint, notPlus, notMinus⟩ := gap.ends
  simp [continues, notWord, notPoint, notPlus, notMinus]

theorem endsBefore_nil (lexeme : Lexeme) : lexeme.EndsBefore [] := by
  unfold Lexeme.EndsBefore
  split
  · exact fun _ => stops_nil _
  · trivial
  · exact fun _ _ => stops_nil _
  · exact stops_nil _
  · exact fun c _ => not_begins_nil c

theorem Lexeme.EndsBefore.congr {lexeme : Lexeme} {c : Char} {rest : List Char}
    (ends : lexeme.EndsBefore (c :: rest)) (opens : lexeme.OpensNothing (c :: rest))
    (rest' : List Char) : lexeme.EndsBefore (c :: rest') := by
  unfold Lexeme.EndsBefore at ends ⊢
  split at ends
  · exact ends
  · trivial
  · exact ends
  · exact ends
  · rename_i kind
    intro first member begins
    obtain ⟨notQuote, noBlock⟩ := opens kind first member
    have noStar : first = '/' → c ≠ '*' := fun slash star => noBlock slash (congrArg _ star)
    exact ends first member (begins.congr notQuote noStar rest)

theorem endsBefore_gap {lexeme : Lexeme} {c : Char} {after : List Char} (gap : IsGap c)
    (noComment : lexeme.kind ≠ .comment) (opens : lexeme.OpensNothing after) (rest : List Char) :
    lexeme.EndsBefore (c :: rest) := by
  unfold Lexeme.EndsBefore
  split
  · rename_i kind
    exact absurd kind noComment
  · trivial
  · exact fun last _ => stops_cons.mpr (gap.not_continues last)
  · exact stops_cons.mpr gap.ends.1
  · rename_i kind
    exact fun first member => gap.not_begins (opens kind first member).1

theorem Lexeme.IsGap.endsBefore {lexeme : Lexeme} (gap : lexeme.IsGap) (after : List Char) :
    lexeme.EndsBefore after := by
  obtain ⟨c, gap, rfl⟩ := gap
  intro first member begins
  obtain rfl := Option.some.inj member
  cases begins with
  | block | line | fraction => rcases gap with gap | gap | gap <;> cases gap
  | literal _ isQuote =>
    rcases isQuote with rfl | rfl <;> rcases gap with gap | gap | gap <;> cases gap

/-- Lexemes that are complete, without comments, and others after them that begin with a blank stay
what they are. -/
theorem Separate.append_gap {found others : List Lexeme} (separate : Separate found)
    (complete : Complete found) (noComment : ∀ lexeme ∈ found, lexeme.kind ≠ .comment)
    (separate' : Separate others) (gap : ∀ next ∈ others.head?, next.IsGap) :
    Separate (found ++ others) := by
  induction found with
  | nil => exact separate'
  | cons lexeme rest ih =>
    obtain ⟨formed, ends, separate⟩ := separate
    obtain ⟨opens, complete⟩ := complete
    obtain ⟨first, noComment⟩ := List.forall_mem_cons.mp noComment
    refine ⟨formed, ?_, ih separate complete noComment⟩
    change lexeme.EndsBefore ((rest ++ others).flatMap (·.text))
    rw [List.flatMap_append]
    -- what follows begins as before, if anything of the lexemes is left, else with the blank
    cases rest with
    | nil =>
      cases others with
      | nil => exact endsBefore_nil lexeme
      | cons next others =>
        obtain ⟨c, isGap, rfl⟩ := gap next rfl
        exact endsBefore_gap isGap first opens _
    | cons next rest =>
      obtain ⟨c, text, nonempty⟩ := List.exists_cons_of_ne_nil separate.1.text_ne_nil
      rw [List.flatMap_cons, nonempty] at ends opens ⊢
      exact ends.congr opens _

theorem substituteLexeme_of_some {definitions : Definitions} {lexeme : Lexeme} {value : List Char}
    (named : macroValue? definitions lexeme = some value) :
    substituteLexeme definitions lexeme = lexemes value := by
  rw [substituteLexeme, named]

theorem substituteLexeme_of_none {definitions : Definitions} {lexeme : Lexeme}
    (notNamed : macroValue? definitions lexeme = none) :
    substituteLexeme definitions lexeme = [lexeme] := by
  rw [substituteLexeme, notNamed]

theorem Lexeme.IsGap.substituteLexeme {lexeme : Lexeme} (gap : lexeme.IsGap)
    (definitions : Definitions) : Macro.substituteLexeme definitions lexeme = [lexeme] := by
  obtain ⟨c, -, rfl⟩ := gap
  rfl

/-- Where every name of a macro stands between blanks, and neither the text nor the values leave a
comment or a literal open, no lexeme of a value runs together with others. -/
theorem separate_substitute {definitions : Definitions} {found : List Lexeme}
    (separate : Separate found) (complete : Complete found) (spaced : Spaced definitions found)
    (values : ∀ entry ∈ definitions, Complete (lexemes entry.2) ∧
      ∀ lexeme ∈ lexemes entry.2, lexeme.kind ≠ .comment) :
    Separate (found.flatMap (substituteLexeme definitions)) := by
  induction found with
  | nil => trivial
  | cons lexeme rest ih =>
    obtain ⟨formed, ends, separate⟩ := separate
    obtain ⟨opens, complete⟩ := complete
    obtain ⟨gapAfter, gapBefore, spaced⟩ := spaced
    have others := ih separate complete spaced
    rw [List.flatMap_cons]
    cases named : macroValue? definitions lexeme with
    | some value =>
      obtain ⟨front, back, entries, -⟩ :=
        List.lookup_eq_some_iff.mp (macroValue?_eq_some.mp named).2
      obtain ⟨complete, noComment⟩ := values (lexeme.text, value) (by simp [entries])
      rw [substituteLexeme_of_some named]
      refine (separate_lexemes value).append_gap complete noComment others fun next first => ?_
      cases rest with
      | nil => cases first
      | cons gap rest =>
        have isGap := gapAfter gap rfl (by rw [named]; rfl)
        rw [List.flatMap_cons, isGap.substituteLexeme] at first
        obtain rfl := Option.some.inj first
        exact isGap
    | none =>
      rw [substituteLexeme_of_none named, List.singleton_append]
      refine ⟨formed, ?_, others⟩
      cases rest with
      | nil => exact endsBefore_nil lexeme
      | cons next rest =>
        cases follows : macroValue? definitions next with
        | some value => exact (gapBefore next rfl (by rw [follows]; rfl)).endsBefore _
        | none =>
          obtain ⟨c, text, nonempty⟩ := List.exists_cons_of_ne_nil separate.1.text_ne_nil
          rw [List.flatMap_cons, nonempty] at ends opens
          rw [List.flatMap_cons, substituteLexeme_of_none follows, List.singleton_append,
            List.flatMap_cons, nonempty]
          exact ends.congr opens _

/-- Blanks around the names of macros keep the lexemes of their values apart from those of the text.
-/
theorem lexemes_expand_of_spaced {definitions : Definitions} {text : List Char}
    (complete : Complete (lexemes text)) (spaced : Spaced definitions (lexemes text))
    (values : ∀ entry ∈ definitions, Complete (lexemes entry.2) ∧
      ∀ lexeme ∈ lexemes entry.2, lexeme.kind ≠ .comment) :
    lexemes (expand definitions text) = substituted definitions text :=
  lexemes_eq_iff.mpr ⟨text_substituted definitions text,
    separate_substitute (separate_lexemes text) complete spaced values⟩

/-- A value can open a comment together with the text before it. -/
theorem expand_opens_comment :
    ¬∀ (definitions : Definitions) (text : List Char), definitions.Named →
      (∀ entry ∈ definitions, Complete (lexemes entry.2)) →
      significant (lexemes (expand definitions text)) =
        significant (substituted definitions text) := by
  intro always
  let definitions : Definitions := [(['P'], ['*', 'p'])]
  have named : definitions.Named := named_singleton (.identifier rfl (by simp))
  have complete : ∀ entry ∈ definitions, Complete (lexemes entry.2) := by
    intro entry member
    obtain rfl := List.mem_singleton.mp member
    have value : lexemes ['*', 'p'] = [⟨.other, ['*']⟩, ⟨.identifier, ['p']⟩] := by decide +kernel
    simp [value, Complete, Lexeme.OpensNothing, IsQuote]
  let text := ['a', '/', 'P', ' ', '/', '*', ' ', 'c', ' ', '*', '/']
  let closed := ['/', '*', ' ', 'c', ' ', '*', '/']
  have crossed : significant (lexemes (expand definitions text)) =
      [⟨.identifier, ['a']⟩, ⟨.comment, ['/', '*', 'p', ' '] ++ closed⟩] := by decide +kernel
  have expected : significant (substituted definitions text) =
      [⟨.identifier, ['a']⟩, ⟨.identifier, ['p']⟩, ⟨.comment, closed⟩] := by decide +kernel
  have same := always definitions text named complete
  rw [crossed, expected] at same
  cases same

end SourceSimilarity.Macro
