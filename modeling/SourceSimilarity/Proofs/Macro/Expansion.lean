import SourceSimilarity.Macro.Expansion
import SourceSimilarity.Proofs.Macro.Lexeme

namespace SourceSimilarity.Macro

open Text (isWordChar isDigit)

def Definitions.Named (definitions : Definitions) : Prop :=
  ∀ entry ∈ definitions, Lexeme.Formed ⟨.identifier, entry.1⟩

inductive Piece where
  | copied (c : Char)
  | replaced (name value : List Char)

def Piece.source : Piece → List Char
  | .copied c => [c]
  | .replaced name _ => name

def Piece.result : Piece → List Char
  | .copied c => [c]
  | .replaced _ value => value

/-- Whether an occurrence of a name in the text is a piece of its own, with this value. -/
def IsReplaced (pieces : List Piece) (before name value after : List Char) : Prop :=
  ∃ front back, pieces = front ++ .replaced name value :: back ∧
    front.flatMap Piece.source = before ∧ back.flatMap Piece.source = after

/-- Whether the text is expanded by replacing the occurrences of macro names for which `P` holds,
each by its value, and copying all other characters. -/
def Replaces (definitions : Definitions) (text : List Char)
    (P : List Char → List Char → List Char → Prop) : Prop :=
  ∃ pieces : List Piece, pieces.flatMap Piece.source = text ∧
    pieces.flatMap Piece.result = expand definitions text ∧
    (∀ name value, .replaced name value ∈ pieces → definitions.lookup name = some value) ∧
    ∀ before name value after, definitions.lookup name = some value →
      text = before ++ name ++ after →
      (IsReplaced pieces before name value after ↔ P before name after)

/-- Whether the character that follows `before` in the text belongs to this lexeme of it. -/
def LiesIn (text before : List Char) (lexeme : Lexeme) : Prop :=
  ∃ front back inside rest, lexemes text = front ++ lexeme :: back ∧
    lexeme.text = inside ++ rest ∧ rest ≠ [] ∧ before = front.flatMap (·.text) ++ inside

/-- No character of the name lies in a comment, a literal or a number. -/
def Outside (text before name : List Char) : Prop :=
  ∀ part, part <+: name → part ≠ name → ∀ lexeme, LiesIn text (before ++ part) lexeme →
    lexeme.kind ≠ .comment ∧ lexeme.kind ≠ .literal ∧ lexeme.kind ≠ .number

def EndsNoWord (before : List Char) : Prop := ∀ c ∈ before.getLast?, isWordChar c = false

/-- A word character that comes last is no part of a comment, literal, number or identifier. -/
def EndsNoLexeme (text before : List Char) : Prop :=
  ∀ front c, before = front ++ [c] → isWordChar c = true →
    ∀ lexeme, LiesIn text front lexeme → lexeme.kind = .other

/-- The name stands apart from the lexeme before it and from the characters after it. -/
def StandsApart (text before name after : List Char) : Prop :=
  EndsNoLexeme text before ∧ Stops isWordChar after ∧ Outside text before name

def IsWholeWord (text before name after : List Char) : Prop :=
  EndsNoWord before ∧ Stops isWordChar after ∧ Outside text before name

/-! ## Places in a text -/

theorem Lexeme.Formed.text_ne_nil {lexeme : Lexeme} (formed : lexeme.Formed) :
    lexeme.text ≠ [] := by
  cases formed <;> exact List.cons_ne_nil _ _

theorem Separate.formed {found : List Lexeme} (separate : Separate found) :
    ∀ lexeme ∈ found, lexeme.Formed := by
  induction found with
  | nil => simp
  | cons lexeme rest ih =>
    exact List.forall_mem_cons.mpr ⟨separate.1, ih separate.2.2⟩

theorem Separate.right {front back : List Lexeme} (separate : Separate (front ++ back)) :
    Separate back := by
  induction front with
  | nil => exact separate
  | cons lexeme rest ih => exact ih separate.2.2

theorem Separate.endsBefore {front back : List Lexeme} {lexeme : Lexeme}
    (separate : Separate (front ++ lexeme :: back)) :
    lexeme.EndsBefore (back.flatMap (·.text)) :=
  separate.right.2.1

theorem exists_split {found : List Lexeme} {before after : List Char} (some : after ≠ [])
    (same : found.flatMap (·.text) = before ++ after) :
    ∃ front lexeme back inside rest, found = front ++ lexeme :: back ∧
      lexeme.text = inside ++ rest ∧ rest ≠ [] ∧ before = front.flatMap (·.text) ++ inside := by
  induction found generalizing before with
  | nil => exact absurd (List.append_eq_nil_iff.mp same.symm).2 some
  | cons lexeme found ih =>
    rw [List.flatMap_cons] at same
    -- the place is behind this lexeme or in it
    have behind : ∀ deeper, before = lexeme.text ++ deeper →
        found.flatMap (·.text) = deeper ++ after → ∃ front lexeme' back inside rest,
          lexeme :: found = front ++ lexeme' :: back ∧ lexeme'.text = inside ++ rest ∧ rest ≠ [] ∧
          before = front.flatMap (·.text) ++ inside := by
      rintro deeper rfl same
      obtain ⟨front, lexeme', back, inside, rest, rfl, cut, some, rfl⟩ := ih same
      exact ⟨lexeme :: front, lexeme', back, inside, rest, rfl, cut, some, by simp⟩
    rcases List.append_eq_append_iff.mp same with ⟨deeper, cut, tail⟩ | ⟨rest, cut, tail⟩
    · exact behind deeper cut tail
    · rcases eq_or_ne rest [] with rfl | some
      · exact behind [] (by simpa using cut.symm) (by simpa using tail.symm)
      · exact ⟨[], lexeme, found, before, rest, rfl, cut, some, rfl⟩

theorem exists_liesIn (before : List Char) {after : List Char} (some : after ≠ []) :
    ∃ lexeme, LiesIn (before ++ after) before lexeme := by
  obtain ⟨front, lexeme, back, inside, rest, split⟩ :=
    exists_split some (lexemes_flatten (before ++ after))
  exact ⟨lexeme, front, back, inside, rest, split⟩

theorem not_behind {front front' : List Lexeme} {lexeme : Lexeme}
    {inside inside' rest : List Char} (cut : lexeme.text = inside ++ rest) (some : rest ≠ [])
    (same : front.flatMap (·.text) ++ inside = front'.flatMap (·.text) ++ inside') :
    ¬∃ between, front' = front ++ lexeme :: between := by
  rintro ⟨between, rfl⟩
  have length := congrArg List.length same
  have restLength := List.length_pos_iff.mpr some
  simp only [List.flatMap_append, List.flatMap_cons, cut, List.length_append] at length
  omega

theorem LiesIn.unique {text before : List Char} {lexeme lexeme' : Lexeme}
    (lies : LiesIn text before lexeme) (lies' : LiesIn text before lexeme') :
    lexeme = lexeme' := by
  obtain ⟨front, back, inside, rest, split, cut, some, rfl⟩ := lies
  obtain ⟨front', back', inside', rest', split', cut', some', same⟩ := lies'
  rcases List.append_eq_append_iff.mp (split.symm.trans split') with
    ⟨between, reached, tail⟩ | ⟨between, reached, tail⟩
  · cases between with
    | nil => exact (List.cons.inj tail).1
    | cons first between =>
      obtain ⟨rfl, -⟩ := List.cons.inj tail
      exact absurd ⟨between, reached⟩ (not_behind cut some same)
  · cases between with
    | nil => exact (List.cons.inj tail).1.symm
    | cons first between =>
      obtain ⟨rfl, -⟩ := List.cons.inj tail
      exact absurd ⟨between, reached⟩ (not_behind cut' some' same.symm)

/-! ## Around identifiers -/

theorem isWordChar_of_startsIdentifier {c : Char} (starts : startsIdentifier c = true) :
    isWordChar c = true := by
  have letter := toNat_of_startsIdentifier starts
  have ascii : c.val < 0x80 := by
    rw [UInt32.lt_iff_toNat_lt]
    change c.toNat < 128
    omega
  rw [startsIdentifier, Bool.or_eq_true, beq_iff_eq] at starts
  rcases starts with letter | rfl
  · exact Text.isWordChar_of_isAlphanum ascii (by rw [Char.isAlphanum, letter, Bool.true_or])
  · rfl

theorem Lexeme.Formed.isWordChar_of_mem {name : List Char}
    (formed : Lexeme.Formed ⟨.identifier, name⟩) : ∀ c ∈ name, isWordChar c = true := by
  cases formed with
  | identifier starts inside =>
    exact List.forall_mem_cons.mpr ⟨isWordChar_of_startsIdentifier starts, inside⟩

theorem Lexeme.Formed.kind_of_word {lexeme : Lexeme} {inside : List Char} {last first : Char}
    {rest : List Char} (formed : lexeme.Formed) (text : lexeme.text = inside ++ [last])
    (word : isWordChar last = true) (starts : startsIdentifier first = true)
    (ends : lexeme.EndsBefore (first :: rest)) : lexeme.kind = .other := by
  have final : ∀ {c : Char} (body : List Char), body ++ [c] = inside ++ [last] → c = last :=
    fun _ same => List.singleton_injective (List.append_inj' same rfl).2
  have goesOn : ∀ c, continues c first = true := fun c => by
    rw [continues, isWordChar_of_startsIdentifier starts, Bool.true_or, Bool.true_or]
  cases formed with
  | @block body =>
    obtain rfl : '/' = last := final ('/' :: '*' :: body ++ ['*']) (by simpa using text)
    cases word
  | @line body =>
    have newline := stops_cons.mp (ends ⟨body, rfl⟩)
    obtain rfl : first = '\n' := by simpa using newline
    cases starts
  | @literal quote body isQuote =>
    obtain rfl : quote = last := final (quote :: body) text
    rcases isQuote with rfl | rfl <;> cases word
  | number | fraction =>
    have stops := stops_cons.mp (ends last (by rw [text]; simp))
    rw [goesOn] at stops
    cases stops
  | identifier =>
    have stops := stops_cons.mp ends
    rw [isWordChar_of_startsIdentifier starts] at stops
    cases stops
  | other => rfl

/-! ## Definitions of directives -/

theorem named_singleton {name value : List Char} (formed : Lexeme.Formed ⟨.identifier, name⟩) :
    Definitions.Named [(name, value)] :=
  List.forall_mem_singleton.mpr formed

theorem mem_define {name value : List Char} {definitions : Definitions}
    {entry : List Char × List Char} (member : entry ∈ define name value definitions) :
    entry = (name, value) ∨ entry ∈ definitions := by
  fun_induction define name value definitions with
  | case1 => exact .inl (List.mem_singleton.mp member)
  | case2 old rest => exact (List.mem_cons.mp member).imp_right (List.mem_cons_of_mem _)
  | case3 other old rest _ ih =>
    rcases List.mem_cons.mp member with rfl | later
    · exact .inr List.mem_cons_self
    · exact (ih later).imp_right (List.mem_cons_of_mem _)

theorem exists_directive_of_mem {lines : List (List Char)} {entry : List Char × List Char}
    (member : entry ∈ definitionsOf lines) : ∃ line ∈ lines, definition? line = some entry := by
  revert member
  unfold definitionsOf Definitions.ofList
  refine List.foldlRecOn _ _
    (motive := fun definitions =>
      entry ∈ definitions → ∃ line ∈ lines, definition? line = some entry)
    nofun fun definitions ih written found member => ?_
  rcases mem_define member with rfl | known
  · obtain ⟨line, inLines, defined⟩ := List.mem_filterMap.mp found
    exact ⟨line, List.mem_of_mem_filter inLines, defined⟩
  · exact ih known

theorem formed_of_definition? {line : List Char} {entry : List Char × List Char}
    (defined : definition? line = some entry) : Lexeme.Formed ⟨.identifier, entry.1⟩ := by
  unfold definition? at defined
  obtain ⟨_, -, defined⟩ := Option.bind_eq_some_iff.mp defined
  obtain ⟨keyword, -, defined⟩ := Option.bind_eq_some_iff.mp defined
  dsimp only at defined
  split at defined
  · cases defined
  split at defined
  · cases defined
  split at defined
  · rename_i c rest _ starts
    split at defined
    · cases defined
    · obtain rfl := Option.some.inj defined
      exact .identifier starts fun _ => List.mem_takeWhile_imp
  · cases defined

theorem named_definitionsOf (lines : List (List Char)) : (definitionsOf lines).Named := by
  intro entry member
  obtain ⟨line, -, defined⟩ := exists_directive_of_mem member
  exact formed_of_definition? defined

/-! ## Pieces -/

def macroValue? (definitions : Definitions) (lexeme : Lexeme) : Option (List Char) :=
  if lexeme.kind = .identifier then definitions.lookup lexeme.text else none

theorem macroValue?_eq_some {definitions : Definitions} {lexeme : Lexeme} {value : List Char} :
    macroValue? definitions lexeme = some value ↔
      lexeme.kind = .identifier ∧ definitions.lookup lexeme.text = some value := by
  simp [macroValue?]

theorem expandLexeme_eq (definitions : Definitions) (lexeme : Lexeme) :
    expandLexeme definitions lexeme = (macroValue? definitions lexeme).getD lexeme.text := by
  unfold expandLexeme macroValue?
  split <;> rfl

def piecesOf (definitions : Definitions) (lexeme : Lexeme) : List Piece :=
  match macroValue? definitions lexeme with
  | some value => [.replaced lexeme.text value]
  | none => lexeme.text.map .copied

theorem source_piecesOf (definitions : Definitions) (lexeme : Lexeme) :
    (piecesOf definitions lexeme).flatMap Piece.source = lexeme.text := by
  unfold piecesOf
  split
  · simp [Piece.source]
  · simp [List.flatMap_map, Piece.source]

theorem result_piecesOf (definitions : Definitions) (lexeme : Lexeme) :
    (piecesOf definitions lexeme).flatMap Piece.result = expandLexeme definitions lexeme := by
  rw [expandLexeme_eq]
  unfold piecesOf
  split
  · rename_i value found
    simp [Piece.result, found]
  · rename_i none
    simp [List.flatMap_map, Piece.result, none]

theorem source_flatMap_piecesOf (definitions : Definitions) (found : List Lexeme) :
    (found.flatMap (piecesOf definitions)).flatMap Piece.source = found.flatMap (·.text) := by
  simp only [List.flatMap_assoc, source_piecesOf]

theorem piecesOf_of_value {definitions : Definitions} {lexeme : Lexeme} {value : List Char}
    (found : macroValue? definitions lexeme = some value) :
    piecesOf definitions lexeme = [.replaced lexeme.text value] := by
  rw [piecesOf, found]

theorem value_of_replaced_mem {definitions : Definitions} {lexeme : Lexeme} {name value : List Char}
    (member : .replaced name value ∈ piecesOf definitions lexeme) :
    lexeme.text = name ∧ macroValue? definitions lexeme = some value := by
  unfold piecesOf at member
  split at member
  · rename_i found
    obtain ⟨rfl, rfl⟩ := Piece.replaced.inj (List.mem_singleton.mp member)
    exact ⟨rfl, found⟩
  · obtain ⟨_, _, same⟩ := List.mem_map.mp member
    cases same

theorem exists_lexeme_of_replaced {definitions : Definitions} {found : List Lexeme}
    {front back : List Piece} {name value : List Char}
    (split : found.flatMap (piecesOf definitions) = front ++ .replaced name value :: back) :
    ∃ before after, found = before ++ ⟨.identifier, name⟩ :: after ∧
      definitions.lookup name = some value ∧
      front = before.flatMap (piecesOf definitions) ∧
      back = after.flatMap (piecesOf definitions) := by
  induction found generalizing front with
  | nil => simp at split
  | cons lexeme found ih =>
    rw [List.flatMap_cons] at split
    rcases List.append_eq_append_iff.mp split with ⟨deeper, rfl, tail⟩ | ⟨rest, cut, tail⟩
    · obtain ⟨before, after, rfl, defined, rfl, rfl⟩ := ih tail
      exact ⟨lexeme :: before, after, rfl, defined, rfl, rfl⟩
    · cases rest with
      | nil =>
        have next : found.flatMap (piecesOf definitions) = [] ++ .replaced name value :: back :=
          tail.symm
        obtain ⟨before, after, rfl, defined, none, rfl⟩ := ih next
        refine ⟨lexeme :: before, after, rfl, defined, ?_, rfl⟩
        rw [List.flatMap_cons, cut, ← none]
        simp
      | cons first rest =>
        obtain ⟨rfl, rfl⟩ := List.cons.inj tail
        have member : .replaced name value ∈ piecesOf definitions lexeme := by simp [cut]
        obtain ⟨rfl, defined⟩ := value_of_replaced_mem member
        rw [piecesOf_of_value defined] at cut
        obtain ⟨rfl, rfl⟩ : front = [] ∧ rest = [] := by
          rcases List.append_eq_singleton_iff.mp cut.symm with ⟨none, one⟩ | ⟨-, none⟩
          · exact ⟨none, (List.cons.inj one).2⟩
          · cases none
        obtain ⟨kind, text⟩ := lexeme
        obtain ⟨rfl, defined⟩ := macroValue?_eq_some.mp defined
        exact ⟨[], found, rfl, defined, rfl, rfl⟩

/-- The identifier that a macro name is, where it is one. -/
theorem isReplaced_iff {definitions : Definitions} {text before name value after : List Char} :
    IsReplaced ((lexemes text).flatMap (piecesOf definitions)) before name value after ↔
      definitions.lookup name = some value ∧ ∃ front back,
        lexemes text = front ++ ⟨.identifier, name⟩ :: back ∧
        front.flatMap (·.text) = before ∧ back.flatMap (·.text) = after := by
  constructor
  · rintro ⟨front, back, split, rfl, rfl⟩
    obtain ⟨before, after, divided, defined, rfl, rfl⟩ := exists_lexeme_of_replaced split
    exact ⟨defined, before, after, divided, (source_flatMap_piecesOf _ _).symm,
      (source_flatMap_piecesOf _ _).symm⟩
  · rintro ⟨found, front, back, split, rfl, rfl⟩
    refine ⟨front.flatMap (piecesOf definitions), back.flatMap (piecesOf definitions), ?_,
      source_flatMap_piecesOf _ _, source_flatMap_piecesOf _ _⟩
    rw [split, List.flatMap_append, List.flatMap_cons,
      piecesOf_of_value (macroValue?_eq_some.mpr ⟨rfl, found⟩), List.singleton_append]

/-- An identifier that is a lexeme stands apart from word characters after it and from lexemes that
end in one before it, and no other lexeme covers any of it. -/
theorem apart_of_lexeme {text name : List Char} {front back : List Lexeme}
    (split : lexemes text = front ++ ⟨.identifier, name⟩ :: back) :
    StandsApart text (front.flatMap (·.text)) name (back.flatMap (·.text)) := by
  have separate := separate_lexemes text
  rw [split] at separate
  refine ⟨?_, separate.endsBefore, ?_⟩
  · intro before last same word lexeme lies
    obtain ⟨before', lexeme', between, inside, rest, rfl, cut, some, rfl⟩ :=
      exists_split (List.cons_ne_nil last []) same
    have own : LiesIn text (before'.flatMap (·.text) ++ inside) lexeme' :=
      ⟨before', _, inside, rest, by simpa using split, cut, some, rfl⟩
    obtain rfl := lies.unique own
    rw [List.append_assoc, List.cons_append] at separate
    have ends := separate.endsBefore
    have tail : rest ++ between.flatMap (·.text) = [last] := by
      simpa [cut, List.append_assoc] using same
    obtain ⟨rfl, none⟩ : rest = [last] ∧ between.flatMap (·.text) = [] := by
      rcases List.append_eq_singleton_iff.mp tail with ⟨none, -⟩ | one
      · exact absurd none some
      · exact one
    rw [List.flatMap_append, none, List.nil_append, List.flatMap_cons] at ends
    have formed := separate.right.1
    cases separate.formed ⟨.identifier, name⟩ (by simp) with
    | identifier starts => exact formed.kind_of_word cut word starts ends
  · intro part isPart proper lexeme lies
    obtain ⟨rest, rfl⟩ := isPart
    have some : rest ≠ [] := by
      rintro rfl
      exact proper (List.append_nil part).symm
    have own : LiesIn text (front.flatMap (·.text) ++ part) ⟨.identifier, part ++ rest⟩ :=
      ⟨front, back, part, rest, split, rfl, some, rfl⟩
    rw [lies.unique own]
    exact ⟨nofun, nofun, nofun⟩

/-- Where a name begins, the lexeme that begins there is the name, if it can only be an identifier
and the name ends like one. -/
theorem eq_identifier {lexeme : Lexeme} {name after tail : List Char} (formed : lexeme.Formed)
    (ends : lexeme.EndsBefore tail) (covered : lexeme.kind = .identifier ∨ lexeme.kind = .other)
    (named : Lexeme.Formed ⟨.identifier, name⟩) (stops : Stops isWordChar after)
    (same : lexeme.text ++ tail = name ++ after) :
    lexeme = ⟨.identifier, name⟩ ∧ tail = after := by
  have words := named.isWordChar_of_mem
  obtain ⟨ended, left⟩ := span_append words stops
  cases formed with
  | @identifier first body starts inside =>
    have words' := (Lexeme.Formed.identifier starts inside).isWordChar_of_mem
    obtain ⟨ended', left'⟩ := span_append words' ends
    rw [same] at ended' left'
    rw [← ended', ← left', ended, left]
    exact ⟨rfl, rfl⟩
  | @other c _ notLetter =>
    cases named with
    | identifier starts =>
      obtain ⟨rfl, -⟩ := List.cons.inj same
      rw [starts] at notLetter
      cases notLetter
  | _ => rcases covered with kind | kind <;> cases kind

theorem lexeme_of_apart {text before name after : List Char}
    (formed : Lexeme.Formed ⟨.identifier, name⟩) (same : text = before ++ name ++ after)
    (apart : StandsApart text before name after) :
    ∃ front back, lexemes text = front ++ ⟨.identifier, name⟩ :: back ∧
      front.flatMap (·.text) = before ∧ back.flatMap (·.text) = after := by
  obtain ⟨noLexeme, stops, outside⟩ := apart
  have first : name ++ after ≠ [] := by simp [formed.text_ne_nil]
  obtain ⟨lexeme, lies⟩ := exists_liesIn before first
  rw [← List.append_assoc, ← same] at lies
  have covered : lexeme.kind = .identifier ∨ lexeme.kind = .other := by
    have none := outside [] List.nil_prefix formed.text_ne_nil.symm lexeme (by simpa using lies)
    cases kind : lexeme.kind <;> simp_all
  obtain ⟨front, back, inside, rest, split, cut, some, rfl⟩ := id lies
  have separate := separate_lexemes text
  rw [split] at separate
  have formed' := separate.right.1
  have tail : rest ++ back.flatMap (·.text) = name ++ after := by
    have flat := lexemes_flatten text
    rw [split] at flat
    simpa [cut, same] using flat
  rcases List.eq_nil_or_concat' inside with rfl | ⟨inside, last, rfl⟩
  · rw [List.nil_append] at cut
    rw [← cut] at tail
    obtain ⟨rfl, rfl⟩ := eq_identifier formed' separate.endsBefore covered formed stops tail
    exact ⟨front, back, split, (List.append_nil _).symm, rfl⟩
  -- an identifier that begins before the name would end in a word character there
  · cases formed' with
    | @identifier first body starts word =>
      have member : last ∈ first :: body := by simp [show first :: body = _ from cut]
      have isWord := (Lexeme.Formed.identifier starts word).isWordChar_of_mem last member
      have own : LiesIn text (front.flatMap (·.text) ++ inside) ⟨.identifier, first :: body⟩ :=
        ⟨front, back, inside, last :: rest, split, by simpa using cut, List.cons_ne_nil _ _, rfl⟩
      cases noLexeme _ last (List.append_assoc _ _ _).symm isWord _ own
    | other =>
      have length := congrArg List.length cut
      have restLength := List.length_pos_iff.mpr some
      simp only [List.length_append, List.length_singleton] at length restLength
      omega
    | _ => rcases covered with kind | kind <;> cases kind

theorem replaces_apart {definitions : Definitions} (named : definitions.Named) (text : List Char) :
    Replaces definitions text (StandsApart text) := by
  refine ⟨(lexemes text).flatMap (piecesOf definitions), ?_, ?_, ?_, ?_⟩
  · rw [source_flatMap_piecesOf, lexemes_flatten]
  · simp only [List.flatMap_assoc, result_piecesOf]
    rfl
  · intro name value member
    obtain ⟨lexeme, -, member⟩ := List.mem_flatMap.mp member
    obtain ⟨rfl, defined⟩ := value_of_replaced_mem member
    exact (macroValue?_eq_some.mp defined).2
  · intro before name value after defined same
    rw [isReplaced_iff]
    constructor
    · rintro ⟨-, front, back, split, rfl, rfl⟩
      exact apart_of_lexeme split
    · intro apart
      obtain ⟨_, _, rfl, -⟩ := List.lookup_eq_some_iff.mp defined
      have formed : Lexeme.Formed ⟨.identifier, name⟩ := named (name, value) (by simp)
      exact ⟨defined, lexeme_of_apart formed same apart⟩

/-! ## Words -/

theorem isDigit_or_startsIdentifier {c : Char} (word : isWordChar c = true)
    (ascii : c.val < 0x80) : isDigit c = true ∨ startsIdentifier c = true := by
  rw [isWordChar, Text.isAlphanumeric, if_pos ascii, Char.isAlphanum] at word
  rw [startsIdentifier]
  cases digit : c.isDigit with
  | true =>
    left
    simp only [Char.isDigit, Bool.and_eq_true, decide_eq_true_eq, UInt32.le_iff_toNat_le] at digit
    change 48 ≤ c.toNat ∧ c.toNat ≤ 57 at digit
    have inFirst : ∃ start ∈ Text.digitZeros, start ≤ c.toNat ∧ c.toNat < start + 10 :=
      ⟨0x30, by decide, by omega, by omega⟩
    simpa [isDigit, Text.digitValue?] using inFirst
  | false =>
    right
    simpa [digit, or_comm] using word

theorem LiesIn.starts_nothing {before after : List Char} {c : Char} {lexeme : Lexeme}
    (lies : LiesIn (before ++ c :: after) before lexeme) (kind : lexeme.kind = .other) :
    isDigit c = false ∧ startsIdentifier c = false := by
  obtain ⟨front, back, inside, rest, split, cut, some, rfl⟩ := lies
  have separate := separate_lexemes (front.flatMap (·.text) ++ inside ++ c :: after)
  have flat := lexemes_flatten (front.flatMap (·.text) ++ inside ++ c :: after)
  rw [split] at separate flat
  cases separate.right.1 with
  | @other d notDigit notLetter =>
    rcases List.append_eq_singleton_iff.mp cut.symm with ⟨rfl, rfl⟩ | ⟨-, none⟩
    · obtain rfl : d = c := by
        simp only [List.flatMap_append, List.flatMap_cons, List.append_nil] at flat
        exact (List.cons.inj (List.append_cancel_left flat)).1
      exact ⟨notDigit, notLetter⟩
    · exact absurd none some
  | _ => cases kind

theorem endsNoLexeme_iff_of_ascii {text before after : List Char}
    (ascii : ∀ c ∈ text, isWordChar c = true → c.val < 0x80) (same : text = before ++ after) :
    EndsNoLexeme text before ↔ EndsNoWord before := by
  constructor
  · intro noLexeme last member
    obtain ⟨front, rfl⟩ := List.getLast?_eq_some_iff.mp member
    refine Bool.eq_false_iff.mpr fun word => ?_
    obtain ⟨lexeme, lies⟩ := exists_liesIn front (List.cons_ne_nil last after)
    have split : text = front ++ last :: after := by simpa using same
    have kind := noLexeme front last rfl word lexeme (split ▸ lies)
    obtain ⟨notDigit, notLetter⟩ := lies.starts_nothing kind
    rcases isDigit_or_startsIdentifier word (ascii last (by simp [split]) word) with digit | letter
    · rw [notDigit] at digit
      cases digit
    · rw [notLetter] at letter
      cases letter
  · rintro noWord front last rfl word
    rw [noWord last (by simp)] at word
    cases word

/-- Expansion replaces the macro names that stand apart. Where all word characters are of ASCII,
these are the whole words outside comments, literals and numbers. -/
theorem expand_replaces {definitions : Definitions} (named : definitions.Named) (text : List Char) :
    Replaces definitions text (StandsApart text) ∧
      ((∀ c ∈ text, isWordChar c = true → c.val < 0x80) →
        Replaces definitions text (IsWholeWord text)) := by
  refine ⟨replaces_apart named text, fun ascii => ?_⟩
  obtain ⟨pieces, source, result, values, occurrences⟩ := replaces_apart named text
  refine ⟨pieces, source, result, values, fun before name value after defined same => ?_⟩
  rw [occurrences before name value after defined same, StandsApart, IsWholeWord,
    endsNoLexeme_iff_of_ascii ascii (same.trans (List.append_assoc _ _ _))]

theorem expand_replaces_of_subscript :
    let definitions : Definitions := [(['N'], ['1', '0'])]
    let text := ['N', 'N', '[', 'N', ']']
    definitions.Named ∧ (∀ c ∈ text, isWordChar c = true → c.val < 0x80) ∧
      Replaces definitions text (IsWholeWord text) ∧
      expand definitions text = ['N', 'N', '[', '1', '0', ']'] := by
  intro definitions text
  have named : definitions.Named := named_singleton (.identifier rfl (by simp))
  have all : text.all (fun c => c.val < 0x80) = true := by decide
  have ascii : ∀ c ∈ text, isWordChar c = true → c.val < 0x80 := fun c member _ =>
    of_decide_eq_true (List.all_eq_true.mp all c member)
  exact ⟨named, ascii, (expand_replaces named text).2 ascii, by decide +kernel⟩

/-- What is made ready for the parser is the text without its directives, with the macros they
define replaced where their names stand apart. -/
theorem preprocess_replaces (text : List Char) :
    let (stripped, definitions) := stripDirectives (joinContinuations text)
    preprocess text = expand definitions stripped ∧
      Replaces definitions stripped (StandsApart stripped) :=
  ⟨rfl, replaces_apart (named_definitionsOf _) _⟩

theorem exists_replaced_of_ne {pieces : List Piece}
    (changed : pieces.flatMap Piece.result ≠ pieces.flatMap Piece.source) :
    ∃ name value, .replaced name value ∈ pieces := by
  induction pieces with
  | nil => exact absurd rfl changed
  | cons piece pieces ih =>
    cases piece with
    | copied c =>
      obtain ⟨name, value, member⟩ := ih fun same =>
        changed (by simpa [Piece.result, Piece.source] using same)
      exact ⟨name, value, List.mem_cons_of_mem _ member⟩
    | replaced name value => exact ⟨name, value, List.mem_cons_self⟩

/-- A name is replaced also right after a letter with which no identifier starts. -/
theorem expand_breaks_word :
    ¬Replaces [(['N'], ['1', '0'])] ['é', 'N'] (IsWholeWord ['é', 'N']) := by
  rintro ⟨pieces, source, result, values, occurrences⟩
  have expanded : expand [(['N'], ['1', '0'])] ['é', 'N'] = ['é', '1', '0'] := by decide +kernel
  obtain ⟨name, value, member⟩ := exists_replaced_of_ne (by
    rw [source, result, expanded]
    decide)
  have defined := values name value member
  obtain ⟨rfl, rfl⟩ : ['N'] = name ∧ ['1', '0'] = value := by
    obtain ⟨front, back, entries, -⟩ := List.lookup_eq_some_iff.mp defined
    rcases List.append_eq_singleton_iff.mp entries.symm with ⟨-, one⟩ | ⟨-, none⟩
    · exact Prod.mk.inj (List.cons.inj one).1.symm
    · cases none
  obtain ⟨front, back, rfl⟩ := List.append_of_mem member
  have cut : ['é', 'N'] = front.flatMap Piece.source ++ ['N'] ++ back.flatMap Piece.source := by
    simpa [Piece.source] using source.symm
  have whole := (occurrences _ _ _ _ defined cut).mp ⟨front, back, rfl, rfl, rfl⟩
  have before : front.flatMap Piece.source = ['é'] := by
    generalize front.flatMap Piece.source = before at cut
    generalize back.flatMap Piece.source = after at cut
    rw [List.append_assoc] at cut
    cases before with
    | nil => cases cut
    | cons c before =>
      obtain ⟨rfl, tail⟩ := List.cons.inj cut
      rcases List.append_eq_singleton_iff.mp tail.symm with ⟨rfl, -⟩ | ⟨-, none⟩
      · rfl
      · cases none
  have noWord := whole.1 'é' (by rw [before]; rfl)
  have word : isWordChar 'é' = true := by decide +kernel
  rw [noWord] at word
  cases word

end SourceSimilarity.Macro
