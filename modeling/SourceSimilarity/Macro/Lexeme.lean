import SourceSimilarity.Text.WordChar
import SourceSimilarity.Text.Digit

/-!
Lexemes of C text: comments, string and character literals, preprocessing numbers and identifiers.
At each place the text is tried for one of them; a character that starts none is a lexeme of its
own. The texts of the lexemes, one after the other, are the text that was scanned.
-/

namespace SourceSimilarity.Macro

open Text (isWordChar isDigit)

/-- What a lexeme is. `other` is a single character that starts nothing. -/
inductive LexemeKind where
  | comment
  | literal
  | number
  | identifier
  | other
deriving DecidableEq, Repr

structure Lexeme where
  kind : LexemeKind
  text : List Char
deriving DecidableEq, Repr

def commentBody : List Char → Option (List Char × List Char)
  | '*' :: '/' :: rest => some (['*', '/'], rest)
  | c :: rest => (commentBody rest).map fun (body, after) => (c :: body, after)
  | [] => none

/-- The text of a literal after its opening quote, up to the closing one, included. A backslash
takes the next character with it, whatever that is; without one the line must not end. -/
def literalBody (quote : Char) : List Char → Option (List Char × List Char)
  | [] => none
  | '\\' :: c :: rest =>
    (literalBody quote rest).map fun (body, after) => ('\\' :: c :: body, after)
  | c :: rest =>
    if c = quote then some ([c], rest)
    else if c = '\n' ∨ c = '\\' then none
    else (literalBody quote rest).map fun (body, after) => (c :: body, after)

def isExponentLetter (c : Char) : Bool := c == 'e' || c == 'E' || c == 'p' || c == 'P'

def numberBody : List Char → List Char × List Char
  | [] => ([], [])
  | [c] => if isWordChar c || c == '.' then ([c], []) else ([], [c])
  | c :: d :: rest =>
    if isExponentLetter c && (d == '+' || d == '-') then
      let (body, after) := numberBody rest
      (c :: d :: body, after)
    else if isWordChar c || c == '.' then
      let (body, after) := numberBody (d :: rest)
      (c :: body, after)
    else ([], c :: d :: rest)

def startsIdentifier (c : Char) : Bool := c.isAlpha || c == '_'

/-- The comment, literal, number or identifier that a text starts with, and what follows it. -/
def scan? : List Char → Option (Lexeme × List Char)
  | '/' :: '*' :: rest =>
    (commentBody rest).map fun (body, after) => (⟨.comment, '/' :: '*' :: body⟩, after)
  | '/' :: '/' :: rest =>
    some (⟨.comment, '/' :: '/' :: rest.takeWhile (· != '\n')⟩, rest.dropWhile (· != '\n'))
  | '.' :: c :: rest =>
    if isDigit c then
      let (body, after) := numberBody rest
      some (⟨.number, '.' :: c :: body⟩, after)
    else none
  | c :: rest =>
    if c = '"' ∨ c = '\'' then
      (literalBody c rest).map fun (body, after) => (⟨.literal, c :: body⟩, after)
    else if isDigit c then
      let (body, after) := numberBody rest
      some (⟨.number, c :: body⟩, after)
    else if startsIdentifier c then
      some (⟨.identifier, c :: rest.takeWhile isWordChar⟩, rest.dropWhile isWordChar)
    else none
  | [] => none

theorem commentBody_append {text body after : List Char}
    (h : commentBody text = some (body, after)) : body ++ after = text := by
  fun_induction commentBody text generalizing body after with
  | case1 rest =>
    obtain ⟨rfl, rfl⟩ := Prod.mk.inj (Option.some.inj h)
    rfl
  | case2 c rest _ ih =>
    obtain ⟨⟨inner, tail⟩, found, same⟩ := Option.map_eq_some_iff.1 h
    obtain ⟨rfl, rfl⟩ := Prod.mk.inj same
    simp [ih found]
  | case3 => simp at h

theorem literalBody_append {quote : Char} {text body after : List Char}
    (h : literalBody quote text = some (body, after)) : body ++ after = text := by
  fun_induction literalBody quote text generalizing body after with
  | case1 => simp at h
  | case2 c rest ih =>
    obtain ⟨⟨inner, tail⟩, found, same⟩ := Option.map_eq_some_iff.1 h
    obtain ⟨rfl, rfl⟩ := Prod.mk.inj same
    simp [ih found]
  | case3 =>
    obtain ⟨rfl, rfl⟩ := Prod.mk.inj (Option.some.inj h)
    rfl
  | case4 => simp at h
  | case5 c rest _ _ _ ih =>
    obtain ⟨⟨inner, tail⟩, found, same⟩ := Option.map_eq_some_iff.1 h
    obtain ⟨rfl, rfl⟩ := Prod.mk.inj same
    simp [ih found]

theorem numberBody_append (text : List Char) :
    (numberBody text).1 ++ (numberBody text).2 = text := by
  fun_induction numberBody text <;> simp_all

theorem scan?_append {text after : List Char} {lexeme : Lexeme}
    (h : scan? text = some (lexeme, after)) : lexeme.text ++ after = text := by
  unfold scan? at h
  split at h
  · obtain ⟨⟨body, tail⟩, found, same⟩ := Option.map_eq_some_iff.1 h
    obtain ⟨rfl, rfl⟩ := Prod.mk.inj same
    simp [commentBody_append found]
  · obtain ⟨rfl, rfl⟩ := Prod.mk.inj (Option.some.inj h)
    simp [List.takeWhile_append_dropWhile]
  · split at h
    · obtain ⟨rfl, rfl⟩ := Prod.mk.inj (Option.some.inj h)
      simp [numberBody_append]
    · simp at h
  · split at h
    · obtain ⟨⟨body, tail⟩, found, same⟩ := Option.map_eq_some_iff.1 h
      obtain ⟨rfl, rfl⟩ := Prod.mk.inj same
      simp [literalBody_append found]
    · split at h
      · obtain ⟨rfl, rfl⟩ := Prod.mk.inj (Option.some.inj h)
        simp [numberBody_append]
      · split at h
        · obtain ⟨rfl, rfl⟩ := Prod.mk.inj (Option.some.inj h)
          simp [List.takeWhile_append_dropWhile]
        · simp at h
  · simp at h

theorem scan?_ne_nil {text after : List Char} {lexeme : Lexeme}
    (h : scan? text = some (lexeme, after)) : lexeme.text ≠ [] := by
  unfold scan? at h
  split at h
  · obtain ⟨_, _, same⟩ := Option.map_eq_some_iff.1 h
    obtain ⟨rfl, _⟩ := Prod.mk.inj same
    simp
  · obtain ⟨rfl, _⟩ := Prod.mk.inj (Option.some.inj h)
    simp
  · split at h
    · obtain ⟨rfl, _⟩ := Prod.mk.inj (Option.some.inj h)
      simp
    · simp at h
  · split at h
    · obtain ⟨_, _, same⟩ := Option.map_eq_some_iff.1 h
      obtain ⟨rfl, _⟩ := Prod.mk.inj same
      simp
    · split at h
      · obtain ⟨rfl, _⟩ := Prod.mk.inj (Option.some.inj h)
        simp
      · split at h
        · obtain ⟨rfl, _⟩ := Prod.mk.inj (Option.some.inj h)
          simp
        · simp at h
  · simp at h

theorem scan?_length_lt {text after : List Char} {lexeme : Lexeme}
    (h : scan? text = some (lexeme, after)) : after.length < text.length := by
  have cut := congrArg List.length (scan?_append h)
  have some := List.length_pos_iff.2 (scan?_ne_nil h)
  simp only [List.length_append] at cut
  omega

def lexemes : List Char → List Lexeme
  | [] => []
  | c :: rest =>
    match _found : scan? (c :: rest) with
    | some (lexeme, after) => lexeme :: lexemes after
    | none => ⟨.other, [c]⟩ :: lexemes rest
termination_by text => text.length
decreasing_by
  · exact scan?_length_lt (by assumption)
  · simp

theorem lexemes_flatten (text : List Char) : (lexemes text).flatMap (·.text) = text := by
  fun_induction lexemes text with
  | case1 => rfl
  | case2 c rest lexeme after found ih => simp [ih, scan?_append found]
  | case3 c rest _ ih => simp [ih]

end SourceSimilarity.Macro
