import SourceSimilarity.Macro.Lexeme
import Mathlib.Data.List.Chain
import Mathlib.Data.List.TakeWhile
import Mathlib.Tactic.SplitIfs

namespace SourceSimilarity.Macro

open Text (isWordChar isDigit digitZeros)

def IsQuote (c : Char) : Prop := c = '"' ∨ c = '\''

/-- What stands between the quotes of a literal: a backslash takes the next character with it, and
only so a quote or the end of a line can stand there. -/
inductive LiteralBody (quote : Char) : List Char → Prop
  | nil : LiteralBody quote []
  | escaped (c : Char) {body : List Char} :
    LiteralBody quote body → LiteralBody quote ('\\' :: c :: body)
  | plain {c : Char} {body : List Char} : c ≠ quote → c ≠ '\n' → c ≠ '\\' →
    LiteralBody quote body → LiteralBody quote (c :: body)

/-- Whether a preprocessing number goes on with a character, after the one it has last. -/
def continues (last c : Char) : Bool :=
  isWordChar c || c == '.' || (isExponentLetter last && (c == '+' || c == '-'))

def Stops (p : Char → Bool) (after : List Char) : Prop := ∀ c ∈ after.head?, p c = false

def IsNumberBody (text : List Char) : Prop := text.IsChain fun last c => continues last c = true

/-- The text of a lexeme, by its kind. -/
inductive Lexeme.Formed : Lexeme → Prop
  | block {body : List Char} : ¬['*', '/'] <:+: body →
    Formed ⟨.comment, '/' :: '*' :: (body ++ ['*', '/'])⟩
  | line {body : List Char} : (∀ c ∈ body, (c != '\n') = true) →
    Formed ⟨.comment, '/' :: '/' :: body⟩
  | literal {quote : Char} {body : List Char} : IsQuote quote → LiteralBody quote body →
    Formed ⟨.literal, quote :: (body ++ [quote])⟩
  | number {first : Char} {body : List Char} : isDigit first = true →
    IsNumberBody (first :: body) → Formed ⟨.number, first :: body⟩
  | fraction {first : Char} {body : List Char} : isDigit first = true →
    IsNumberBody (first :: body) → Formed ⟨.number, '.' :: first :: body⟩
  | identifier {first : Char} {body : List Char} : startsIdentifier first = true →
    (∀ c ∈ body, isWordChar c = true) → Formed ⟨.identifier, first :: body⟩
  | other {c : Char} : isDigit c = false → startsIdentifier c = false → Formed ⟨.other, [c]⟩

/-- Whether a character that is neither a digit nor starts an identifier begins a lexeme with the
text after it. -/
inductive Begins : Char → List Char → Prop
  | block (body after : List Char) : Begins '/' ('*' :: (body ++ '*' :: '/' :: after))
  | line (after : List Char) : Begins '/' ('/' :: after)
  | literal {quote : Char} {body : List Char} (after : List Char) : IsQuote quote →
    LiteralBody quote body → Begins quote (body ++ quote :: after)
  | fraction {digit : Char} (after : List Char) : isDigit digit = true →
    Begins '.' (digit :: after)

/-- Whether a lexeme ends where this text follows it. -/
def Lexeme.EndsBefore (lexeme : Lexeme) (after : List Char) : Prop :=
  match lexeme.kind with
  | .comment => ['/', '/'] <+: lexeme.text → Stops (· != '\n') after
  | .literal => True
  | .number => ∀ last ∈ lexeme.text.getLast?, Stops (continues last) after
  | .identifier => Stops isWordChar after
  | .other => ∀ c ∈ lexeme.text.head?, ¬Begins c after

theorem toNat_of_startsIdentifier {c : Char} (starts : startsIdentifier c = true) :
    65 ≤ c.toNat ∧ c.toNat ≤ 122 := by
  rw [startsIdentifier, Bool.or_eq_true, beq_iff_eq] at starts
  rcases starts with letter | rfl
  · delta Char.isAlpha Char.isUpper Char.isLower at letter
    simp only [Bool.or_eq_true, Bool.and_eq_true, decide_eq_true_eq, ge_iff_le,
      UInt32.le_iff_toNat_le] at letter
    change 65 ≤ c.toNat ∧ c.toNat ≤ 90 ∨ 97 ≤ c.toNat ∧ c.toNat ≤ 122 at letter
    omega
  · decide

theorem not_isDigit_of_startsIdentifier {c : Char} (starts : startsIdentifier c = true) :
    isDigit c = false := by
  have letter := toNat_of_startsIdentifier starts
  have outside : ∀ start ∈ digitZeros, start + 10 ≤ 65 ∨ 122 < start := by decide
  have none : digitZeros.find? (fun start => start ≤ c.toNat && c.toNat < start + 10) = none := by
    refine List.find?_eq_none.mpr fun start member => ?_
    have apart := outside start member
    simp only [Bool.and_eq_true, decide_eq_true_eq, not_and]
    omega
  simp [isDigit, Text.digitValue?, none]

theorem IsQuote.ne_backslash {quote : Char} (isQuote : IsQuote quote) : quote ≠ '\\' := by
  rcases isQuote with rfl | rfl <;> decide

@[simp] theorem stops_nil (p : Char → Bool) : Stops p [] := by simp [Stops]

@[simp] theorem stops_cons {p : Char → Bool} {c : Char} {rest : List Char} :
    Stops p (c :: rest) ↔ p c = false := by
  simp [Stops]

theorem stops_dropWhile (p : Char → Bool) (text : List Char) : Stops p (text.dropWhile p) := by
  intro c member
  have first := List.head?_dropWhile_not p text
  rwa [Option.mem_def.mp member] at first

theorem span_append {p : Char → Bool} {body after : List Char} (inside : ∀ c ∈ body, p c = true)
    (stops : Stops p after) :
    (body ++ after).takeWhile p = body ∧ (body ++ after).dropWhile p = after := by
  rw [List.takeWhile_append_of_pos inside, List.dropWhile_append_of_pos inside]
  cases after with
  | nil => simp
  | cons c rest => simp [stops_cons.mp stops]

theorem commentBody_append_close {body : List Char} (unclosed : ¬['*', '/'] <:+: body)
    (after : List Char) :
    commentBody (body ++ '*' :: '/' :: after) = some (body ++ ['*', '/'], after) := by
  induction body with
  | nil => rfl
  | cons c body ih =>
    rw [List.infix_cons_iff, not_or] at unclosed
    rw [List.cons_append, commentBody, ih unclosed.2]
    · rfl
    · rintro rest rfl equal
      cases body with
      | nil => simp at equal
      | cons d body =>
        obtain ⟨rfl, -⟩ := List.cons.inj equal
        exact unclosed.1 ⟨body, rfl⟩

theorem commentBody_eq_some {text closed after : List Char}
    (found : commentBody text = some (closed, after)) :
    ∃ body, ¬['*', '/'] <:+: body ∧ closed = body ++ ['*', '/'] := by
  fun_induction commentBody text generalizing closed after with
  | case1 rest =>
    obtain ⟨rfl, rfl⟩ := Prod.mk.inj (Option.some.inj found)
    exact ⟨[], by simp, rfl⟩
  | case2 c rest unclosed ih =>
    obtain ⟨⟨inner, tail⟩, taken, same⟩ := Option.map_eq_some_iff.1 found
    obtain ⟨rfl, rfl⟩ := Prod.mk.inj same
    obtain ⟨body, inside, rfl⟩ := ih taken
    refine ⟨c :: body, ?_, rfl⟩
    rw [List.infix_cons_iff, not_or]
    refine ⟨?_, inside⟩
    rintro ⟨body', equal⟩
    obtain ⟨rfl, rfl⟩ := List.cons.inj equal
    exact unclosed _ rfl (by rw [← commentBody_append taken]; rfl)
  | case3 => simp at found

theorem exists_commentBody (body after : List Char) :
    ∃ found, commentBody (body ++ '*' :: '/' :: after) = some found := by
  induction body with
  | nil => exact ⟨_, rfl⟩
  | cons c body ih =>
    obtain ⟨found, taken⟩ := ih
    by_cases closes : ∃ rest, c = '*' ∧ body ++ '*' :: '/' :: after = '/' :: rest
    · obtain ⟨rest, rfl, equal⟩ := closes
      exact ⟨_, by rw [List.cons_append, equal, commentBody]⟩
    · have unclosed : ∀ rest, c = '*' → body ++ '*' :: '/' :: after = '/' :: rest → False :=
        fun rest star slash => closes ⟨rest, star, slash⟩
      exact ⟨_, by rw [List.cons_append, commentBody.eq_2 _ _ unclosed, taken, Option.map_some]⟩

theorem literalBody_append_close {quote : Char} (isQuote : IsQuote quote) {body : List Char}
    (inside : LiteralBody quote body) (after : List Char) :
    literalBody quote (body ++ quote :: after) = some (body ++ [quote], after) := by
  induction inside with
  | nil =>
    rw [List.nil_append, literalBody]
    · simp
    · exact fun _ _ equal => absurd equal isQuote.ne_backslash
  | escaped c _ ih => simp [literalBody, ih]
  | @plain c body notQuote notEnd notEscape _ ih =>
    rw [List.cons_append, literalBody]
    · simp [notQuote, notEnd, notEscape, ih]
    · exact fun _ _ equal => absurd equal notEscape

theorem literalBody_eq_some {quote : Char} {text closed after : List Char}
    (found : literalBody quote text = some (closed, after)) :
    ∃ body, LiteralBody quote body ∧ closed = body ++ [quote] := by
  fun_induction literalBody quote text generalizing closed after with
  | case1 => simp at found
  | case2 c rest ih =>
    obtain ⟨⟨inner, tail⟩, taken, same⟩ := Option.map_eq_some_iff.1 found
    obtain ⟨rfl, rfl⟩ := Prod.mk.inj same
    obtain ⟨body, inside, rfl⟩ := ih taken
    exact ⟨_, .escaped c inside, rfl⟩
  | case3 =>
    obtain ⟨rfl, rfl⟩ := Prod.mk.inj (Option.some.inj found)
    exact ⟨[], .nil, rfl⟩
  | case4 => simp at found
  | case5 c rest _ notQuote ends ih =>
    obtain ⟨⟨inner, tail⟩, taken, same⟩ := Option.map_eq_some_iff.1 found
    obtain ⟨rfl, rfl⟩ := Prod.mk.inj same
    obtain ⟨body, inside, rfl⟩ := ih taken
    rw [not_or] at ends
    exact ⟨_, .plain notQuote ends.1 ends.2 inside, rfl⟩

theorem IsNumberBody.cons {last c : Char} {body : List Char} (goesOn : continues last c = true)
    (rest : IsNumberBody (c :: body)) : IsNumberBody (last :: c :: body) :=
  List.isChain_cons_cons.mpr ⟨goesOn, rest⟩

theorem continues_eq_false {last c : Char} (notWord : ¬(isWordChar c || c == '.') = true)
    (notSign : isExponentLetter last = true → (c == '+' || c == '-') = false) :
    continues last c = false := by
  rw [Bool.not_eq_true] at notWord
  rw [continues, notWord, Bool.false_or]
  cases exponent : isExponentLetter last with
  | true => exact notSign exponent
  | false => rfl

theorem isWordChar_of_isExponentLetter {c : Char} (exponent : isExponentLetter c = true) :
    isWordChar c = true := by
  simp only [isExponentLetter, Bool.or_eq_true, beq_iff_eq] at exponent
  rcases exponent with ((rfl | rfl) | rfl) | rfl <;> decide

/-- The characters taken for a number go on with each other, and the next one does not. A sign is
taken together with the letter before it, so none may come first after such a letter. -/
theorem numberBody_spec (last : Char) (text : List Char)
    (apart : isExponentLetter last = true → Stops (fun c => c == '+' || c == '-') text) :
    IsNumberBody (last :: (numberBody text).1) ∧
      ∀ c ∈ (last :: (numberBody text).1).getLast?, Stops (continues c) (numberBody text).2 := by
  fun_induction numberBody text generalizing last with
  | case1 => simp [IsNumberBody]
  | case2 c word =>
    have goesOn : continues last c = true := by simp [continues, word]
    simp [IsNumberBody, goesOn]
  | case3 c notWord =>
    have ends := continues_eq_false notWord fun exponent => stops_cons.mp (apart exponent)
    simp [IsNumberBody, ends]
  | case4 c d rest signed body after taken ih =>
    rw [Bool.and_eq_true] at signed
    have letter : continues last c = true := by
      simp [continues, isWordChar_of_isExponentLetter signed.1]
    have sign : continues c d = true := by simp [continues, signed]
    have noLetter : isExponentLetter d = false := by
      simp only [Bool.or_eq_true, beq_iff_eq] at signed
      rcases signed.2 with rfl | rfl <;> rfl
    have spec := ih d (by simp [noLetter])
    rw [taken] at spec
    refine ⟨IsNumberBody.cons letter (IsNumberBody.cons sign spec.1), ?_⟩
    simpa only [List.getLast?_cons_cons] using spec.2
  | case5 c d rest unsigned word body after taken ih =>
    have goesOn : continues last c = true := by
      rw [continues, word, Bool.true_or]
    have spec := ih c fun exponent => stops_cons.mpr (by simpa [exponent] using unsigned)
    rw [taken] at spec
    refine ⟨IsNumberBody.cons goesOn spec.1, ?_⟩
    simpa only [List.getLast?_cons_cons] using spec.2
  | case6 c d rest _ notWord =>
    have ends := continues_eq_false notWord fun exponent => stops_cons.mp (apart exponent)
    simp [IsNumberBody, ends]

theorem number_append_inj {last : Char} {body body' after after' : List Char}
    (inside : IsNumberBody (last :: body)) (inside' : IsNumberBody (last :: body'))
    (stops : ∀ c ∈ (last :: body).getLast?, Stops (continues c) after)
    (stops' : ∀ c ∈ (last :: body').getLast?, Stops (continues c) after')
    (same : body ++ after = body' ++ after') : body = body' ∧ after = after' := by
  induction body generalizing last body' with
  | nil =>
    cases body' with
    | nil => exact ⟨rfl, same⟩
    | cons c body' =>
      obtain rfl : after = _ := same
      have goesOn := (List.isChain_cons_cons.mp inside').1
      have ended := stops_cons.mp (stops last rfl)
      rw [goesOn] at ended
      cases ended
  | cons c body ih =>
    have goesOn := List.isChain_cons_cons.mp inside
    cases body' with
    | nil =>
      obtain rfl : _ = after' := same
      have ended := stops_cons.mp (stops' last rfl)
      rw [goesOn.1] at ended
      cases ended
    | cons c' body' =>
      obtain ⟨rfl, tails⟩ := List.cons.inj same
      rw [List.getLast?_cons_cons] at stops stops'
      obtain ⟨rfl, rfl⟩ :=
        ih goesOn.2 (List.isChain_cons_cons.mp inside').2 stops stops' tails
      exact ⟨rfl, rfl⟩

theorem numberBody_of_digit {first : Char} (digit : isDigit first = true) (text : List Char) :
    IsNumberBody (first :: (numberBody text).1) ∧
      ∀ c ∈ (first :: (numberBody text).1).getLast?, Stops (continues c) (numberBody text).2 := by
  refine numberBody_spec first text fun exponent => ?_
  simp only [isExponentLetter, Bool.or_eq_true, beq_iff_eq] at exponent
  rcases exponent with ((rfl | rfl) | rfl) | rfl <;> cases digit

theorem numberBody_append_end {first : Char} {body after : List Char} (digit : isDigit first = true)
    (inside : IsNumberBody (first :: body))
    (stops : ∀ c ∈ (first :: body).getLast?, Stops (continues c) after) :
    numberBody (body ++ after) = (body, after) := by
  obtain ⟨inside', stops'⟩ := numberBody_of_digit digit (body ++ after)
  obtain ⟨taken, left⟩ :=
    number_append_inj inside' inside stops' stops (numberBody_append (body ++ after))
  exact Prod.ext taken left

theorem scan?_quote {quote : Char} (isQuote : IsQuote quote) (rest : List Char) :
    scan? (quote :: rest) = (literalBody quote rest).map fun (body, after) =>
      (⟨.literal, quote :: body⟩, after) := by
  rcases isQuote with rfl | rfl <;> simp [scan?]

theorem scan?_digit {c : Char} (digit : isDigit c = true) (rest : List Char) :
    scan? (c :: rest) = some (⟨.number, c :: (numberBody rest).1⟩, (numberBody rest).2) := by
  have quote : ¬(c = '"' ∨ c = '\'') := by
    rintro (rfl | rfl) <;> cases digit
  rw [scan?]
  · rw [if_neg quote, if_pos digit]
  · rintro _ rfl; cases digit
  · rintro _ rfl; cases digit
  · rintro _ _ rfl; cases digit

theorem scan?_point {c : Char} (digit : isDigit c = true) (rest : List Char) :
    scan? ('.' :: c :: rest) =
      some (⟨.number, '.' :: c :: (numberBody rest).1⟩, (numberBody rest).2) := by
  rw [scan?, if_pos digit]

theorem scan?_letter {c : Char} (starts : startsIdentifier c = true) (rest : List Char) :
    scan? (c :: rest) =
      some (⟨.identifier, c :: rest.takeWhile isWordChar⟩, rest.dropWhile isWordChar) := by
  have quote : ¬(c = '"' ∨ c = '\'') := by
    rintro (rfl | rfl) <;> cases starts
  rw [scan?]
  · rw [if_neg quote, not_isDigit_of_startsIdentifier starts, if_neg Bool.false_ne_true,
      if_pos starts]
  · rintro _ rfl; cases starts
  · rintro _ rfl; cases starts
  · rintro _ _ rfl; cases starts

theorem formed_of_scan? {text after : List Char} {lexeme : Lexeme}
    (found : scan? text = some (lexeme, after)) :
    lexeme.kind ≠ .other ∧ lexeme.Formed ∧ lexeme.EndsBefore after := by
  fun_cases scan? text with
  | case1 rest =>
    rw [scan?] at found
    obtain ⟨⟨closed, tail⟩, taken, same⟩ := Option.map_eq_some_iff.1 found
    obtain ⟨rfl, rfl⟩ := Prod.mk.inj same
    obtain ⟨body, unclosed, rfl⟩ := commentBody_eq_some taken
    exact ⟨nofun, .block unclosed, fun line => by simp at line⟩
  | case2 rest =>
    rw [scan?] at found
    obtain ⟨rfl, rfl⟩ := Prod.mk.inj (Option.some.inj found)
    exact ⟨nofun, .line fun _ => List.mem_takeWhile_imp, fun _ => stops_dropWhile _ rest⟩
  | case3 c rest digit =>
    rw [scan?_point digit] at found
    obtain ⟨rfl, rfl⟩ := Prod.mk.inj (Option.some.inj found)
    obtain ⟨inside, stops⟩ := numberBody_of_digit digit rest
    refine ⟨nofun, .fraction digit inside, ?_⟩
    simpa only [Lexeme.EndsBefore, List.getLast?_cons_cons] using stops
  | case4 c rest notDigit =>
    rw [scan?, if_neg notDigit] at found
    cases found
  | case5 c rest _ _ _ isQuote =>
    rw [scan?_quote isQuote] at found
    obtain ⟨⟨closed, tail⟩, taken, same⟩ := Option.map_eq_some_iff.1 found
    obtain ⟨rfl, rfl⟩ := Prod.mk.inj same
    obtain ⟨body, inside, rfl⟩ := literalBody_eq_some taken
    exact ⟨nofun, .literal isQuote inside, trivial⟩
  | case6 c rest _ _ _ _ digit =>
    rw [scan?_digit digit] at found
    obtain ⟨rfl, rfl⟩ := Prod.mk.inj (Option.some.inj found)
    obtain ⟨inside, stops⟩ := numberBody_of_digit digit rest
    exact ⟨nofun, .number digit inside, stops⟩
  | case7 c rest _ _ _ _ _ starts =>
    rw [scan?_letter starts] at found
    obtain ⟨rfl, rfl⟩ := Prod.mk.inj (Option.some.inj found)
    exact ⟨nofun, .identifier starts fun _ => List.mem_takeWhile_imp, stops_dropWhile _ rest⟩
  | case8 c rest noBlock noLine noPoint notQuote notDigit notLetter =>
    rw [scan?.eq_4 _ _ noBlock noLine noPoint, if_neg notQuote, if_neg notDigit,
      if_neg notLetter] at found
    cases found
  | case9 => cases found

theorem scan?_of_formed {lexeme : Lexeme} {after : List Char} (formed : lexeme.Formed)
    (someKind : lexeme.kind ≠ .other) (ends : lexeme.EndsBefore after) :
    scan? (lexeme.text ++ after) = some (lexeme, after) := by
  cases formed with
  | @block body unclosed =>
    simp only [List.cons_append, List.append_assoc, List.nil_append]
    rw [scan?, commentBody_append_close unclosed, Option.map_some]
  | @line body inside =>
    obtain ⟨taken, left⟩ := span_append inside (ends ⟨body, rfl⟩)
    simp only [List.cons_append]
    rw [scan?, taken, left]
  | @literal quote body isQuote inside =>
    simp only [List.cons_append, List.append_assoc, List.nil_append]
    rw [scan?_quote isQuote, literalBody_append_close isQuote inside, Option.map_some]
  | @number first body digit inside =>
    simp only [List.cons_append]
    rw [scan?_digit digit, numberBody_append_end digit inside ends]
  | @fraction first body digit inside =>
    simp only [Lexeme.EndsBefore, List.getLast?_cons_cons] at ends
    simp only [List.cons_append]
    rw [scan?_point digit, numberBody_append_end digit inside ends]
  | @identifier first body starts inside =>
    obtain ⟨taken, left⟩ := span_append inside ends
    simp only [List.cons_append]
    rw [scan?_letter starts, taken, left]
  | other => exact absurd rfl someKind

theorem scan?_eq_some_iff {text after : List Char} {lexeme : Lexeme} :
    scan? text = some (lexeme, after) ↔ text = lexeme.text ++ after ∧ lexeme.kind ≠ .other ∧
      lexeme.Formed ∧ lexeme.EndsBefore after := by
  constructor
  · exact fun found => ⟨(scan?_append found).symm, formed_of_scan? found⟩
  · rintro ⟨rfl, someKind, formed, ends⟩
    exact scan?_of_formed formed someKind ends

theorem exists_scan?_of_begins {c : Char} {rest : List Char} (begins : Begins c rest) :
    ∃ found, scan? (c :: rest) = some found := by
  cases begins with
  | block body after =>
    obtain ⟨found, taken⟩ := exists_commentBody body after
    exact ⟨_, by rw [scan?, taken, Option.map_some]⟩
  | line after => exact ⟨_, rfl⟩
  | literal after isQuote inside =>
    exact ⟨_, by rw [scan?_quote isQuote, literalBody_append_close isQuote inside, Option.map_some]⟩
  | fraction after digit => exact ⟨_, scan?_point digit after⟩

theorem scan?_eq_none_iff {c : Char} {rest : List Char} :
    scan? (c :: rest) = none ↔
      Lexeme.Formed ⟨.other, [c]⟩ ∧ Lexeme.EndsBefore ⟨.other, [c]⟩ rest := by
  constructor
  · intro none
    refine ⟨.other ?_ ?_, fun d member begins => ?_⟩
    · refine Bool.eq_false_iff.mpr fun digit => ?_
      rw [scan?_digit digit] at none
      cases none
    · refine Bool.eq_false_iff.mpr fun starts => ?_
      rw [scan?_letter starts] at none
      cases none
    · obtain rfl : c = d := Option.some.inj member
      obtain ⟨found, taken⟩ := exists_scan?_of_begins begins
      rw [taken] at none
      cases none
  · rintro ⟨formed, ends⟩
    cases formed with
    | other notDigit notLetter =>
      refine Option.eq_none_iff_forall_ne_some.mpr fun ⟨lexeme, after⟩ found => ?_
      obtain ⟨same, someKind, formed, -⟩ := scan?_eq_some_iff.mp found
      have noBegin : ¬Begins c rest := ends c rfl
      cases formed with
      | @block body =>
        obtain ⟨rfl, rfl⟩ := List.cons.inj same
        exact noBegin (by simpa using Begins.block body after)
      | line =>
        obtain ⟨rfl, rfl⟩ := List.cons.inj same
        exact noBegin (.line _)
      | @literal quote body isQuote inside =>
        obtain ⟨rfl, rfl⟩ := List.cons.inj same
        exact noBegin (by simpa using Begins.literal after isQuote inside)
      | number digit =>
        obtain ⟨rfl, rfl⟩ := List.cons.inj same
        rw [digit] at notDigit
        cases notDigit
      | fraction digit =>
        obtain ⟨rfl, rfl⟩ := List.cons.inj same
        exact noBegin (.fraction _ digit)
      | identifier starts =>
        obtain ⟨rfl, rfl⟩ := List.cons.inj same
        rw [starts] at notLetter
        cases notLetter
      | other => exact absurd rfl someKind

theorem lexemes_of_scan? {text after : List Char} {lexeme : Lexeme}
    (found : scan? text = some (lexeme, after)) : lexemes text = lexeme :: lexemes after := by
  fun_cases lexemes text with
  | case1 => cases found
  | case2 c rest _ _ found' =>
    obtain ⟨rfl, rfl⟩ := Prod.mk.inj (Option.some.inj (found'.symm.trans found))
    rfl
  | case3 c rest none =>
    rw [none] at found
    cases found

theorem lexemes_of_scan?_none {c : Char} {rest : List Char} (none : scan? (c :: rest) = none) :
    lexemes (c :: rest) = ⟨.other, [c]⟩ :: lexemes rest := by
  rw [lexemes]
  split
  · rename_i found
    rw [none] at found
    cases found
  · rfl

def Separate : List Lexeme → Prop
  | [] => True
  | lexeme :: rest => lexeme.Formed ∧ lexeme.EndsBefore (rest.flatMap (·.text)) ∧ Separate rest

theorem separate_lexemes (text : List Char) : Separate (lexemes text) := by
  fun_induction lexemes text with
  | case1 => trivial
  | case2 c rest lexeme after found ih =>
    obtain ⟨-, -, formed, ends⟩ := scan?_eq_some_iff.mp found
    exact ⟨formed, by rwa [lexemes_flatten], ih⟩
  | case3 c rest none ih =>
    obtain ⟨formed, ends⟩ := scan?_eq_none_iff.mp none
    exact ⟨formed, by rwa [lexemes_flatten], ih⟩

theorem Separate.lexemes_eq {found : List Lexeme} (separate : Separate found) :
    lexemes (found.flatMap (·.text)) = found := by
  induction found with
  | nil => rw [List.flatMap_nil, lexemes]
  | cons lexeme rest ih =>
    obtain ⟨formed, ends, separate⟩ := separate
    rw [List.flatMap_cons]
    by_cases someKind : lexeme.kind = .other
    · cases formed with
      | @other c notDigit notLetter =>
        rw [List.singleton_append,
          lexemes_of_scan?_none (scan?_eq_none_iff.mpr ⟨.other notDigit notLetter, ends⟩),
          ih separate]
      | _ => cases someKind
    · rw [lexemes_of_scan? (scan?_of_formed formed someKind ends), ih separate]

/-- The lexemes of a text are its one division into formed lexemes that end where they have to. -/
theorem lexemes_eq_iff {text : List Char} {found : List Lexeme} :
    lexemes text = found ↔ found.flatMap (·.text) = text ∧ Separate found := by
  constructor
  · rintro rfl
    exact ⟨lexemes_flatten text, separate_lexemes text⟩
  · rintro ⟨rfl, separate⟩
    exact separate.lexemes_eq

end SourceSimilarity.Macro
