import SourceSimilarity.Proofs.Json.Derivation
import Mathlib.Data.List.Infix
import Mathlib.Data.List.TakeWhile
import Mathlib.Tactic.SplitIfs

/-!
Where an object ends is told by brackets, quotes and backslashes alone. Reading an object from the
inside of a string of another one takes the quotes the other way round, so that a backslash comes to
stand outside of strings or the two do not end together: of two objects that reach up to the same
end, neither is longer.
-/

namespace SourceSimilarity.Json

/-! ## Brackets -/

/-- Where a character stands: outside of strings, in a string, or in one behind a backslash. -/
inductive Place where
  | between
  | quoted
  | escaped

/-- What stands behind the closing bracket of the container around a text. It is looked for from a
place inside so many more containers; no backslash may stand outside of strings. -/
def behind : Place → Nat → List Char → Option (List Char)
  | _, _, [] => none
  | .between, depth, c :: text =>
    if c = '"' then behind .quoted depth text
    else if c = '\\' then none
    else if c = '{' ∨ c = '[' then behind .between (depth + 1) text
    else if c = '}' ∨ c = ']' then
      if depth = 0 then some text else behind .between (depth - 1) text
    else behind .between depth text
  | .quoted, depth, c :: text =>
    if c = '"' then behind .between depth text
    else if c = '\\' then behind .escaped depth text
    else behind .quoted depth text
  | .escaped, depth, _ :: text => behind .quoted depth text

theorem behind_split {place : Place} {depth : Nat} {text rest : List Char}
    (found : behind place depth text = some rest) :
    ∃ front c, (c = '}' ∨ c = ']') ∧ text = front ++ c :: rest := by
  induction text generalizing place depth with
  | nil => cases place <;> cases found
  | cons c text ih =>
      have later : ∀ {place depth}, behind place depth text = some rest →
          ∃ front d, (d = '}' ∨ d = ']') ∧ c :: text = front ++ d :: rest := by
        intro place depth found
        obtain ⟨front, d, closing, rfl⟩ := ih found
        exact ⟨c :: front, d, closing, rfl⟩
      cases place with
      | escaped => exact later found
      | quoted =>
          rw [behind] at found
          split_ifs at found <;> exact later found
      | between =>
          rw [behind] at found
          split_ifs at found
          · exact later found
          · exact later found
          · rename_i closing _
            rw [← Option.some.inj found]
            exact ⟨[], c, closing, rfl⟩
          · exact later found
          · exact later found

/-- From further inside the same closing bracket is passed, and the search goes on behind it. -/
theorem behind_deeper {place : Place} {depth : Nat} {text rest : List Char}
    (found : behind place depth text = some rest) (more : Nat) :
    behind place (depth + more + 1) text = behind .between more rest := by
  induction text generalizing place depth with
  | nil => cases place <;> cases found
  | cons c text ih =>
      cases place with
      | escaped => exact ih found
      | quoted =>
          rw [behind] at found ⊢
          split_ifs at found ⊢ <;> exact ih found
      | between =>
          rw [behind] at found ⊢
          rw [if_neg (show depth + more + 1 ≠ 0 by omega), Nat.add_sub_cancel]
          split_ifs at found ⊢
          · exact ih found
          · rw [show depth + more + 1 + 1 = depth + 1 + more + 1 by omega]
            exact ih found
          · rename_i closing
            rw [Option.some.inj found, closing, Nat.zero_add]
          · rename_i inner
            rw [show depth + more = depth - 1 + more + 1 by omega]
            exact ih found
          · exact ih found

/-- A text cannot end with a closing bracket both when it is read from outside of strings and when
it is read from the inside of one. -/
theorem not_behind_both {text : List Char} {depth other : Nat}
    (outside : behind .between depth text = some []) (inside : behind .quoted other text = some []) :
    False := by
  induction text generalizing depth other with
  | nil => cases outside
  | cons c text ih =>
      rw [behind] at outside
      rw [behind] at inside
      by_cases quote : c = '"'
      · rw [if_pos quote] at outside inside
        exact ih inside outside
      · rw [if_neg quote] at outside inside
        by_cases backslash : c = '\\'
        · rw [if_pos backslash] at outside
          cases outside
        · rw [if_neg backslash] at outside inside
          split_ifs at outside
          · exact ih outside inside
          · rw [Option.some.inj outside] at inside
            cases inside
          · exact ih outside inside
          · exact ih outside inside

/-! ## Objects that end together -/

theorem not_inside {front text : List Char} {place : Place} {depth : Nat}
    (whole : behind place depth (front ++ '{' :: text) = some [])
    (own : behind .between 0 text = some []) : False := by
  induction front generalizing place depth with
  | nil =>
      rw [List.nil_append] at whole
      cases place with
      | between =>
          have deeper := behind_deeper own depth
          rw [Nat.zero_add] at deeper
          rw [behind, if_neg (by decide), if_neg (by decide), if_pos (by decide), deeper] at whole
          cases whole
      | quoted =>
          rw [behind, if_neg (by decide), if_neg (by decide)] at whole
          exact not_behind_both own whole
      | escaped => exact not_behind_both own whole
  | cons c front ih =>
      rw [List.cons_append] at whole
      cases place with
      | escaped => exact ih whole
      | quoted =>
          rw [behind] at whole
          split_ifs at whole <;> exact ih whole
      | between =>
          rw [behind] at whole
          split_ifs at whole
          · exact ih whole
          · exact ih whole
          · simp at whole
          · exact ih whole
          · exact ih whole

theorem eq_of_suffix {text other : List Char} (closed : behind .between 0 text = some [])
    (otherClosed : behind .between 0 other = some [])
    (together : '{' :: text <:+ '{' :: other) : '{' :: text = '{' :: other := by
  rcases List.suffix_cons_iff.mp together with same | ⟨front, rfl⟩
  · exact same
  · exact absurd otherClosed fun closed' => not_inside closed' closed

/-! ## Passing neutral text -/

/-- No bracket, quote or backslash outside of strings is left behind between two places of a text,
or only such as belong together. -/
def Passes (text rest : List Char) : Prop :=
  ∀ depth, behind .between depth text = behind .between depth rest

theorem Passes.refl (text : List Char) : Passes text text := fun _ => rfl

theorem Passes.trans {a b c : List Char} (first : Passes a b) (second : Passes b c) : Passes a c :=
  fun depth => (first depth).trans (second depth)

def isNeutral (c : Char) : Bool := !(['"', '\\', '{', '[', '}', ']'].contains c)

theorem passes_cons {c : Char} (neutral : isNeutral c = true) (text : List Char) :
    Passes (c :: text) text := by
  intro depth
  simp only [isNeutral, List.contains_cons, List.contains_nil, Bool.or_false, Bool.not_eq_true',
    Bool.or_eq_false_iff, beq_eq_false_iff_ne] at neutral
  obtain ⟨quote, backslash, brace, bracket, braceEnd, bracketEnd⟩ := neutral
  rw [behind, if_neg quote, if_neg backslash, if_neg (not_or.mpr ⟨brace, bracket⟩),
    if_neg (not_or.mpr ⟨braceEnd, bracketEnd⟩)]

theorem passes_dropWhile {p : Char → Bool} (neutral : ∀ c, p c = true → isNeutral c = true)
    (text : List Char) : Passes text (text.dropWhile p) := by
  induction text with
  | nil => exact .refl []
  | cons c text ih =>
      rw [List.dropWhile_cons]
      split
      · exact (passes_cons (neutral c ‹_›) text).trans ih
      · exact .refl _

theorem isNeutral_of_isDigit {c : Char} (digit : c.isDigit = true) : isNeutral c = true := by
  by_contra mark
  simp only [isNeutral, List.contains_cons, List.contains_nil, Bool.or_false, Bool.not_eq_true,
    Bool.not_eq_false', Bool.or_eq_true, beq_iff_eq] at mark
  rcases mark with rfl | rfl | rfl | rfl | rfl | rfl <;> cases digit

theorem passes_skip (text : List Char) : Passes text (skip text) := by
  refine passes_dropWhile (fun c blank => ?_) text
  simp only [Bool.or_eq_true, beq_iff_eq] at blank
  rcases blank with ((rfl | rfl) | rfl) | rfl <;> rfl

theorem passes_takeDigits (text : List Char) : Passes text (takeDigits text).2 :=
  passes_dropWhile (fun _ => isNeutral_of_isDigit) text

theorem passes_takeFraction (text : List Char) : Passes text (takeFraction text).2 := by
  unfold takeFraction
  split
  · rename_i rest
    split
    · exact .refl _
    · exact (passes_cons rfl rest).trans (passes_takeDigits rest)
  · exact .refl text

theorem passes_takeExponent {text rest : List Char} {exponent : Int}
    (taken : takeExponent text = some (exponent, rest)) : Passes text rest := by
  have afterSign : ∀ {sign : Int} {digits : List Char},
      (if (takeDigits digits).1.isEmpty then none
        else some (sign * digitsValue (takeDigits digits).1, (takeDigits digits).2)) =
          some (exponent, rest) → Passes digits rest := by
    intro sign digits taken
    split_ifs at taken
    obtain ⟨-, rfl⟩ := Prod.mk.inj (Option.some.inj taken)
    exact passes_takeDigits digits
  unfold takeExponent at taken
  split at taken
  case h_3 => cases taken
  all_goals
    refine (passes_cons rfl _).trans ?_
    dsimp only at taken
    split at taken
    · exact (passes_cons rfl _).trans (afterSign taken)
    · exact (passes_cons rfl _).trans (afterSign taken)
    · exact afterSign taken

theorem passes_takeSign (text : List Char) : Passes text (takeSign text).2 := by
  unfold takeSign
  split
  · exact passes_cons rfl _
  · exact .refl text

theorem passes_takeWhole (text : List Char) : Passes text (takeWhole text).2 := by
  unfold takeWhole
  split
  · exact passes_cons rfl _
  · exact passes_takeDigits text

theorem passes_withExponent {negative : Bool} {whole fraction text rest : List Char} {v : Value}
    (found : withExponent negative whole fraction text = .ok (v, rest)) : Passes text rest := by
  unfold withExponent at found
  split at found
  · rename_i exponent after taken
    obtain ⟨-, rfl⟩ := Prod.mk.inj (Except.ok.inj found)
    exact passes_takeExponent taken
  · split_ifs at found <;> obtain ⟨-, rfl⟩ := Prod.mk.inj (Except.ok.inj found) <;> exact .refl text

theorem passes_number {text rest : List Char} {v : Value} (found : number text = .ok (v, rest)) :
    Passes text rest := by
  rw [number_eq] at found
  split_ifs at found
  exact (passes_takeSign text).trans ((passes_takeWhole _).trans
    ((passes_takeFraction _).trans (passes_withExponent found)))

/-! ## Strings -/

theorem behind_quoted_cons {c : Char} (neutral : isNeutral c = true) (depth : Nat)
    (text : List Char) : behind .quoted depth (c :: text) = behind .quoted depth text := by
  have differs : c ≠ '"' ∧ c ≠ '\\' := by
    constructor <;> rintro rfl <;> cases neutral
  rw [behind, if_neg differs.1, if_neg differs.2]

theorem isNeutral_of_hexValue? {c : Char} {n : Nat} (known : Text.hexValue? c = some n) :
    isNeutral c = true := by
  by_contra mark
  simp only [isNeutral, List.contains_cons, List.contains_nil, Bool.or_false, Bool.not_eq_true,
    Bool.not_eq_false', Bool.or_eq_true, beq_iff_eq] at mark
  rcases mark with rfl | rfl | rfl | rfl | rfl | rfl <;> cases known

theorem behind_unitEscape {a b c d : Char} {n : Nat} (known : hexFour? a b c d = some n)
    (depth : Nat) (text : List Char) :
    behind .quoted depth ('\\' :: 'u' :: a :: b :: c :: d :: text) =
      behind .quoted depth text := by
  simp only [hexFour?, Option.bind_eq_bind, Option.bind_eq_some_iff] at known
  obtain ⟨_, first, _, second, _, third, _, fourth, -⟩ := known
  rw [behind, if_neg (by decide), if_pos rfl, behind,
    behind_quoted_cons (isNeutral_of_hexValue? first),
    behind_quoted_cons (isNeutral_of_hexValue? second),
    behind_quoted_cons (isNeutral_of_hexValue? third),
    behind_quoted_cons (isNeutral_of_hexValue? fourth)]

theorem behind_of_stringBody {opening text rest : List Char} {read s : List Text.Point}
    (found : stringBody opening read text = .ok (s, rest)) (depth : Nat) :
    behind .quoted depth text = behind .between depth rest := by
  fun_induction stringBody opening read text with
  | case1 | case3 | case4 | case9 | case10 | case12 | case13 => cases found
  | case2 read text =>
      obtain ⟨-, rfl⟩ := Prod.mk.inj (Except.ok.inj found)
      rw [behind, if_pos rfl]
  | case5 _ _ _ _ _ _ high _ _ _ _ _ _ _ _ low _ ih =>
      rw [behind_unitEscape high, behind_unitEscape low]
      exact ih found
  | case6 _ _ _ _ _ _ high _ _ _ _ _ _ _ _ _ _ ih
  | case7 _ _ _ _ _ _ high _ _ _ _ ih
  | case8 _ _ _ _ _ _ _ _ high _ ih =>
      rw [behind_unitEscape high]
      exact ih found
  | case11 _ c _ _ _ _ _ ih =>
      rw [behind, if_neg (by decide), if_pos rfl, behind]
      exact ih found
  | case14 _ c text notQuote _ _ last notEscape _ ih =>
      have notBackslash : c ≠ '\\' := by
        intro same
        cases text with
        | nil => exact last same rfl
        | cons d text => exact notEscape d text same rfl
      rw [behind, if_neg notQuote, if_neg notBackslash]
      exact ih found

/-! ## Values end where their brackets say -/

theorem passes_of_closed {c : Char} (opening : c = '{' ∨ c = '[') {text rest : List Char}
    (closed : behind .between 0 text = some rest) : Passes (c :: text) rest := by
  intro depth
  have notQuote : c ≠ '"' := by rcases opening with rfl | rfl <;> decide
  have notBackslash : c ≠ '\\' := by rcases opening with rfl | rfl <;> decide
  have deeper := behind_deeper closed depth
  rw [Nat.zero_add] at deeper
  rw [behind, if_neg notQuote, if_neg notBackslash, if_pos opening, deeper]

theorem closed_here {c : Char} (closing : c = '}' ∨ c = ']') (text : List Char) :
    behind .between 0 (c :: text) = some text := by
  rcases closing with rfl | rfl <;>
    rw [behind, if_neg (by decide), if_neg (by decide), if_neg (by decide), if_pos (by decide),
      if_pos rfl]

theorem closed_behind_blanks {c : Char} (closing : c = '}' ∨ c = ']') {text rest : List Char}
    (here : skip text = c :: rest) : behind .between 0 text = some rest := by
  rw [passes_skip text 0, here]
  exact closed_here closing rest

/-- A mark is passed with the blanks around it. -/
theorem passes_mark {c : Char} (neutral : isNeutral c = true) {text rest : List Char}
    (here : skip text = c :: rest) : Passes text (skip rest) := by
  have blanks := passes_skip text
  rw [here] at blanks
  exact blanks.trans ((passes_cons neutral rest).trans (passes_skip rest))

theorem passes_string {opening text rest : List Char} {read s : List Text.Point}
    (found : stringBody opening read text = .ok (s, rest)) : Passes ('"' :: text) rest := by
  intro depth
  rw [behind, if_pos rfl]
  exact behind_of_stringBody found depth

theorem passes_neutral {word : List Char} (neutral : ∀ c ∈ word, isNeutral c = true)
    (text : List Char) : Passes (word ++ text) text := by
  induction word with
  | nil => exact .refl text
  | cons c word ih =>
      exact (passes_cons (neutral c List.mem_cons_self) _).trans
        (ih fun d member => neutral d (List.mem_cons_of_mem c member))

theorem isNeutral_of_constant {word : List Char} {v : Value} (known : (word, v) ∈ constants) :
    ∀ c ∈ word, isNeutral c = true := by
  have all : constants.all (fun constant => constant.1.all isNeutral) = true := rfl
  exact List.all_eq_true.mp (List.all_eq_true.mp all (word, v) known)

mutual

theorem BeginsWith.passes {room : Nat} {text rest : List Char} {v : Value} :
    BeginsWith room text v rest → Passes text rest
  | .string found => passes_string found
  | .constant known => passes_neutral (isNeutral_of_constant known) rest
  | .number found => passes_number found
  | .emptyArray here => passes_of_closed (.inr rfl) (closed_behind_blanks (.inr rfl) here)
  | .array items => passes_of_closed (.inr rfl) ((passes_skip _ 0).trans items.closed)
  | .emptyObject here => passes_of_closed (.inl rfl) (closed_behind_blanks (.inl rfl) here)
  | .object fields => passes_of_closed (.inl rfl) ((passes_skip _ 0).trans fields.closed)

theorem BeginsWithItems.closed {room : Nat} {text rest : List Char} {items : List Value} :
    BeginsWithItems room text items rest → behind .between 0 text = some rest
  | .last item here => (item.passes 0).trans (closed_behind_blanks (.inr rfl) here)
  | .next item comma items =>
    ((item.passes.trans (passes_mark (by decide) comma)) 0).trans items.closed

theorem BeginsWithFields.closed {room : Nat} {text rest : List Char}
    {fields : List (String × Value)} :
    BeginsWithFields room text fields rest → behind .between 0 text = some rest
  | .last named colon item here =>
    have name := (passes_string named).trans (passes_mark (by decide) colon)
    ((name.trans item.passes) 0).trans (closed_behind_blanks (.inl rfl) here)
  | .next named colon item comma fields =>
    have name := (passes_string named).trans (passes_mark (by decide) colon)
    ((name.trans (item.passes.trans (passes_mark (by decide) comma))) 0).trans fields.closed

end

/-- An object that is read ends where its brackets say. -/
theorem closed_of_object {fuel room : Nat} {text rest : List Char}
    {fields : List (String × Value)} (found : value fuel room text = .ok (.object fields, rest)) :
    ∃ inner, text = '{' :: inner ∧ behind .between 0 inner = some rest := by
  cases beginsWith_of_value found with
  | constant known => simp [constants] at known
  | number found =>
      obtain ⟨n, isNumber⟩ := number_kind found
      cases isNumber
  | emptyObject here => exact ⟨_, rfl, closed_behind_blanks (.inl rfl) here⟩
  | object fields => exact ⟨_, rfl, (passes_skip _ 0).trans fields.closed⟩

/-! ## Documents that end alike -/

theorem object_of_document {room : Nat} {text : List Char} {fields : List (String × Value)}
    (found : document room text = .ok (.object fields)) :
    ∃ inner rest, skip text = '{' :: inner ∧ behind .between 0 inner = some rest ∧
      skip rest = [] := by
  unfold document at found
  split_ifs at found
  split at found
  · cases found
  · rename_i v rest read
    split_ifs at found with finished
    rw [Except.ok.inj found] at read
    obtain ⟨inner, here, closed⟩ := closed_of_object read
    exact ⟨inner, rest, here, closed, List.isEmpty_iff.mp finished⟩

theorem getLast?_of_suffix {short long : List Char} (suffix : short <:+ long) (notEmpty : short ≠ []) :
    long.getLast? = short.getLast? := by
  obtain ⟨front, rfl⟩ := suffix
  exact List.getLast?_append_of_ne_nil front notEmpty

/-- A document that is an object and ends like another object is this object, but for blanks in
front of it. -/
theorem skip_eq_of_document {room : Nat} {text object : List Char}
    {fields : List (String × Value)} (found : document room text = .ok (.object fields))
    (closed : behind .between 0 object = some [])
    (together : text <:+ '{' :: object ∨ '{' :: object <:+ text) : skip text = '{' :: object := by
  obtain ⟨inner, rest, here, closedHere, blank⟩ := object_of_document found
  have within : '{' :: inner <:+ text := here ▸ List.dropWhile_suffix _
  have together : '{' :: inner <:+ '{' :: object ∨ '{' :: object <:+ '{' :: inner := by
    rcases together with shorter | longer
    · exact .inl (within.trans shorter)
    · exact List.suffix_or_suffix_of_suffix within longer
  have last : ('{' :: inner).getLast? = ('{' :: object).getLast? := by
    rcases together with shorter | longer
    · exact (getLast?_of_suffix shorter (List.cons_ne_nil _ _)).symm
    · exact getLast?_of_suffix longer (List.cons_ne_nil _ _)
  -- Nothing is left behind the object: it would be blank up to the end, where a bracket stands.
  have nothing : rest = [] := by
    obtain ⟨front, c, closing, rfl⟩ := behind_split closed
    obtain ⟨front', d, -, rfl⟩ := behind_split closedHere
    rcases List.eq_nil_or_concat rest with nothing | ⟨blanks, b, rfl⟩
    · exact nothing
    · have isBlank := List.dropWhile_eq_nil_iff.mp blank b (by simp)
      have same : b = c := by simpa [List.getLast?_cons, List.getLast?_append] using last
      rw [same] at isBlank
      rcases closing with rfl | rfl <;> cases isBlank
  rw [nothing] at closedHere
  rw [here]
  rcases together with shorter | longer
  · exact eq_of_suffix closedHere closed shorter
  · exact (eq_of_suffix closed closedHere longer).symm

end SourceSimilarity.Json
