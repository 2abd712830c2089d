import SourceSimilarity.Pattern.Mark
import SourceSimilarity.Text.Identifier

namespace SourceSimilarity.Pattern

inductive RegexOption where
  | ignoreCase
  | multiline
  | dotAll
  | verbose
  | ascii
  | unicode
  | template
deriving DecidableEq, Repr

namespace RegexOption

def ofLetter? : Char → Option RegexOption
  | 'i' => some .ignoreCase
  | 'm' => some .multiline
  | 's' => some .dotAll
  | 'x' => some .verbose
  | 'a' => some .ascii
  | 'u' => some .unicode
  | 't' => some .template
  | _ => none

def isTextOption (option : RegexOption) : Bool := option == .ascii || option == .unicode

/-- Options with some turned on and others off. One that tells which characters count as letters
replaces the other. -/
def changed (options on off : List RegexOption) : List RegexOption :=
  let kept := if on.any isTextOption then options.filter (!isTextOption ·) else options
  (kept ++ on).filter (!off.contains ·)

end RegexOption

inductive OptionScope where
  | whole (on : List RegexOption)
  | group (on off : List RegexOption)

/-- Whether a mark is a letter that starts a list of options. There is one letter without an option,
for an encoding that expressions do not have. -/
def isOptionLetter (c : Char) : Bool := (RegexOption.ofLetter? c).isSome || c == 'L'

/-- The fault of a mark that is no letter of an option: a letter is unknown, and of anything else it
is said what is missing. -/
def unknownOption (mark : Mark) (missing : RegexFault) : RegexFault :=
  match mark with
  | [.char c] => if Text.isLetter c then .unknownFlag else missing
  | _ => missing

def readOff (on : List RegexOption) (missing : RegexFault) (off : List RegexOption)
    (mark : Option Mark) (cursor : Cursor) : Nat → Except RegexError (OptionScope × Cursor)
  | 0 => .error .tooDeep
  | fuel + 1 =>
    match mark with
    | none => .error (cursor.fault missing 0)
    | some mark =>
      if mark = [.char ':'] ∧ off ≠ [] then
        if off.contains .template then .error (cursor.fault .wholeFlagOff 1)
        else if on.any off.contains then .error (cursor.fault .flagOnAndOff 1)
        else .ok (.group on off, cursor)
      else
        match mark with
        | ['L'] => .error (cursor.fault .textFlagOff 0)
        | [.char c] =>
          match RegexOption.ofLetter? c with
          | some option =>
            if option.isTextOption then .error (cursor.fault .textFlagOff 0)
            else do
              let (next, cursor) ← cursor.take
              readOff on .missingColon (off ++ [option]) next cursor fuel
          | none => .error (cursor.fault (unknownOption mark missing) 1)
        | _ => .error (cursor.fault missing mark.length)

/-- Reads options that are turned on, the first of which is the letter `c`, and those that are
turned off behind a hyphen. -/
def readOn (on : List RegexOption) (c : Char) (cursor : Cursor) :
    Nat → Except RegexError (OptionScope × Cursor)
  | 0 => .error .tooDeep
  | fuel + 1 =>
    match RegexOption.ofLetter? c with
    | none => .error (cursor.fault .localeFlag 0)
    | some option => do
      let on := on ++ [option]
      if on.contains .ascii && on.contains .unicode then
        throw (cursor.fault .textFlagsClash 0)
      let (mark, cursor) ← cursor.take
      let some mark := mark | throw (cursor.fault .missingFlagEnd 0)
      if mark = [.char ')'] then return (.whole on, cursor)
      if (mark = [.char ':'] ∨ mark = [.char '-']) ∧ on.contains .template then
        throw (cursor.fault .wholeFlagOn 1)
      match mark with
      | [':'] => pure (.group on [], cursor)
      | ['-'] =>
        let (mark, cursor) ← cursor.take
        readOff on .missingFlag [] mark cursor fuel
      | [.char c] =>
        if isOptionLetter c then readOn on c cursor fuel
        else throw (cursor.fault (unknownOption mark .missingFlagEnd) 1)
      | mark => throw (cursor.fault .missingFlagEnd mark.length)

end SourceSimilarity.Pattern
