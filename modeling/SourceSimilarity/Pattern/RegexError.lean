import SourceSimilarity.Text.Point
import SourceSimilarity.Text.Quoted

namespace SourceSimilarity.Pattern

inductive RepeatManner where
  | greedy
  | lazy
  | possessive
deriving DecidableEq, Repr

inductive NameKind where
  | group
  | character
deriving DecidableEq, Repr

def NameKind.text : NameKind → String
  | .group => "group name"
  | .character => "character name"

inductive RegexFault where
  | escapeAtEnd
  | badEscape (escape : List Text.Point)
  | incompleteEscape (escape : List Text.Point)
  | octalRange (escape : List Text.Point)
  | missingBrace
  | unknownCharacter (name : String)
  | unterminatedSet
  | badRange (first last : List Text.Point)
  | nothingToRepeat
  | multipleRepeat
  | repeatBounds
  | unterminatedGroup
  | unterminatedComment
  | unbalanced
  | unexpectedEnd
  | unknownExtension (extension : List Text.Point)
  | missingName (kind : NameKind)
  | unterminatedName (terminator : Char)
  | nameCharacter (name : String)
  | nameTaken (name : String) (group former : Nat)
  | unknownName (name : String)
  | badNumber
  | openReference
  | innerReference
  | invalidReference (group : Nat)
  | thirdBranch
  | lateFlags
  | unknownFlag
  | missingFlag
  | missingFlagEnd
  | missingColon
  | localeFlag
  | textFlagsClash
  | textFlagOff
  | wholeFlagOn
  | wholeFlagOff
  | flagOnAndOff
deriving DecidableEq, Repr

def RegexFault.text : RegexFault → String
  | .escapeAtEnd => "bad escape (end of pattern)"
  | .badEscape escape => "bad escape " ++ Text.ofPoints escape
  | .incompleteEscape escape => "incomplete escape " ++ Text.ofPoints escape
  | .octalRange escape =>
    "octal escape value " ++ Text.ofPoints escape ++ " outside of range 0-0o377"
  | .missingBrace => "missing \x7b"
  | .unknownCharacter name => "undefined character name " ++ Text.quoted name
  | .unterminatedSet => "unterminated character set"
  | .badRange first last =>
    "bad character range " ++ Text.ofPoints first ++ "-" ++ Text.ofPoints last
  | .nothingToRepeat => "nothing to repeat"
  | .multipleRepeat => "multiple repeat"
  | .repeatBounds => "min repeat greater than max repeat"
  | .unterminatedGroup => "missing ), unterminated subpattern"
  | .unterminatedComment => "missing ), unterminated comment"
  | .unbalanced => "unbalanced parenthesis"
  | .unexpectedEnd => "unexpected end of pattern"
  | .unknownExtension extension => "unknown extension ?" ++ Text.ofPoints extension
  | .missingName kind => "missing " ++ kind.text
  | .unterminatedName terminator => s!"missing {terminator}, unterminated name"
  | .nameCharacter name => "bad character in group name " ++ Text.quoted name
  | .nameTaken name group former =>
    s!"redefinition of group name {Text.quoted name} as group {group}; was group {former}"
  | .unknownName name => "unknown group name " ++ Text.quoted name
  | .badNumber => "bad group number"
  | .openReference => "cannot refer to an open group"
  | .innerReference => "cannot refer to group defined in the same lookbehind subpattern"
  | .invalidReference group => s!"invalid group reference {group}"
  | .thirdBranch => "conditional backref with more than two branches"
  | .lateFlags => "global flags not at the start of the expression"
  | .unknownFlag => "unknown flag"
  | .missingFlag => "missing flag"
  | .missingFlagEnd => "missing -, : or )"
  | .missingColon => "missing :"
  | .localeFlag => "bad inline flags: cannot use 'L' flag with a str pattern"
  | .textFlagsClash => "bad inline flags: flags 'a', 'u' and 'L' are incompatible"
  | .textFlagOff => "bad inline flags: cannot turn off flags 'a', 'u' and 'L'"
  | .wholeFlagOn => "bad inline flags: cannot turn on global flag"
  | .wholeFlagOff => "bad inline flags: cannot turn off global flag"
  | .flagOnAndOff => "bad inline flags: flag turned on and off"

inductive MeaningFault where
  | variableBehind
  | farBehind
  | repeatInTemplate (manner : RepeatManner)
deriving DecidableEq, Repr

def MeaningFault.text : MeaningFault → String
  | .variableBehind => "look-behind requires fixed-width pattern"
  | .farBehind => "looks too much behind"
  | .repeatInTemplate .greedy => "internal: unsupported template operator MAX_REPEAT"
  | .repeatInTemplate .lazy => "internal: unsupported template operator MIN_REPEAT"
  | .repeatInTemplate .possessive => "internal: unsupported template operator POSSESSIVE_REPEAT"

inductive RegexError where
  | malformed (fault : RegexFault) (position : Nat)
  | meaningless (fault : MeaningFault)
  | numberTooLarge
  | numberTooLong
  | optionsClash
  | tooDeep
deriving DecidableEq, Repr

def RegexError.message? (pattern : List Text.Point) : RegexError → Option String
  | .malformed fault position =>
    let before := pattern.take position
    let line := before.count (.char '\n') + 1
    let column := (before.reverse.takeWhile (· != .char '\n')).length + 1
    let place := s!"{fault.text} at position {position}"
    some (if pattern.contains (.char '\n') then s!"{place} (line {line}, column {column})" else place)
  | .meaningless fault => some fault.text
  | .numberTooLarge | .numberTooLong | .optionsClash | .tooDeep => none

end SourceSimilarity.Pattern
