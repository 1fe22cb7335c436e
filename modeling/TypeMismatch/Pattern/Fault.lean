import TypeMismatch.Text.Location
import TypeMismatch.Text.Quoted

/-!
# Faults of patterns

A pattern that cannot be read has a fault, most often at a place.  The message names the place, and
its line and column as well when the pattern has more than one line.
-/

namespace TypeMismatch.Pattern

/-- What can be wrong with a pattern. -/
inductive Fault where
  | unterminatedGroup
  | unbalancedParenthesis
  | nothingToRepeat
  | multipleRepeat
  | unterminatedSet
  | danglingBackslash
  | badEscape (text : String)
  | incompleteEscape (text : String)
  | octalOutOfRange (text : String)
  | missingBrace
  | undefinedCharacter (name : String)
  | badRange (low high : String)
  | repeatBounds
  | missing (what : String)
  | unterminatedName (terminator : Char)
  | badGroupName (name : String)
  | badGroupNumber
  | redefinedGroup (name : String) (new old : Nat)
  | unknownGroup (name : String)
  | invalidReference (n : Nat)
  | openReference
  | sameLookbehind
  | unexpectedEnd
  | unknownExtension (text : String)
  | unterminatedComment
  | threeBranches
  | lateGlobalFlags
  | localeFlag
  | alphabetConflict
  | unknownFlag
  | missingFlagEnd
  | missingFlag
  | missingColon
  | globalFlagOn
  | alphabetOff
  | globalFlagOff
  | flagOnAndOff
  | variableLookbehind
  | unsupportedLoop (name : String)
  deriving DecidableEq

/-- The words for a fault, without its place. -/
def Fault.message : Fault → String
  | .unterminatedGroup => "missing ), unterminated subpattern"
  | .unbalancedParenthesis => "unbalanced parenthesis"
  | .nothingToRepeat => "nothing to repeat"
  | .multipleRepeat => "multiple repeat"
  | .unterminatedSet => "unterminated character set"
  | .danglingBackslash => "bad escape (end of pattern)"
  | .badEscape text => s!"bad escape {text}"
  | .incompleteEscape text => s!"incomplete escape {text}"
  | .octalOutOfRange text => s!"octal escape value {text} outside of range 0-0o377"
  | .missingBrace => "missing \x7b"
  | .undefinedCharacter name => "undefined character name " ++ Text.quote name
  | .badRange low high => s!"bad character range {low}-{high}"
  | .repeatBounds => "min repeat greater than max repeat"
  | .missing what => s!"missing {what}"
  | .unterminatedName terminator => s!"missing {terminator}, unterminated name"
  | .badGroupName name => "bad character in group name " ++ Text.quote name
  | .badGroupNumber => "bad group number"
  | .redefinedGroup name new old =>
    "redefinition of group name " ++ Text.quote name ++ s!" as group {new}; was group {old}"
  | .unknownGroup name => "unknown group name " ++ Text.quote name
  | .invalidReference n => s!"invalid group reference {n}"
  | .openReference => "cannot refer to an open group"
  | .sameLookbehind => "cannot refer to group defined in the same lookbehind subpattern"
  | .unexpectedEnd => "unexpected end of pattern"
  | .unknownExtension text => s!"unknown extension ?{text}"
  | .unterminatedComment => "missing ), unterminated comment"
  | .threeBranches => "conditional backref with more than two branches"
  | .lateGlobalFlags => "global flags not at the start of the expression"
  | .localeFlag => "bad inline flags: cannot use 'L' flag with a str pattern"
  | .alphabetConflict => "bad inline flags: flags 'a', 'u' and 'L' are incompatible"
  | .unknownFlag => "unknown flag"
  | .missingFlagEnd => "missing -, : or )"
  | .missingFlag => "missing flag"
  | .missingColon => "missing :"
  | .globalFlagOn => "bad inline flags: cannot turn on global flag"
  | .alphabetOff => "bad inline flags: cannot turn off flags 'a', 'u' and 'L'"
  | .globalFlagOff => "bad inline flags: cannot turn off global flag"
  | .flagOnAndOff => "bad inline flags: flag turned on and off"
  | .variableLookbehind => "look-behind requires fixed-width pattern"
  | .unsupportedLoop name => s!"internal: unsupported template operator {name}"

/-- Why a text is no pattern.  Most causes are faults of the text; the others are limits: a number
of rounds that is too large, a numeral that is too long, parentheses that lie too deep in one
another, a look behind that goes too far, and two alphabets chosen for the whole pattern one after
the other. -/
inductive Refusal where
  | fault (cause : Fault) (position : Option Nat)
  | oversizedLoop
  | longNumeral
  | tooDeep
  | tooFarBehind
  | twoAlphabets
  deriving DecidableEq

def faultMessage (pattern : List Char) (cause : Fault) : Option Nat → String
  | none => cause.message
  | some position =>
    let there := s!"{cause.message} at position {position}"
    if pattern.contains '\n' then
      let place := Text.locate pattern position
      s!"{there} (line {place.line}, column {place.column})"
    else there

end TypeMismatch.Pattern
