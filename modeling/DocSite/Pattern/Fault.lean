import DocSite.Text.Quoted
import DocSite.Text.Reference

/-! What can be wrong with the text of a pattern. Most faults are shown at a position;
some are found only when the whole pattern is known and have none. -/

namespace DocSite.Pattern

inductive FlagFault
  | locale
  | kindsOfText
  | turnedOn
  | turnedOff
  | kindTurnedOff
  | onAndOff
deriving DecidableEq, Repr

def FlagFault.message : FlagFault → String
  | .locale => "cannot use 'L' flag with a str pattern"
  | .kindsOfText => "flags 'a', 'u' and 'L' are incompatible"
  | .turnedOn => "cannot turn on global flag"
  | .turnedOff => "cannot turn off global flag"
  | .kindTurnedOff => "cannot turn off flags 'a', 'u' and 'L'"
  | .onAndOff => "flag turned on and off"

inductive Fault
  | unclosedGroup
  | unopenedGroup
  | unclosedSet
  | unclosedComment
  | nothingToRepeat
  | repeatedRepeat
  | boundsCrossed
  | endInEscape
  | endInGroup
  | badEscape (shown : String)
  | incompleteEscape (shown : String)
  | largeOctal (shown : String)
  | badRange (low high : String)
  | unknownGroup (shown : String)
  | missing (what : String)
  | undefinedCharacter (name : String)
  | badGroupName (name : String)
  | unknownGroupName (name : String)
  | repeatedGroupName (name : String) (number earlier : Nat)
  | badGroupNumber
  | missingGroup (number : Nat)
  | openGroup
  | groupInSameBehind
  | thirdBranch
  | lateFlags
  | unknownFlag
  | badFlags (fault : FlagFault)
  | variableBehind
  | farBehind
  | noRepeatInTemplate (operator : String)
deriving DecidableEq, Repr

def Fault.message : Fault → String
  | .unclosedGroup => "missing ), unterminated subpattern"
  | .unopenedGroup => "unbalanced parenthesis"
  | .unclosedSet => "unterminated character set"
  | .unclosedComment => "missing ), unterminated comment"
  | .nothingToRepeat => "nothing to repeat"
  | .repeatedRepeat => "multiple repeat"
  | .boundsCrossed => "min repeat greater than max repeat"
  | .endInEscape => "bad escape (end of pattern)"
  | .endInGroup => "unexpected end of pattern"
  | .badEscape shown => "bad escape " ++ shown
  | .incompleteEscape shown => "incomplete escape " ++ shown
  | .largeOctal shown => "octal escape value " ++ shown ++ " outside of range 0-0o377"
  | .badRange low high => "bad character range " ++ low ++ "-" ++ high
  | .unknownGroup shown => "unknown extension ?" ++ shown
  | .missing what => "missing " ++ what
  | .undefinedCharacter name => "undefined character name " ++ Text.quoted name
  | .badGroupName name => "bad character in group name " ++ Text.quoted name
  | .unknownGroupName name => "unknown group name " ++ Text.quoted name
  | .repeatedGroupName name number earlier =>
    "redefinition of group name " ++ Text.quoted name ++ " as group " ++ toString number ++
      "; was group " ++ toString earlier
  | .badGroupNumber => "bad group number"
  | .missingGroup number => "invalid group reference " ++ toString number
  | .openGroup => "cannot refer to an open group"
  | .groupInSameBehind => "cannot refer to group defined in the same lookbehind subpattern"
  | .thirdBranch => "conditional backref with more than two branches"
  | .lateFlags => "global flags not at the start of the expression"
  | .unknownFlag => "unknown flag"
  | .badFlags fault => "bad inline flags: " ++ fault.message
  | .variableBehind => "look-behind requires fixed-width pattern"
  | .farBehind => "looks too much behind"
  | .noRepeatInTemplate operator => "internal: unsupported template operator " ++ operator

/-- Why reading a pattern ended: a fault, shown at a position or not; flags of the whole
pattern that exclude each other; a number with too many digits; or a number that is
larger than any number of rounds or any code. -/
inductive Failure
  | located (fault : Fault) (position : Nat)
  | whole (fault : Fault)
  | flagsExclude
  | digits (excess : Text.DigitExcess)
  | tooLarge
deriving DecidableEq, Repr

/-- The wording of a position in a text. In a text of many lines it tells line and column. -/
def positionMessage (text : List Char) (position : Nat) : String :=
  let plain := " at position " ++ toString position
  if text.contains '\n' then
    let before := text.take position
    let column := (before.reverse.takeWhile (· != '\n')).length + 1
    plain ++ " (line " ++ toString (before.count '\n' + 1) ++ ", column " ++ toString column ++ ")"
  else plain

/-- The wording of a failure in a text. -/
def Failure.message (text : List Char) : Failure → String
  | .located fault position =>
    "invalid regular expression: " ++ fault.message ++ positionMessage text position
  | .whole fault => "invalid regular expression: " ++ fault.message
  | .flagsExclude => "ASCII and UNICODE flags are incompatible"
  | .digits excess => excess.message
  | .tooLarge => "a number in the pattern is too large"

end DocSite.Pattern
