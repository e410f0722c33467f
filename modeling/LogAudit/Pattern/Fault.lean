import LogAudit.Text.Quoted

/-! # Faults of patterns

What can be wrong with the text of a pattern, and the words in which it is told. Most faults have a
position; in a pattern of several lines the line and the column follow it. -/

namespace LogAudit.Pattern
set_option autoImplicit false

/-- A fault in the text of a pattern. -/
inductive Fault
  | danglingBackslash
  | missing (what : String)
  | unterminatedName (terminator : Char)
  | badGroupName (name : String)
  | unknownGroupName (name : String)
  | redefinedGroup (name : String) (index earlier : Nat)
  | badGroupNumber
  | invalidGroupReference (index : Nat)
  | openGroup
  | sameLookbehind
  | incompleteEscape (escape : String)
  | badEscape (escape : String)
  | undefinedCharacterName (name : String)
  | octalOutOfRange (escape : String)
  | unterminatedSet
  | badRange (low high : String)
  | leastAboveMost
  | nothingToRepeat
  | multipleRepeat
  | unexpectedEnd
  | unknownExtension (extension : String)
  | unterminatedComment
  | unterminatedGroup
  | tooManyBranches
  | unbalancedParenthesis
  | lateGlobalFlags
  | localeFlag
  | incompatibleFlags
  | unknownFlag
  | globalFlagOn
  | globalFlagOff
  | alphabetFlagOff
  | flagOnAndOff
  | variableLookbehind
  | farLookbehind
  | templateRepeat (operator : String)
deriving Repr, DecidableEq

namespace Fault

/-- The words for a fault. -/
def describe : Fault → String
  | danglingBackslash => "bad escape (end of pattern)"
  | missing what => "missing " ++ what
  | unterminatedName terminator => "missing " ++ terminator.toString ++ ", unterminated name"
  | badGroupName name => "bad character in group name " ++ Text.quoted name
  | unknownGroupName name => "unknown group name " ++ Text.quoted name
  | redefinedGroup name index earlier =>
    "redefinition of group name " ++ Text.quoted name ++ " as group " ++ toString index ++
      "; was group " ++ toString earlier
  | badGroupNumber => "bad group number"
  | invalidGroupReference index => "invalid group reference " ++ toString index
  | openGroup => "cannot refer to an open group"
  | sameLookbehind => "cannot refer to group defined in the same lookbehind subpattern"
  | incompleteEscape escape => "incomplete escape " ++ escape
  | badEscape escape => "bad escape " ++ escape
  | undefinedCharacterName name => "undefined character name " ++ Text.quoted name
  | octalOutOfRange escape => "octal escape value " ++ escape ++ " outside of range 0-0o377"
  | unterminatedSet => "unterminated character set"
  | badRange low high => "bad character range " ++ low ++ "-" ++ high
  | leastAboveMost => "min repeat greater than max repeat"
  | nothingToRepeat => "nothing to repeat"
  | multipleRepeat => "multiple repeat"
  | unexpectedEnd => "unexpected end of pattern"
  | unknownExtension extension => "unknown extension ?" ++ extension
  | unterminatedComment => "missing ), unterminated comment"
  | unterminatedGroup => "missing ), unterminated subpattern"
  | tooManyBranches => "conditional backref with more than two branches"
  | unbalancedParenthesis => "unbalanced parenthesis"
  | lateGlobalFlags => "global flags not at the start of the expression"
  | localeFlag => "bad inline flags: cannot use 'L' flag with a str pattern"
  | incompatibleFlags => "bad inline flags: flags 'a', 'u' and 'L' are incompatible"
  | unknownFlag => "unknown flag"
  | globalFlagOn => "bad inline flags: cannot turn on global flag"
  | globalFlagOff => "bad inline flags: cannot turn off global flag"
  | alphabetFlagOff => "bad inline flags: cannot turn off flags 'a', 'u' and 'L'"
  | flagOnAndOff => "bad inline flags: flag turned on and off"
  | variableLookbehind => "look-behind requires fixed-width pattern"
  | farLookbehind => "looks too much behind"
  | templateRepeat operator => "internal: unsupported template operator " ++ operator

end Fault

/-- Why a pattern cannot be used. -/
inductive Failure
  | malformed (fault : Fault) (position : Option Nat)
  | countTooLarge
  | conflictingAlphabets
  | tooDeep
deriving Repr, DecidableEq

/-- The line, from one, and the column, from one, of an offset in a text. -/
def lineAndColumn (text : List Char) (offset : Nat) : Nat × Nat :=
  let before := text.take offset
  (before.count '\n' + 1, (before.reverse.takeWhile (· != '\n')).length + 1)

/-- The words for a fault at a place of a pattern. -/
def faultMessage (pattern : String) (fault : Fault) : Option Nat → String
  | none => fault.describe
  | some position =>
    let place := fault.describe ++ " at position " ++ toString position
    if pattern.toList.contains '\n' then
      let (line, column) := lineAndColumn pattern.toList position
      place ++ " (line " ++ toString line ++ ", column " ++ toString column ++ ")"
    else place

end LogAudit.Pattern
