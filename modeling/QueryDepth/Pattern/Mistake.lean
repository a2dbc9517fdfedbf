import QueryDepth.Text.Quoted

/-! What can be wrong with the text of a pattern. A mistake is shown with the place where it was
found. Some texts are refused for other reasons than a mistake, and those refusals name no place.
-/
namespace QueryDepth.Pattern

/-- What is wrong with the text of a pattern. -/
inductive Problem where
  | danglingBackslash
  | badEscape (escape : String)
  | incompleteEscape (escape : String)
  | octalTooLarge (escape : String)
  | missingBrace
  | undefinedCharacterName (name : String)
  | openGroup
  | groupOfSameLookbehind
  | invalidReference (index : Nat)
  | unterminatedClass
  | badRange (first last : String)
  | leastAboveMost
  | nothingToRepeat
  | multipleRepeat
  | unexpectedEnd
  | missing (what : String)
  | unterminatedName (terminator : Char)
  | badGroupName (name : String)
  | unknownGroupName (name : String)
  | redefinedGroup (name : String) (index earlier : Nat)
  | badGroupNumber
  | unknownExtension (extension : String)
  | unterminatedComment
  | unterminatedGroup
  | unbalanced
  | tooManyBranches
  | lateGlobalFlags
  | localeFlag
  | incompatibleFlags
  | unknownFlag
  | missingFlag
  | missingAfterFlag
  | missingColon
  | globalFlagOn
  | globalFlagOff
  | typeFlagOff
  | flagOnAndOff
  | tooFarBehind
  | variableLookbehind
  | templateRepetition (kind : String)
  deriving DecidableEq, Repr

def Problem.text : Problem → String
  | danglingBackslash => "bad escape (end of pattern)"
  | badEscape escape => s!"bad escape {escape}"
  | incompleteEscape escape => s!"incomplete escape {escape}"
  | octalTooLarge escape => s!"octal escape value {escape} outside of range 0-0o377"
  | missingBrace => "missing \x7b"
  | undefinedCharacterName name => s!"undefined character name {quoted name}"
  | openGroup => "cannot refer to an open group"
  | groupOfSameLookbehind =>
    "cannot refer to group defined in the same lookbehind subpattern"
  | invalidReference index => s!"invalid group reference {index}"
  | unterminatedClass => "unterminated character set"
  | badRange first last => s!"bad character range {first}-{last}"
  | leastAboveMost => "min repeat greater than max repeat"
  | nothingToRepeat => "nothing to repeat"
  | multipleRepeat => "multiple repeat"
  | unexpectedEnd => "unexpected end of pattern"
  | missing what => s!"missing {what}"
  | unterminatedName terminator => s!"missing {terminator}, unterminated name"
  | badGroupName name => s!"bad character in group name {quoted name}"
  | unknownGroupName name => s!"unknown group name {quoted name}"
  | redefinedGroup name index earlier =>
    s!"redefinition of group name {quoted name} as group {index}; was group {earlier}"
  | badGroupNumber => "bad group number"
  | unknownExtension extension => s!"unknown extension {extension}"
  | unterminatedComment => "missing ), unterminated comment"
  | unterminatedGroup => "missing ), unterminated subpattern"
  | unbalanced => "unbalanced parenthesis"
  | tooManyBranches => "conditional backref with more than two branches"
  | lateGlobalFlags => "global flags not at the start of the expression"
  | localeFlag => "bad inline flags: cannot use 'L' flag with a str pattern"
  | incompatibleFlags => "bad inline flags: flags 'a', 'u' and 'L' are incompatible"
  | unknownFlag => "unknown flag"
  | missingFlag => "missing flag"
  | missingAfterFlag => "missing -, : or )"
  | missingColon => "missing :"
  | globalFlagOn => "bad inline flags: cannot turn on global flag"
  | globalFlagOff => "bad inline flags: cannot turn off global flag"
  | typeFlagOff => "bad inline flags: cannot turn off flags 'a', 'u' and 'L'"
  | flagOnAndOff => "bad inline flags: flag turned on and off"
  | tooFarBehind => "looks too much behind"
  | variableLookbehind => "look-behind requires fixed-width pattern"
  | templateRepetition kind => s!"internal: unsupported template operator {kind}"

/-- A problem and the number of characters in front of it, where it has a place. -/
structure Mistake where
  problem : Problem
  position : Option Nat
  deriving DecidableEq, Repr

namespace Mistake

/-- A place in a pattern as it is shown: its position, and its line and column if the pattern has
several lines. -/
def place (pattern : List Char) (position : Nat) : String :=
  let before := pattern.take position
  let line := before.count '\n' + 1
  let column := (before.reverse.takeWhile (· != '\n')).length + 1
  if pattern.contains '\n' then s!" at position {position} (line {line}, column {column})"
  else s!" at position {position}"

def message (mistake : Mistake) (pattern : String) : String :=
  match mistake.position with
  | some position => mistake.problem.text ++ place pattern.toList position
  | none => mistake.problem.text

end Mistake

/-- What goes beyond the bounds of patterns in a text that is otherwise in order. -/
inductive Excess where
  /-- A number of repetitions is written with too many digits. -/
  | tooManyDigits (count : Nat)
  /-- A number of repetitions is too large. -/
  | tooManyRepetitions
  /-- The whole pattern is to be read both as ASCII and as Unicode. -/
  | conflictingFlags
  deriving DecidableEq, Repr

def Excess.message : Excess → String
  | tooManyDigits count =>
    "Exceeds the limit (4300 digits) for integer string conversion: " ++
      s!"value has {count} digits; use sys.set_int_max_str_digits() to increase the limit"
  | tooManyRepetitions => "the repetition number is too large"
  | conflictingFlags => "ASCII and UNICODE flags are incompatible"

/-- Why a pattern cannot be used. -/
inductive Refusal where
  | mistaken (mistake : Mistake)
  | excessive (excess : Excess)
  deriving DecidableEq, Repr

end QueryDepth.Pattern
