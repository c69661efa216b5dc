import MailScreen.Text.Integer

/-!
# Faults of patterns

Why a pattern is refused. Most problems have a place in the pattern, which the message gives as a
character offset, and by line and column too if the pattern has several lines. Four faults are not
about the form of the pattern and are told apart from the rest.
-/
namespace MailScreen.Pattern

/-- What is wrong with the form of a pattern. -/
inductive Problem where
  | escapeAtEnd
  | badEscape (escape : Text)
  | incompleteEscape (escape : Text)
  | octalTooLarge (escape : Text)
  | missing (what : String)
  | unterminatedName (terminator : Char)
  | unknownCharacterName (name : Text)
  | openGroup
  | groupOfSameLookbehind
  | invalidGroup (number : Nat)
  | badGroupNumber
  | badGroupName (name : Text)
  | unknownGroupName (name : Text)
  | redefinedGroup (name : Text) (number earlier : Nat)
  | unterminatedSet
  | badRange (first last : Text)
  | nothingToRepeat
  | multipleRepeat
  | leastAboveMost
  | unexpectedEnd
  | unknownExtension (text : Text)
  | unterminatedComment
  | unterminatedGroup
  | tooManyBranches
  | unbalancedParenthesis
  | lateOptions
  | localeOption
  | incompatibleOptions
  | unknownOption
  | missingOption
  | missingOptionEnd
  | missingColon
  | globalOptionOn
  | globalOptionOff
  | classOptionOff
  | optionOnAndOff
  | behindTooFar
  | behindNotFixed
  | templateRepeat (kind : String)
  deriving DecidableEq, Repr

/-- The wording of a problem. -/
def Problem.message : Problem → String
  | escapeAtEnd => "bad escape (end of pattern)"
  | badEscape escape => s!"bad escape {String.ofList escape}"
  | incompleteEscape escape => s!"incomplete escape {String.ofList escape}"
  | octalTooLarge escape =>
    s!"octal escape value {String.ofList escape} outside of range 0-0o377"
  | missing what => s!"missing {what}"
  | unterminatedName terminator => s!"missing {terminator}, unterminated name"
  | unknownCharacterName name =>
    s!"undefined character name {String.ofList (Text.quoted name)}"
  | openGroup => "cannot refer to an open group"
  | groupOfSameLookbehind => "cannot refer to group defined in the same lookbehind subpattern"
  | invalidGroup number => s!"invalid group reference {number}"
  | badGroupNumber => "bad group number"
  | badGroupName name => s!"bad character in group name {String.ofList (Text.quoted name)}"
  | unknownGroupName name => s!"unknown group name {String.ofList (Text.quoted name)}"
  | redefinedGroup name number earlier =>
    s!"redefinition of group name {String.ofList (Text.quoted name)} as group {number}; " ++
      s!"was group {earlier}"
  | unterminatedSet => "unterminated character set"
  | badRange first last =>
    s!"bad character range {String.ofList first}-{String.ofList last}"
  | nothingToRepeat => "nothing to repeat"
  | multipleRepeat => "multiple repeat"
  | leastAboveMost => "min repeat greater than max repeat"
  | unexpectedEnd => "unexpected end of pattern"
  | unknownExtension text => s!"unknown extension {String.ofList text}"
  | unterminatedComment => "missing ), unterminated comment"
  | unterminatedGroup => "missing ), unterminated subpattern"
  | tooManyBranches => "conditional backref with more than two branches"
  | unbalancedParenthesis => "unbalanced parenthesis"
  | lateOptions => "global flags not at the start of the expression"
  | localeOption => "bad inline flags: cannot use 'L' flag with a str pattern"
  | incompatibleOptions => "bad inline flags: flags 'a', 'u' and 'L' are incompatible"
  | unknownOption => "unknown flag"
  | missingOption => "missing flag"
  | missingOptionEnd => "missing -, : or )"
  | missingColon => "missing :"
  | globalOptionOn => "bad inline flags: cannot turn on global flag"
  | globalOptionOff => "bad inline flags: cannot turn off global flag"
  | classOptionOff => "bad inline flags: cannot turn off flags 'a', 'u' and 'L'"
  | optionOnAndOff => "bad inline flags: flag turned on and off"
  | behindTooFar => "looks too much behind"
  | behindNotFixed => "look-behind requires fixed-width pattern"
  | templateRepeat kind => s!"internal: unsupported template operator {kind}"

/-- Why a pattern is refused. -/
inductive Fault where
  /-- A problem with the form of the pattern, which may have a place. -/
  | malformed (problem : Problem) (place : Option Nat)
  /-- A number of repetitions that is too large. -/
  | hugeRepeat
  /-- A code point that does not fit into a machine word. -/
  | hugeCode
  /-- A number of too many digits. -/
  | number (fault : IntegerFault)
  /-- The classes are asked to be those of ASCII and those of Unicode. -/
  | conflictingClasses
  deriving DecidableEq, Repr

/-- The wording of a place in a pattern: its offset, and line and column if there are line feeds. -/
def placeMessage (pattern : Text) (place : Nat) : String :=
  if pattern.contains '\n' then
    let before := pattern.take place
    let line := before.count '\n' + 1
    let column := (before.reverse.takeWhile (· ≠ '\n')).length + 1
    s!" at position {place} (line {line}, column {column})"
  else s!" at position {place}"

/-- The wording of a fault of a pattern. -/
def Fault.message (pattern : Text) : Fault → String
  | malformed problem none => problem.message
  | malformed problem (some place) => problem.message ++ placeMessage pattern place
  | hugeRepeat => "the repetition number is too large"
  | hugeCode => "Python int too large to convert to C int"
  | number fault => fault.message
  | conflictingClasses => "ASCII and UNICODE flags are incompatible"

end MailScreen.Pattern
