import MailScreen.Pattern.Fault
import MailScreen.Text.Basic

/-!
# Errors in rules

A malformed rule is reported with its name and, where that helps, the piece of the definition that
is wrong. Two things end the reading of rules altogether: a pattern with a number that does not fit,
and a line that holds another line.
-/
namespace MailScreen

/-- What is wrong with a rule. -/
inductive RuleProblem where
  /-- The definition holds no clause. -/
  | noClause
  /-- The definition holds text that belongs to no clause. -/
  | unrecognized
  /-- A clause is about a key that does not exist. -/
  | unknownKey (key : Text)
  /-- A pattern is asked for and the value is not one. -/
  | noDelimiters
  /-- The pattern is malformed. -/
  | badPattern (message : String)
  /-- The name or the definition is missing. -/
  | incomplete
  /-- The check of a number does not have two arguments. -/
  | countArguments
  /-- The check for header errors has arguments. -/
  | mimeErrorArguments
  /-- An argument is not an integer. -/
  | notInteger (argument : Text)
  deriving DecidableEq, Repr

/-- The wording of a problem. -/
def RuleProblem.message : RuleProblem → String
  | noClause => "no valid 'key op value' clause"
  | unrecognized => "unrecognized text in rule definition"
  | unknownKey key => s!"unknown key '{String.ofList key}'"
  | noDelimiters => "missing regular expression delimiters"
  | badPattern message => s!"invalid regular expression: {message}"
  | incomplete => "missing rule name or definition"
  | countArguments => "check_attachment_count takes (min, max)"
  | mimeErrorArguments => "check_attachment_mime_error takes no arguments"
  | notInteger argument => s!"argument '{String.ofList argument}' is not an integer"

/-- A malformed rule. -/
structure RuleError where
  /-- What is wrong. -/
  problem : RuleProblem
  /-- The name of the rule. -/
  rule : Text
  /-- The piece of text that is wrong, if it can be told. -/
  fragment : Option Text
  deriving DecidableEq, Repr

/-- The wording of a rule error. -/
def RuleError.message (error : RuleError) : String :=
  let text := s!"rule {String.ofList error.rule}: {error.problem.message}"
  match error.fragment with
  | none | some [] => text
  | some fragment => text ++ s!" (near '{String.ofList fragment}')"

/-- Why the reading of rules ends early. -/
inductive RuleFault where
  /-- A rule is malformed. -/
  | malformed (error : RuleError)
  /-- A pattern cannot be compiled for a reason that is not its form. -/
  | pattern (body : Text) (fault : Pattern.Fault)
  /-- The value of a line goes on after a line feed. -/
  | brokenLine
  deriving DecidableEq, Repr

/-- The wording of a rule fault. -/
def RuleFault.message : RuleFault → String
  | malformed error => error.message
  | pattern body fault => fault.message body
  | brokenLine => "'NoneType' object has no attribute 'group'"

end MailScreen
