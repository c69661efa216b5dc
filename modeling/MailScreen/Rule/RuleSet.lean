import MailScreen.Rule.Basic
import MailScreen.Table

/-!
# Rule sets

The rules that lines of text define, with a record of the lines that were refused. A name belongs to
one rule: a new definition takes the name from an old one, of whichever kind, and its place is at
the end.
-/
namespace MailScreen

/-- A line that was refused. -/
structure Rejection where
  /-- The name of the rule. -/
  name : Text
  /-- The number of the line, from 1. -/
  line : Nat
  /-- Why it was refused. -/
  reason : String
  deriving DecidableEq, Repr

/-- Rules by name. -/
structure RuleSet where
  /-- The attachment rules. -/
  attachmentRules : Table AttachmentRule := []
  /-- The check rules. -/
  checkRules : Table CheckRule := []
  /-- The lines that were refused. -/
  rejections : List Rejection := []
  deriving DecidableEq, Repr

namespace RuleSet

/-- The names of the attachment rules and after them those of the check rules. -/
def names (set : RuleSet) : List Text := set.attachmentRules.names ++ set.checkRules.names

/-- The number of rules. -/
def size (set : RuleSet) : Nat := set.attachmentRules.length + set.checkRules.length

/-- Whether a name is taken. -/
def has (set : RuleSet) (name : Text) : Bool :=
  set.attachmentRules.has name || set.checkRules.has name

/-- A rule set without a name. -/
def release (set : RuleSet) (name : Text) : RuleSet :=
  { set with
    attachmentRules := set.attachmentRules.erase name
    checkRules := set.checkRules.erase name }

/-- A rule set with an attachment rule defined. -/
def define (set : RuleSet) (rule : AttachmentRule) : RuleSet :=
  let free := set.release rule.name
  { free with attachmentRules := free.attachmentRules.insert rule.name rule }

/-- A rule set with a check rule defined. -/
def defineCheck (set : RuleSet) (rule : CheckRule) : RuleSet :=
  let free := set.release rule.name
  { free with checkRules := free.checkRules.insert rule.name rule }

/-- A rule set with a refused line on record. -/
def reject (set : RuleSet) (rejection : Rejection) : RuleSet :=
  { set with rejections := set.rejections ++ [rejection] }

end RuleSet
end MailScreen
