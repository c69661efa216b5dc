import MailScreen.Noted
import MailScreen.Rule.RuleSet

/-!
# What rules say about attachments

An attachment rule holds if one attachment satisfies all its clauses. Attachments are tried in
order, and the clauses of a rule in order until one fails, so that a clause that cannot be evaluated
counts only if evaluation gets to it.
-/
namespace MailScreen

/-- Why a rule cannot be evaluated. -/
inductive EvaluationFault where
  /-- A clause has an operator that is not supported. -/
  | unsupportedOperator (symbol : Text)
  /-- A check is not known. -/
  | unknownCheck (name : Text)
  /-- A clause looks for a text as if it were a pattern. -/
  | notPattern (text : Text)
  /-- The check of a number is not asked with two arguments. -/
  | argumentCount (number : Nat)
  deriving DecidableEq, Repr

/-- The wording of an evaluation fault. -/
def EvaluationFault.message : EvaluationFault → String
  | unsupportedOperator symbol => s!"unsupported operator {String.ofList symbol}"
  | unknownCheck name => s!"unknown check {String.ofList name}"
  | notPattern _ => "'str' object has no attribute 'search'"
  | argumentCount 0 => Check.countName ++
    "() missing 2 required positional arguments: 'min_count' and 'max_count'"
  | argumentCount 1 => Check.countName ++
    "() missing 1 required positional argument: 'max_count'"
  | argumentCount number => Check.countName ++
    s!"() takes 3 positional arguments but {number + 1} were given"

/-- Whether a rule with such a fault is passed over. The other faults end the evaluation. -/
def EvaluationFault.isExpected : EvaluationFault → Bool
  | unsupportedOperator _ | unknownCheck _ => true
  | notPattern _ | argumentCount _ => false

/-- Whether an operand occurs in a value as a pattern. -/
def Operand.occursIn (operand : Operand) (value : Text) : Except EvaluationFault Bool :=
  match operand with
  | .pattern compiled => .ok (compiled.occursIn value)
  | .literal text => .error (.notPattern text)

/-- Whether an operand is a value as a text. -/
def Operand.isText (operand : Operand) (value : Text) : Bool :=
  match operand with
  | .literal text => value == text
  | .pattern _ => false

/-- Whether a value satisfies a clause. -/
def Clause.holdsOf (clause : Clause) (value : Text) : Except EvaluationFault Bool :=
  match clause.operator with
  | .equal => .ok (clause.operand.isText value)
  | .notEqual => .ok (!clause.operand.isText value)
  | .matching => clause.operand.occursIn value
  | .notMatching => (clause.operand.occursIn value).map (!·)
  | .unsupported symbol => .error (.unsupportedOperator symbol)

namespace AttachmentRule

/-- Whether a record satisfies clauses. -/
def clausesHold (record : AttachmentRecord) : List Clause → Noted EvaluationFault Bool
  | [] => pure true
  | clause :: rest => do
    let value := clause.target.valueIn record
    if ← Noted.ofExcept (clause.holdsOf value) then
      Noted.debug s!"{clause.target.key} matched: '{String.ofList value}' {clause.describe}"
      clausesHold record rest
    else return false

/-- Whether one of the records satisfies all clauses of a rule. -/
def holdsOfSome (rule : AttachmentRule) : List AttachmentRecord → Noted EvaluationFault Bool
  | [] => pure false
  | record :: rest => do
    if ← clausesHold record rule.clauses then
      Noted.debug (s!"Criteria for {String.ofList rule.name} met by attachment " ++
        s!"'{String.ofList record.name}'")
      return true
    else holdsOfSome rule rest

/-- Whether an attachment rule holds. -/
def evaluate (rule : AttachmentRule) (records : List AttachmentRecord) :
    Noted EvaluationFault Bool := do
  Noted.debug s!"Running attachment rule {String.ofList rule.name}"
  holdsOfSome rule records

end AttachmentRule

namespace Check

/-- Whether a number of records is in a range. -/
def countHolds (least most : Int) (records : List AttachmentRecord) : Bool :=
  least ≤ records.length && records.length ≤ most

/-- Whether a header of any record could not be made sense of. -/
def mimeErrorHolds (records : List AttachmentRecord) : Bool := records.any fun r => r.mimeErrors > 0

/-- Whether a check holds. -/
def evaluate (check : Check) (records : List AttachmentRecord) : Except EvaluationFault Bool :=
  if check.name = countName.toList then
    match check.arguments with
    | [least, most] => .ok (countHolds least most records)
    | arguments => .error (.argumentCount arguments.length)
  else if check.name = mimeErrorName.toList then .ok (mimeErrorHolds records)
  else .error (.unknownCheck check.name)

end Check

namespace RuleSet

/-- A rule that cannot be evaluated does not hold. -/
def heldOrNoted (name : Text) (x : Noted EvaluationFault Bool) : Noted EvaluationFault Bool := do
  match ← x.attempt with
  | .ok held => return held
  | .error fault =>
    if fault.isExpected then
      Noted.error s!"Attachment rule {String.ofList name} failed: {fault.message}"
      return false
    else Noted.fail fault

/-- Evaluates the rules of a set in order: by name whether each holds. -/
def evaluate (set : RuleSet) (records : List AttachmentRecord) :
    Noted EvaluationFault (Table Bool) := do
  let results ← set.attachmentRules.foldlM
    (fun (results : Table Bool) (name, rule) => do
      let held ← heldOrNoted name (rule.evaluate records)
      return results.insert name held) []
  set.checkRules.foldlM
    (fun (results : Table Bool) (name, rule) => do
      let held ← heldOrNoted name (Noted.ofExcept (rule.check.evaluate records))
      return results.insert name held) results

end RuleSet
end MailScreen
