import MailScreen.Attachment.Record
import MailScreen.Pattern.Compile

/-!
# Rules

An attachment rule is a list of clauses that one attachment has to satisfy together; a clause
compares one field of a record with a text or a pattern. A check rule looks at all attachments of a
message at once.
-/
namespace MailScreen

/-- The fields of a record that a clause can look at. -/
inductive Target where
  | name
  | extension
  | type
  | disposition
  | encoding
  | charset
  deriving DecidableEq, Repr

namespace Target

/-- The targets in the order in which they are listed to users. -/
def all : List Target := [name, extension, type, disposition, encoding, charset]

/-- The key of a target in a rule. -/
def key : Target → String
  | name => "name"
  | extension => "ext"
  | type => "type"
  | disposition => "disposition"
  | encoding => "encoding"
  | charset => "charset"

/-- The target that a key stands for. -/
def ofKey? (t : Text) : Option Target := all.find? fun target => target.key.toList == t

/-- The field of a record that a target names. -/
def valueIn (target : Target) (record : AttachmentRecord) : Text :=
  match target with
  | name => record.name
  | extension => record.extension
  | type => record.mimeType
  | disposition => record.disposition
  | encoding => record.encoding
  | charset => record.charset

theorem ofKey?_key (target : Target) : ofKey? target.key.toList = some target := by
  cases target <;> decide

end Target

/-- How a clause compares. -/
inductive Operator where
  /-- The field is the text. -/
  | equal
  /-- The field is not the text. -/
  | notEqual
  /-- The pattern occurs in the field. -/
  | matching
  /-- The pattern does not occur in the field. -/
  | notMatching
  /-- A comparison that cannot be made. -/
  | unsupported (symbol : Text)
  deriving DecidableEq, Repr

namespace Operator

/-- The symbol of an operator in a rule. -/
def symbol : Operator → Text
  | equal => "==".toList
  | notEqual => "!=".toList
  | matching => "=~".toList
  | notMatching => "!~".toList
  | unsupported symbol => symbol

/-- The operator of a symbol. -/
def ofSymbol (t : Text) : Operator :=
  if t = "==".toList then equal
  else if t = "!=".toList then notEqual
  else if t = "=~".toList then matching
  else if t = "!~".toList then notMatching
  else unsupported t

/-- Whether an operator takes a pattern. -/
def takesPattern : Operator → Bool
  | matching | notMatching => true
  | _ => false

end Operator

/-- What a field is compared with. -/
inductive Operand where
  /-- A text. -/
  | literal (text : Text)
  /-- A pattern. -/
  | pattern (compiled : CompiledPattern)
  deriving DecidableEq, Repr

/-- The text of an operand: that of a literal, or the body of a pattern. -/
def Operand.text : Operand → Text
  | .literal text => text
  | .pattern compiled => compiled.body

/-- A condition on one field of an attachment. -/
structure Clause where
  /-- The field. -/
  target : Target
  /-- The comparison. -/
  operator : Operator
  /-- What the field is compared with. -/
  operand : Operand
  /-- The clause as it was written. -/
  source : Text := []
  deriving DecidableEq, Repr

/-- A short form of a clause for logs. -/
def Clause.describe (clause : Clause) : String :=
  s!"{clause.target.key} {String.ofList clause.operator.symbol} {String.ofList clause.operand.text}"

/-- A named list of clauses, all of which one attachment has to satisfy. -/
structure AttachmentRule where
  /-- The name. -/
  name : Text
  /-- The clauses. -/
  clauses : List Clause
  deriving DecidableEq, Repr

/-- A question about all attachments of a message, asked by the name of a check. -/
structure Check where
  /-- The name of the check. -/
  name : Text
  /-- What it is asked with. -/
  arguments : List Int := []
  deriving DecidableEq, Repr

namespace Check

/-- The name of the check of a number. -/
def countName : String := "check_attachment_count"

/-- The name of the check for header errors. -/
def mimeErrorName : String := "check_attachment_mime_error"

/-- The question whether the number of attachments is in a range, the ends included. -/
def count (least most : Int) : Check := ⟨countName.toList, [least, most]⟩

/-- The question whether a header of any attachment could not be made sense of. -/
def mimeError : Check := ⟨mimeErrorName.toList, []⟩

end Check

/-- A named check. -/
structure CheckRule where
  /-- The name. -/
  name : Text
  /-- The check. -/
  check : Check
  deriving DecidableEq, Repr

end MailScreen
