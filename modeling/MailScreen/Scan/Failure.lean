import MailScreen.Noted
import MailScreen.Text.Basic

/-!
# Failure reports

What is reported when a message or a rule cannot be dealt with: what kind of failure it is, what it
is about, and what may be done. Advice depends on the kind only.
-/
namespace MailScreen

/-- A kind of failure. -/
inductive FailureKind where
  /-- A message cannot be read. -/
  | parsing
  /-- A rule is malformed. -/
  | ruleSyntax
  /-- A message is too large. -/
  | tooLarge
  /-- The format of a message is not supported. -/
  | unsupportedFormat
  /-- Something went wrong that was not to be expected. -/
  | internal
  /-- A kind that is not known here. -/
  | other (code : Text)
  deriving DecidableEq, Repr

/-- Advice on a kind of failure. -/
structure Advice where
  /-- What the cause may be. -/
  causes : List String
  /-- What may be done about it. -/
  solutions : List String
  deriving DecidableEq, Repr

namespace FailureKind

/-- The code of a kind. -/
def code : FailureKind → Text
  | parsing => "PARSING_ERROR".toList
  | ruleSyntax => "RULE_SYNTAX_ERROR".toList
  | tooLarge => "FILE_TOO_LARGE".toList
  | unsupportedFormat => "UNSUPPORTED_FORMAT".toList
  | internal => "INTERNAL_ERROR".toList
  | other code => code

/-- The kind of a code. -/
def ofCode (code : Text) : FailureKind :=
  ([parsing, ruleSyntax, tooLarge, unsupportedFormat, internal].find? fun kind =>
    kind.code == code).getD (other code)

/-- The advice on a kind. -/
def advice : FailureKind → Advice
  | parsing => {
      causes := ["Corrupted email file", "Unsupported email format",
        "Outlook .msg file without extract_msg installed"]
      solutions := ["Verify the email file is not corrupted",
        "Ensure the email is in a supported format (.eml, .msg)",
        "Install extract-msg for .msg support"] }
  | ruleSyntax => {
      causes := ["Unknown key (valid keys: name, ext, type, disposition, encoding, charset)",
        "Invalid regular expression", "No 'key op value' clause in the definition"]
      solutions := ["Write clauses as: key ==|!=|=~|!~ value",
        "Delimit regular expressions with slashes, e.g. /\\.exe$/i",
        "Quote literal values that contain spaces"] }
  | tooLarge => {
      causes := ["Email file exceeds size limit", "Large attachments in email"]
      solutions := ["Raise AD_MAX_FILE_SIZE_MB", "Scan a smaller message"] }
  | unsupportedFormat => {
      causes := ["Email format not recognized", "Incorrect file extension"]
      solutions := ["Ensure email is in .eml or .msg format",
        "Check file extension matches content"] }
  | internal => {
      causes := ["Unexpected system error", "Code bug or edge case"]
      solutions := ["Run again with --log-level DEBUG",
        "Report the message that triggered the error"] }
  | other _ => { causes := ["Unknown error"], solutions := ["Contact support for assistance"] }

end FailureKind

/-- The report of a failure. -/
structure FailureReport where
  /-- The kind of failure. -/
  kind : FailureKind
  /-- What went wrong, in general. -/
  message : Text
  /-- What went wrong, in particular. -/
  details : Text
  /-- What it is about. -/
  source : Text
  deriving DecidableEq, Repr

namespace FailureReport

/-- A failure report as a log shows it. -/
def logLine (report : FailureReport) : String :=
  s!"{String.ofList report.source} error [{String.ofList report.kind.code}]: " ++
    s!"{String.ofList report.message} - {String.ofList report.details}"

/-- Notes a failure report and returns it. -/
def noted {ε : Type} (severity : Severity) (report : FailureReport) : Noted ε FailureReport := do
  Noted.note severity report.logLine
  return report

/-- Reports a message that cannot be read. -/
def parsing {ε : Type} (details source : Text) : Noted ε FailureReport :=
  noted .error ⟨.parsing, "Failed to parse email content".toList, details, source⟩

/-- Reports a rule that was refused. -/
def ruleSyntax {ε : Type} (rule reason source : Text) : Noted ε FailureReport :=
  noted .error
    ⟨.ruleSyntax, "Attachment rule ".toList ++ rule ++ " was rejected".toList, reason, source⟩

/-- Reports a message that is too large. -/
def tooLarge {ε : Type} (size most : Int) (source : Text) : Noted ε FailureReport :=
  noted .warning ⟨.tooLarge, "Email file exceeds size limit".toList,
    s!"File size: {size} bytes, Maximum allowed: {most} bytes".toList, source⟩

/-- Reports a message in a format that is not supported. -/
def unsupportedFormat {ε : Type} (details source : Text) : Noted ε FailureReport :=
  noted .warning ⟨.unsupportedFormat, "Email format is not supported".toList, details, source⟩

/-- Reports what was not to be expected. -/
def internal {ε : Type} (details source : Text) : Noted ε FailureReport :=
  noted .error ⟨.internal, "An unexpected error occurred during processing".toList,
    "Internal error: ".toList ++ details, source⟩

end FailureReport
end MailScreen
