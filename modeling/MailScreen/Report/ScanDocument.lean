import MailScreen.Report.Json
import MailScreen.Scan.Scanner

/-!
# Scan documents

The JSON document of a run: what was found in each message, or why it cannot be dealt with, and the
rules that were refused.
-/
namespace MailScreen

/-- A list of texts. -/
def JsonValue.ofTexts (texts : List Text) : JsonValue := .array (texts.map .string)

/-- The document of an attachment record. -/
def AttachmentRecord.toJson (record : AttachmentRecord) : JsonValue :=
  .ofMembers [
    ("name", .string record.name),
    ("ext", .string record.extension),
    ("type", .string record.mimeType),
    ("effective_type", .string record.effectiveType),
    ("charset", .string record.charset),
    ("disposition", .string record.disposition),
    ("encoding", .string record.encoding),
    ("mime_errors", .integer record.mimeErrors),
    ("part_index", .integer record.partIndex)]

/-- The document of advice. -/
def Advice.toJson (advice : Advice) : JsonValue :=
  .ofMembers [
    ("common_causes", .array (advice.causes.map .ofString)),
    ("solutions", .array (advice.solutions.map .ofString))]

/-- The document of a failure report. -/
def FailureReport.toJson (report : FailureReport) : JsonValue :=
  .ofMembers [
    ("success", .bool false),
    ("status", .ofString "failed"),
    ("source", .string report.source),
    ("error", .ofMembers [
      ("code", .string report.kind.code),
      ("message", .string report.message),
      ("details", .string report.details)]),
    ("troubleshooting", report.kind.advice.toJson)]

namespace ScanReport

/-- The tags of a report. -/
def tags (settings : Settings) (report : ScanReport) : List (String × Text) :=
  report.attachments.tally.tags settings

/-- The members that name the format of a message. -/
def formatMembers (report : ScanReport) : List (String × JsonValue) :=
  match report.format with
  | none => []
  | some (format, confidence) =>
    [("detected_format", .ofString format.name), ("format_confidence", .tenths confidence)]

/-- The document of a scan report. -/
def toJson (settings : Settings) (report : ScanReport) : JsonValue :=
  .ofMembers ([("status", .ofString "success")] ++ report.formatMembers ++ [
    ("attachments", .array (report.attachments.records.map AttachmentRecord.toJson)),
    ("tags", .ofMembers ((report.tags settings).map fun (name, value) => (name, .string value))),
    ("rule_hits", .ofTexts report.hits),
    ("rule_results", .object (report.results.map fun (name, held) => (name, .bool held))),
    ("mime_error", .bool report.mimeError)])

end ScanReport

/-- The document of an outcome. -/
def ScanOutcome.toJson (settings : Settings) : ScanOutcome → JsonValue
  | found report => report.toJson settings
  | failed report => report.toJson

/-- The document of a run: the outcomes by path and the reports on refused rules. -/
def runDocument (settings : Settings) (results : Table ScanOutcome)
    (ruleErrors : List FailureReport) : JsonValue :=
  .ofMembers [
    ("results", .object (results.map fun (path, outcome) => (path, outcome.toJson settings))),
    ("rule_errors", .array (ruleErrors.map FailureReport.toJson))]

end MailScreen
