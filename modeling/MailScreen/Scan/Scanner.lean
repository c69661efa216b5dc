import MailScreen.Attachment.Extraction
import MailScreen.Message.Reader
import MailScreen.Rule.Evaluation
import MailScreen.Scan.Failure

/-!
# Scanning messages

A scanner finds the attachments of a message and says which rules hold. A message that cannot be
read gives a failure report instead; a charset or a number that cannot be used in a header ends the
scan.
-/
namespace MailScreen

/-- What a scan found. -/
structure ScanReport where
  /-- The attachments. -/
  attachments : Attachments
  /-- By name whether each rule holds. -/
  results : Table Bool
  /-- The format that the message is in, if it had to be made out. -/
  format : Option (MailFormat × Confidence) := none
  deriving DecidableEq, Repr

namespace ScanReport

/-- The rules that hold, in order. -/
def hits (report : ScanReport) : List Text :=
  report.results.filterMap fun (name, held) => if held then some name else none

/-- Whether a header of any attachment could not be made sense of. -/
def mimeError (report : ScanReport) : Bool := Check.mimeErrorHolds report.attachments.records

end ScanReport

/-- The outcome of a scan. -/
inductive ScanOutcome where
  /-- What was found. -/
  | found (report : ScanReport)
  /-- Why the message cannot be dealt with. -/
  | failed (report : FailureReport)
  deriving DecidableEq, Repr

/-- Why a scan ends without an outcome. -/
inductive ScanFault where
  /-- A header cannot be read. -/
  | header (fault : Header.HeaderFault)
  /-- A rule cannot be evaluated. -/
  | evaluation (fault : EvaluationFault)
  deriving DecidableEq, Repr

/-- The wording of a scan fault. -/
def ScanFault.message : ScanFault → String
  | header fault => fault.message
  | evaluation fault => fault.message

/-- A scanner of messages. -/
structure Scanner where
  /-- The rules. -/
  rules : RuleSet := {}
  /-- The formats that are tried, in order. -/
  formats : List MailFormat := [.msg, .eml]
  /-- What reads Outlook messages, if anything does. -/
  outlook : Option OutlookReader := none

namespace Scanner

/-- A scanner with rules. If there are no rules, nothing is kept of the lines that were refused. -/
def ofRules (rules : RuleSet) (outlook : Option OutlookReader) : Scanner where
  rules := if rules.size = 0 then {} else rules
  outlook := outlook

/-- Scans parts of a message. -/
def scanParts (scanner : Scanner) (settings : Settings) (parts : List Part) :
    Noted ScanFault ScanReport := do
  let extraction ← Extraction.ofParts settings {} parts
  match extraction.fault with
  | some fault => Noted.fail (.header fault)
  | none =>
    let found := extraction.found
    let results ← (scanner.rules.evaluate found.records).mapFailure .evaluation
    let report : ScanReport := { attachments := found, results := results }
    if !report.hits.isEmpty then
      let listed := List.intercalate ", ".toList report.hits
      Noted.info s!"Attachment rules hit: {String.ofList listed}"
    return report

/-- What a message is called that has no file name. -/
def unnamed : Text := "<message>".toList

/-- What a report on a message says that it is about. -/
def sourceOf (fileName : Option Text) : Text := (OutlookMessage.nonempty? fileName).getD unnamed

section

variable {φ κ : Type}

/-- Scans a message with a reader that is sure of it. -/
def scanBy (scanner : Scanner) (settings : Settings) (reader : MessageReader φ κ ScanFault)
    (confidence : κ) (data : Octets) (fileName : Option Text) :
    Noted ScanFault (Except FailureReport (ScanReport × φ × κ)) := do
  match ← reader.read data fileName with
  | none =>
    let report ← FailureReport.parsing
      s!"{reader.name} failed to extract message".toList (sourceOf fileName)
    return .error report
  | some parts =>
    let report ← scanner.scanParts settings parts
    return .ok (report, reader.format, confidence)

/-- Scans a message with the surest of some readers. -/
def scanAmong [OfNat κ 0] [LT κ] [DecidableLT κ] (scanner : Scanner) (settings : Settings)
    (readers : List (MessageReader φ κ ScanFault)) (data : Octets) (fileName : Option Text) :
    Noted ScanFault (Except FailureReport (ScanReport × φ × κ)) :=
  let source := sourceOf fileName
  let most := settings.maxFileSizeMb * 1024 * 1024
  if (data.length : Int) > most then .error <$> FailureReport.tooLarge data.length most source
  else
    match MessageReader.surest readers data fileName with
    | none =>
      .error <$> FailureReport.unsupportedFormat "No suitable parser found".toList source
    | some (reader, confidence) =>
      if reader.readsOutlook && scanner.outlook.isNone then
        .error <$>
          FailureReport.unsupportedFormat "MSG support requires extract_msg".toList source
      else scanner.scanBy settings reader confidence data fileName

end

/-- The readers of the formats that a scanner tries. -/
def readers (scanner : Scanner) : List (MessageReader MailFormat Confidence ScanFault) :=
  scanner.formats.map (MessageReader.ofFormat scanner.outlook)

/-- Scans a message. -/
def scan (scanner : Scanner) (settings : Settings) (data : Octets) (fileName : Option Text) :
    Noted ScanFault ScanOutcome := do
  match ← scanner.scanAmong settings scanner.readers data fileName with
  | .error report => return .failed report
  | .ok (report, format, confidence) =>
    return .found { report with format := some (format, confidence) }

end Scanner
end MailScreen
