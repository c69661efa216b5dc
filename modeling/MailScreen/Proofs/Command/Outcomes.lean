import MailScreen.Command.Run
import MailScreen.Proofs.FirstFailure
import MailScreen.Proofs.Table

/-!
# What a run comes to

A run goes through its files with one scanner and writes what each comes to under its path. No file
ends it: one that cannot be read, or whose scan ends in a fault, comes to a report of this
(`Scanner.scanFile_result`). A scanner keeps nothing of what it has scanned, so what a file comes to
is settled by the file alone (`Scanner.outcomeOf`), and what a run comes to is told without any
failure in it: **it reports the outcomes of its files and the lines that the scanner has on record
as refused** (`ScanRequest.run_eq_report`).
-/
namespace MailScreen

namespace Scanner

/-- The outcome of a file whose scan did not end well. -/
def internalFailure (details : Text) (path : Path) : ScanOutcome :=
  .failed
    { kind := .internal
      message := "An unexpected error occurred during processing".toList
      details := "Internal error: ".toList ++ details
      source := path.text }

/-- What a file comes to. -/
def outcomeOf (scanner : Scanner) (settings : Settings) (files : FileAccess) (path : Path) :
    ScanOutcome :=
  match files.read path with
  | .error fault => internalFailure fault.message path
  | .ok data =>
    match (scanner.scan settings data (some path.name)).result with
    | .ok outcome => outcome
    | .error fault => internalFailure fault.message.toList path

/-- What files come to, each under its path. -/
def outcomes (scanner : Scanner) (settings : Settings) (files : FileAccess) (paths : List Path) :
    List (Text × ScanOutcome) :=
  paths.map fun path => (path.text, scanner.outcomeOf settings files path)

variable {scanner : Scanner} {settings : Settings} {files : FileAccess} {path : Path}

theorem outcomeOf_of_unread {fault : FileFault} (h : files.read path = .error fault) :
    scanner.outcomeOf settings files path = internalFailure fault.message path := by
  rw [outcomeOf, h]

theorem outcomeOf_of_raised {data : Octets} {fault : ScanFault} (hd : files.read path = .ok data)
    (h : (scanner.scan settings data (some path.name)).result = .error fault) :
    scanner.outcomeOf settings files path = internalFailure fault.message.toList path := by
  simp only [outcomeOf, hd, h]

/-- **A file comes to its outcome**, whatever is wrong with it. -/
theorem scanFile_result {ε : Type} (scanner : Scanner) (settings : Settings) (files : FileAccess)
    (path : Path) :
    (scanner.scanFile settings files path : Noted ε _).result =
      .ok (scanner.outcomeOf settings files path) := by
  unfold scanFile outcomeOf
  cases files.read path with
  | error fault => rfl
  | ok data =>
    simp only [Noted.result_bind, Noted.result_attempt]
    cases (scanner.scan settings data (some path.name)).result with
    | error fault => rfl
    | ok outcome => rfl

/-- Files come to their outcomes, written in order. -/
theorem scanFiles_result {ε : Type} (scanner : Scanner) (settings : Settings) (files : FileAccess)
    (results : Table ScanOutcome) (paths : List Path) :
    (scanner.scanFiles settings files results paths : Noted ε _).result =
      .ok (results.insertAll (scanner.outcomes settings files paths)) := by
  induction paths generalizing results with
  | nil => rfl
  | cons path rest ih =>
    rw [scanFiles, Noted.result_bind, scanFile_result]
    exact ih _

end Scanner

namespace ScanRequest

/-- The report of a refused rule. -/
def rejectionReport (request : ScanRequest) (rejection : Rejection) : FailureReport where
  kind := .ruleSyntax
  message := "Attachment rule ".toList ++ rejection.name ++ " was rejected".toList
  details := rejection.reason.toList
  source := request.ruleSource rejection

theorem reportRejections_result {ε : Type} (request : ScanRequest) (rejections : List Rejection) :
    (request.reportRejections rejections : Noted ε _).result =
      .ok (rejections.map request.rejectionReport) := by
  induction rejections with
  | nil => rfl
  | cons rejection rest ih =>
    simp only [reportRejections, Noted.result_bind, ih]
    rfl

/-- **A run reports the outcomes of its files and the refused rules**, if its rules are loaded. -/
theorem run_eq_report {request : ScanRequest} {settings : Settings} {files : FileAccess}
    {set : RuleSet} (outlook : Option OutlookReader)
    (hl : (request.loadRules settings files).result = .ok set) :
    (request.run settings files outlook).result =
      request.report settings files
        (Table.ofList ((Scanner.ofRules set outlook).outcomes settings files request.files))
        ((Scanner.ofRules set outlook).rules.rejections.map request.rejectionReport) := by
  simp only [run, Noted.result_bind, hl]
  show ((request.reportRejections _ : Noted RunFault _).result >>= _) = _
  rw [reportRejections_result]
  show ((Scanner.scanFiles _ _ _ _ _ : Noted RunFault _).result >>= _) = _
  rw [Scanner.scanFiles_result]
  rfl

end ScanRequest
end MailScreen
