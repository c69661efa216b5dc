import MailScreen.Command.FileTree
import MailScreen.Command.Request
import MailScreen.Command.Usage
import MailScreen.Report.ScanDocument
import MailScreen.Report.TagHeaders
import MailScreen.Rule.Lines

/-!
# Runs of the command

A run reads the rules once and scans the files one by one. A file that cannot be read, or whose scan
ends in a fault, gets a failure report and changes nothing for the others. A rule file that cannot
be read, rules whose reading ends early, and a report that cannot be written end the run.
-/
namespace MailScreen

/-- What a run comes to. -/
structure RunOutcome where
  /-- What goes to the standard output. -/
  output : Text := []
  /-- What goes to the standard error output. -/
  errors : Text := []
  /-- The exit status. -/
  status : Nat := 0
  /-- A file to be written, and its content. -/
  written : Option (Path × Text) := none
  deriving DecidableEq, Repr

/-- Why a run ends without an outcome. -/
inductive RunFault where
  /-- A file cannot be opened. -/
  | file (fault : FileFault)
  /-- The reading of the rules ended early. -/
  | rules (fault : RuleFault)
  deriving DecidableEq, Repr

/-- The wording of a run fault. -/
def RunFault.message : RunFault → Text
  | file fault => fault.message
  | rules fault => fault.message.toList

/-- A log level that is not known. -/
structure LevelFault where
  /-- The name of the level, in upper case. -/
  name : Text
  deriving DecidableEq, Repr

/-- The wording of a level fault. -/
def LevelFault.message (fault : LevelFault) : String :=
  s!"module 'logging' has no attribute '{String.ofList fault.name}'"

/-- Whether a scan found anything out. -/
def ScanOutcome.succeeded : ScanOutcome → Bool
  | found _ => true
  | failed _ => false

namespace ScanRequest

/-- The files that a request reads. -/
def reads (request : ScanRequest) : List Path := request.rules.toList ++ request.files

/-- The rules of a request. -/
def loadRules (request : ScanRequest) (settings : Settings) (files : FileAccess) :
    Noted RunFault RuleSet := do
  let strict := request.strict || settings.strictRules
  match request.rules with
  | none => (RuleSet.ofText strict []).mapFailure .rules
  | some path =>
    RuleSet.noteFile path.text
    let data ← Noted.ofExcept ((files.read path).mapError .file)
    (RuleSet.ofOctets strict data).mapFailure .rules

/-- What the source of a refused rule is called: its file and its line. -/
def ruleSource (request : ScanRequest) (rejection : Rejection) : Text :=
  ((request.rules.map Path.text).getD "None".toList) ++ s!":{rejection.line}".toList

/-- Reports the refused rules in order. -/
def reportRejections {ε : Type} (request : ScanRequest) :
    List Rejection → Noted ε (List FailureReport)
  | [] => pure []
  | rejection :: rest => do
    let report ← FailureReport.ruleSyntax rejection.name rejection.reason.toList
      (request.ruleSource rejection)
    let more ← reportRejections request rest
    return report :: more

end ScanRequest

namespace Scanner

/-- Scans a file. -/
def scanFile {ε : Type} (scanner : Scanner) (settings : Settings) (files : FileAccess)
    (path : Path) : Noted ε ScanOutcome :=
  match files.read path with
  | .error fault => .failed <$> FailureReport.internal fault.message path.text
  | .ok data => do
    match ← (scanner.scan settings data (some path.name)).attempt with
    | .ok outcome => return outcome
    | .error fault => .failed <$> FailureReport.internal fault.message.toList path.text

/-- Scans files into a table of outcomes by path. -/
def scanFiles {ε : Type} (scanner : Scanner) (settings : Settings) (files : FileAccess)
    (results : Table ScanOutcome) : List Path → Noted ε (Table ScanOutcome)
  | [] => pure results
  | path :: rest => do
    let outcome ← scanner.scanFile settings files path
    scanFiles scanner settings files (results.insert path.text outcome) rest

end Scanner

namespace ScanRequest

/-- The exit status of a run: 1 if the scan of any file failed. -/
def exitStatus (results : Table ScanOutcome) : Nat :=
  if results.all (·.2.succeeded) then 0 else 1

/-- What a run reports, and where. -/
def report (request : ScanRequest) (settings : Settings) (files : FileAccess)
    (results : Table ScanOutcome) (ruleErrors : List FailureReport) :
    Except RunFault RunOutcome :=
  let status := exitStatus results
  let document := (runDocument settings results ruleErrors).document
  if request.headers then
    .ok {
      output := results.flatMap fun (path, outcome) => outcome.headerText settings path ++ ['\n']
      status := status }
  else
    match request.output with
    | none => .ok { output := document ++ ['\n'], status := status }
    | some path =>
      match files.writeFault path with
      | some fault => .error (.file fault)
      | none =>
        .ok {
          output := "Results saved to: ".toList ++ path.text ++ ['\n']
          status := status
          written := some (path, document) }

/-- Runs a scan of files. -/
def run (request : ScanRequest) (settings : Settings) (files : FileAccess)
    (outlook : Option OutlookReader) : Noted RunFault RunOutcome := do
  let rules ← request.loadRules settings files
  let scanner := Scanner.ofRules rules outlook
  let ruleErrors ← request.reportRejections scanner.rules.rejections
  let results ← scanner.scanFiles settings files [] request.files
  Noted.ofExcept (request.report settings files results ruleErrors)

end ScanRequest

/-- The names of log levels, each with the rank from which on log entries are shown. -/
def logLevelRanks : List (String × Nat) :=
  [("NOTSET", 0), ("DEBUG", Severity.debug.rank), ("INFO", Severity.info.rank),
    ("WARN", Severity.warning.rank), ("WARNING", Severity.warning.rank),
    ("ERROR", Severity.error.rank), ("FATAL", Severity.error.rank + 1),
    ("CRITICAL", Severity.error.rank + 1)]

/-- The upper case of a character in the name of a log level. Outside ASCII the dotless i and the
long s have one that can be in such a name; all other characters are left as they are. -/
def upperInLevel (c : Char) : Char :=
  if c = 'ı' then 'I' else if c = 'ſ' then 'S' else c.toUpper

/-- The rank from which on a scan shows log entries, by the level that the request names and
otherwise by that of the settings. A request names a level that is known, but settings may have any
name, and with one that is not known the scan does not start. -/
def ScanRequest.shownFrom (request : ScanRequest) (settings : Settings) : Except LevelFault Nat :=
  let name := (request.logLevel.getD settings.logLevel).map upperInLevel
  match logLevelRanks.find? (·.1.toList = name) with
  | some (_, rank) => .ok rank
  | none => .error ⟨name⟩

/-- Runs the command with the words of its command line. By then the log level has been set, which
may end the command before it (`ScanRequest.shownFrom`). -/
def runCommand (settings : Settings) (files : FileAccess) (outlook : Option OutlookReader)
    (words : List Text) : Noted RunFault RunOutcome :=
  match CommandRequest.ofTexts words with
  | .error fault => pure { errors := fault.text, status := 2 }
  | .ok .help => pure { output := helpText }
  | .ok (.scan request) => request.run settings files outlook

end MailScreen
