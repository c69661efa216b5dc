import MailScreen.Command.Argument
import MailScreen.Command.Path
import MailScreen.Settings

/-!
# Requests

What a command line asks for: help, or a scan of some files. A command line that asks for nothing
that makes sense is refused with the first fault that is met on the way from left to right.
-/
namespace MailScreen

/-- A request to scan files. -/
structure ScanRequest where
  /-- The message files. -/
  files : List Path := []
  /-- The rule file. -/
  rules : Option Path := none
  /-- Whether rule definitions may hold nothing but clauses, whatever the settings say. -/
  strict : Bool := false
  /-- The log level, if one is chosen. -/
  logLevel : Option Text := none
  /-- The file that the report is written to. -/
  output : Option Path := none
  /-- Whether to report as header lines. -/
  headers : Bool := false
  deriving DecidableEq, Repr

/-- What a command line asks for. -/
inductive CommandRequest where
  /-- How the command is used. -/
  | help
  /-- A scan. -/
  | scan (request : ScanRequest)
  deriving DecidableEq, Repr

namespace ScanRequest

/-- A request with the value of an option. -/
def withValue (request : ScanRequest) (option : CommandOption) (value : Text) :
    Except UsageFault ScanRequest :=
  match option with
  | .rules => .ok { request with rules := some (Path.ofText value) }
  | .output => .ok { request with output := some (Path.ofText value) }
  | .logLevel =>
    if Settings.logLevels.any (·.toList = value) then
      .ok { request with logLevel := some value }
    else .error (.unknownLevel value Settings.logLevels)
  | .help | .strictRules | .headers => .error (.unusedValue option value)

/-- A request with an option that takes no value. -/
def withFlag (request : ScanRequest) (option : CommandOption) : Except UsageFault ScanRequest :=
  match option with
  | .strictRules => .ok { request with strict := true }
  | .headers => .ok { request with headers := true }
  | .help => .ok request
  | .rules | .output | .logLevel => .error (.missingValue option)

/-- What is wrong with the letters after a short option for help, if anything is. More of the same
letter are the same option again, and another letter is passed over. -/
def checkHelpLetters (letters : Text) : Except UsageFault Unit :=
  match letters with
  | [] => .ok ()
  | '-' :: _ => .error (.unusedValue .help letters)
  | 'h' :: '=' :: value => .error (.unusedValue .help value)
  | 'h' :: rest => checkHelpLetters rest
  | _ => .ok ()

end ScanRequest

namespace CommandRequest

/-- What is asked for once all arguments have been read. -/
def conclude (request : ScanRequest) (unrecognized : List Text) :
    Except UsageFault CommandRequest :=
  if request.files.isEmpty then .error .noFiles
  else if unrecognized.isEmpty then .ok (scan request)
  else .error (.unrecognized unrecognized)

/-- Reads arguments after a request so far and words that were not recognized. The first operands
are the message files, and help is given as soon as it is asked for. -/
def ofArguments (request : ScanRequest) (unrecognized : List Text) :
    List CommandArgument → Except UsageFault CommandRequest
  | [] => conclude request unrecognized
  | .unknown word :: rest => ofArguments request (unrecognized ++ [word]) rest
  | .operands words :: rest =>
    let files := words.erase CommandWord.separatorText
    if request.files.isEmpty && !files.isEmpty then
      ofArguments { request with files := files.map Path.ofText } unrecognized rest
    else ofArguments request (unrecognized ++ words) rest
  | .option .help .absent :: _ => .ok help
  | .option .help (.adjacent letters) :: _ => do
    ScanRequest.checkHelpLetters letters
    return help
  | .option option .absent :: rest => do
    let request ← request.withFlag option
    ofArguments request unrecognized rest
  | .option option (.assigned value) :: rest => do
    let request ← request.withValue option value
    ofArguments request unrecognized rest
  | .option option (.adjacent letters) :: rest => do
    let request ← request.withValue option letters
    ofArguments request unrecognized rest

/-- What a command line asks for. -/
def ofTexts (words : List Text) : Except UsageFault CommandRequest := do
  let words ← CommandWord.ofTexts words
  ofArguments {} [] (CommandArgument.ofWords words)

end CommandRequest
end MailScreen
