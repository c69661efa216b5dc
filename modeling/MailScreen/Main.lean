import MailScreen.Command.Run

/-!
# The command

The outer layer of the command: it reads the environment and the files that a request names, runs
the request, and writes what the run comes to. Log entries go to the standard error output. There is
no reader of Outlook messages, so they are always reported as messages that cannot be read.
-/
namespace MailScreen

/-- The environment variables that settings depend on. -/
def settingVariables : List String :=
  ["AD_MAX_FILE_SIZE_MB", "AD_STRICT_RULES", "AD_DECODE_RFC2047_PARAMS", "AD_TAG_SEPARATOR",
    "AD_DEFAULT_LOG_LEVEL"]

/-- The settings that the environment makes. -/
def readEnvironment : IO (Except IntegerFault Settings) := do
  let values ← settingVariables.mapM fun name => return (name, ← IO.getEnv name)
  return Settings.ofEnvironment fun name =>
    (values.find? (·.1 = name)).bind fun entry => entry.2.map String.toList

/-- Why the system refuses to open a file. -/
def problemOf (error : IO.Error) : FileProblem :=
  match error with
  | .noFileOrDirectory .. => .missing
  | .permissionDenied .. => .denied
  | .inappropriateType _ number _ => if number = 20 then .notDirectory else .isDirectory
  | .invalidArgument _ number wording => .other number.toNat wording.toList
  | _ => .other 5 (toString error).toList

/-- The content of a file. -/
def readFile (path : Path) : IO (Except FileFault Octets) := do
  if path.text.any (·.toNat = 0) then return .error ⟨.nullCharacter, path⟩
  try
    let data ← IO.FS.readBinFile (String.ofList path.text)
    return .ok data.toList
  catch error => return .error ⟨problemOf error, path⟩

/-- The contents of files as a file system in which every file can be written. -/
def readFiles (paths : List Path) : IO FileAccess := do
  let contents ← paths.mapM fun path => return (path, ← readFile path)
  return {
    read := fun path =>
      ((contents.find? (·.1 = path)).map (·.2)).getD (.error ⟨.missing, path⟩)
    writeFault := fun _ => none }

/-- The files that a command line asks to read. -/
def requestedFiles (words : List Text) : List Path :=
  match CommandRequest.ofTexts words with
  | .ok (.scan request) => request.reads
  | _ => []

/-- The rank from which on log entries are shown. A command line that asks for no scan sets no log
level, and nothing is noted for it. -/
def shownFrom (settings : Settings) (words : List Text) : Except LevelFault Nat :=
  match CommandRequest.ofTexts words with
  | .ok (.scan request) => request.shownFrom settings
  | _ => .ok 0

/-- An entry as a log line. -/
def LogEntry.line (entry : LogEntry) : String := entry.severity.label ++ " - " ++ entry.message

/-- Writes what a run comes to. -/
def finish (outcome : RunOutcome) : IO UInt32 := do
  match outcome.written with
  | none => pure ()
  | some (path, content) => IO.FS.writeFile (String.ofList path.text) (String.ofList content)
  IO.print (String.ofList outcome.output)
  IO.eprint (String.ofList outcome.errors)
  return outcome.status.toUInt32

end MailScreen

open MailScreen in
/-- Runs the command. -/
def main (arguments : List String) : IO UInt32 := do
  match ← readEnvironment with
  | .error fault =>
    IO.eprintln fault.message
    return 1
  | .ok settings =>
    let words := arguments.map String.toList
    match shownFrom settings words with
    | .error fault =>
      IO.eprintln fault.message
      return 1
    | .ok least =>
      let files ← readFiles (requestedFiles words)
      let noReader : OutlookReader := fun _ => .error "not an OLE2 structured storage file"
      let run := runCommand settings files (some noReader) words
      for entry in run.log do
        if least ≤ entry.severity.rank then IO.eprintln entry.line
      match run.result with
      | .ok outcome => finish outcome
      | .error fault =>
        IO.eprintln (String.ofList fault.message)
        return 1
