import MailScreen.Text.Case
import MailScreen.Text.Integer

/-!
# Settings

What a user may set: by environment variables with the defaults given here, or by a program that
builds the record itself.
-/
namespace MailScreen

/-- The settings that a run works under. -/
structure Settings where
  /-- The size in megabytes above which a message is not read. -/
  maxFileSizeMb : Int := 50
  /-- Whether rule definitions may hold nothing but clauses. -/
  strictRules : Bool := false
  /-- Whether encoded words in header parameters are decoded. -/
  decodeEncodedWords : Bool := true
  /-- What stands between the entries of a tag. -/
  tagSeparator : Text := [',']
  /-- The name of the log level of a command line run. -/
  logLevel : Text := "INFO".toList
  deriving DecidableEq, Repr

namespace Settings

/-- The log levels that the command line knows. -/
def logLevels : List String := ["DEBUG", "INFO", "WARNING", "ERROR"]

/-- Transfer encodings that do not count as errors, besides those that start with `x-`. -/
def recognizedEncodings : List String :=
  ["7bit", "8bit", "binary", "quoted-printable", "base64", "uuencode"]

/-- The pattern of the names that are taken for web pages. -/
def webPagePattern : String := "\\.s?html?$"

/-- The settings that environment variables make, each of which may be unset. -/
def ofEnvironment (lookup : String → Option Text) : Except IntegerFault Settings := do
  let size ←
    match lookup "AD_MAX_FILE_SIZE_MB" with
    | none => .ok 50
    | some t => readInteger t
  let isTrue (name : String) (default : Bool) : Bool :=
    match lookup name with
    | none => default
    | some t => Text.lower t = "true".toList
  return {
    maxFileSizeMb := size
    strictRules := isTrue "AD_STRICT_RULES" false
    decodeEncodedWords := isTrue "AD_DECODE_RFC2047_PARAMS" true
    tagSeparator := (lookup "AD_TAG_SEPARATOR").getD [',']
    logLevel := (lookup "AD_DEFAULT_LOG_LEVEL").getD "INFO".toList }

end Settings
end MailScreen
