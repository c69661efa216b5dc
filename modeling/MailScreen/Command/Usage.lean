import MailScreen.Command.Argument

/-!
# Usage

The texts that tell how the command is used.
-/
namespace MailScreen

/-- The name of the command. -/
def commandName : String := "attachment-detail"

/-- Lines as one text that ends with the last of them. -/
def textOfLines (lines : List String) : Text := (String.intercalate "\n" lines ++ "\n").toList

/-- How the command is called. -/
def usageText : Text :=
  textOfLines [
    "usage: attachment-detail [-h] [--rules RULES] [--strict-rules]",
    "                         [--log-level \x7bDEBUG,INFO,WARNING,ERROR\x7d]",
    "                         [--output OUTPUT] [--headers]",
    "                         files [files ...]"]

/-- What the command does. -/
def descriptionText : Text :=
  textOfLines ["", "Inspect email attachments and evaluate attachment rules", ""]

/-- What the operands and the options mean. -/
def argumentsText : Text :=
  textOfLines [
    "positional arguments:",
    "  files                 Input email files (.eml, .msg)",
    "",
    "options:",
    "  -h, --help            show this help message and exit",
    "  --rules RULES         Rule definition file",
    "  --strict-rules        Reject rules containing text outside 'key op value'",
    "                        clauses",
    "  --log-level \x7bDEBUG,INFO,WARNING,ERROR\x7d",
    "                        Set logging level",
    "  --output OUTPUT       Output JSON file",
    "  --headers             Print attachment tags as X-Spam-Attachment-* headers",
    "                        instead of JSON",
    ""]

/-- How the command is called, by example, and what a rule file looks like. -/
def examplesText : Text :=
  textOfLines [
    "Examples:",
    "  # List attachment details and tags:",
    "  python -m attachment_detail message.eml",
    "",
    "  # Evaluate a rule file:",
    "  python -m attachment_detail message.eml --rules attachment.cf",
    "",
    "  # Print tags as report headers:",
    "  python -m attachment_detail message.eml --headers",
    "",
    "Rule file format:",
    "  attachment INVALID_HTML_TYPE  name =~ /\\.s?html?$/i type != text/html",
    "  body       __ATTACH_SINGLE    eval:check_attachment_count(1,1)",
    "  body       __ATTACH_MIME_ERR  eval:check_attachment_mime_error()",
    "        "]

/-- The answer to a request for help. -/
def helpText : Text := usageText ++ descriptionText ++ argumentsText ++ examplesText

/-- The answer to a command line that makes no sense. -/
def UsageFault.text (fault : UsageFault) : Text :=
  usageText ++ commandName.toList ++ ": error: ".toList ++ fault.message ++ ['\n']

end MailScreen
