import MailScreen.Scan.Scanner

/-!
# Tag headers

A scan report as header lines that a mail filter may add to a message: four lines that name the
message and carry its tags, and a fifth if rules hold. A message that cannot be dealt with gets one
line that says why.
-/
namespace MailScreen

/-- A header line. -/
def tagHeader (name : String) (value : Text) : Text :=
  "X-Spam-Attachment-".toList ++ name.toList ++ ": ".toList ++ value

namespace ScanReport

/-- The header line of the rules that hold, if any do. -/
def ruleHeaders (report : ScanReport) : List Text :=
  if report.hits.isEmpty then [] else [tagHeader "Rules" (List.intercalate [','] report.hits)]

/-- The header lines of a report on the message called `name`. -/
def headerLines (settings : Settings) (name : Text) (report : ScanReport) : List Text :=
  let tally := report.attachments.tally
  ["==> ".toList ++ name,
    tagHeader "Count" (toString tally.count).toList,
    tagHeader "Types" (List.intercalate settings.tagSeparator tally.types),
    tagHeader "Exts" (List.intercalate settings.tagSeparator tally.extensions)] ++
      report.ruleHeaders

end ScanReport

/-- The header lines of an outcome. -/
def ScanOutcome.headerLines (settings : Settings) (name : Text) : ScanOutcome → List Text
  | found report => report.headerLines settings name
  | failed report => [name ++ ": ".toList ++ report.message]

/-- The header text of an outcome. -/
def ScanOutcome.headerText (settings : Settings) (name : Text) (outcome : ScanOutcome) : Text :=
  List.intercalate ['\n'] (outcome.headerLines settings name)

end MailScreen
