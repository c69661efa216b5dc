import MailScreen.Header.Percent
import MailScreen.Noted
import MailScreen.Text.Blank

/-!
# Outlook messages

What is known of a message in Outlook's own format, and the mail message that stands for it: one
part of text and then one for each attachment, with nothing but its type and file name.
-/
namespace MailScreen

/-- An attachment of an Outlook message. -/
structure OutlookAttachment where
  /-- The long file name. -/
  longName : Option Text := none
  /-- The short file name. -/
  shortName : Option Text := none
  /-- The content type. -/
  mimeType : Option Text := none
  deriving DecidableEq, Repr

/-- An Outlook message. -/
structure OutlookMessage where
  /-- Who sent it. -/
  sender : Text := []
  /-- Whom it was sent to. -/
  recipient : Text := []
  /-- What it is about. -/
  subject : Text := []
  /-- Its attachments. -/
  attachments : List OutlookAttachment := []
  deriving DecidableEq, Repr

namespace OutlookMessage

/-- A text, unless it is empty. -/
def nonempty? (t : Option Text) : Option Text := t.filter fun t => !t.isEmpty

/-- A text on one line: its words with a space between them. -/
def oneLine (t : Text) : Text := List.intercalate [' '] (Text.words t)

/-- The characters that stand for themselves in a percent-encoded text. -/
def isUnreserved (b : UInt8) : Bool :=
  let n := b.toNat
  (0x30 ≤ n && n ≤ 0x39) || (0x41 ≤ n && n ≤ 0x5A) || (0x61 ≤ n && n ≤ 0x7A) ||
    n == 0x5F || n == 0x2E || n == 0x2D || n == 0x7E

/-- A text in UTF-8, percent-encoded. -/
def percentEncode (t : Text) : Text :=
  (Utf8.encode t).flatMap fun b =>
    if isUnreserved b then [Char.ofNat b.toNat] else Percent.encodeOctet b

/-- A character inside quotation marks. -/
def quoteChar (c : Char) : Text := if c = '\\' || c = '"' then ['\\', c] else [c]

/-- A header parameter: quoted if its value is ASCII, and otherwise in extended form in UTF-8. -/
def formatParameter (name : String) (value : Text) : Text :=
  if value.all (·.toNat < 0x80) then
    name.toList ++ "=\"".toList ++ value.flatMap quoteChar ++ ['"']
  else name.toList ++ "*=utf-8''".toList ++ percentEncode value

/-- The content type of what has none. -/
def unknownType : Text := "application/octet-stream".toList

/-- The file name of an attachment: the long one, or else the short one. -/
def fileName (attachment : OutlookAttachment) : Text :=
  ((nonempty? attachment.longName).or attachment.shortName).getD []

/-- The content type of an attachment. -/
def typeName (attachment : OutlookAttachment) : Text :=
  (nonempty? attachment.mimeType).getD unknownType

/-- The lines of the part that stands for an attachment. -/
def attachmentLines (boundary : Text) (attachment : OutlookAttachment) : List Text :=
  let name := fileName attachment
  let type := "Content-Type: ".toList ++ typeName attachment
  let disposition := "Content-Disposition: attachment".toList
  let headers :=
    if name.isEmpty then [type, disposition]
    else
      [type ++ "; ".toList ++ formatParameter "name" name,
        disposition ++ "; ".toList ++ formatParameter "filename" name]
  ("--".toList ++ boundary) :: headers ++ [[], []]

/-- The lines of the message before its attachments. -/
def headLines (boundary : Text) (message : OutlookMessage) : List Text :=
  ["From: ".toList ++ oneLine message.sender, "To: ".toList ++ oneLine message.recipient,
    "Subject: ".toList ++ oneLine message.subject, "MIME-Version: 1.0".toList,
    "Content-Type: multipart/mixed; boundary=\"".toList ++ boundary ++ ['"'], [],
    "--".toList ++ boundary, "Content-Type: text/plain; charset=utf-8".toList, [], []]

/-- The mail message that stands for an Outlook message. -/
def toMail (boundary : Text) (message : OutlookMessage) : Text :=
  List.intercalate ['\n'] (headLines boundary message ++
    message.attachments.flatMap (attachmentLines boundary) ++
    ["--".toList ++ boundary ++ "--".toList, []])

/-- Notes the attachments that are numbered from `index` on. -/
def noteAttachments {ε : Type} (index : Nat) : List OutlookAttachment → Noted ε Unit
  | [] => pure ()
  | attachment :: rest => do
    Noted.debug (s!"MSG attachment {index}: filename={String.ofList (fileName attachment)} " ++
      s!"type={String.ofList (typeName attachment)}")
    noteAttachments (index + 1) rest

/-- Makes a mail message of an Outlook message and notes what it holds. -/
def convert {ε : Type} (boundary : Text) (message : OutlookMessage) : Noted ε Text := do
  Noted.info s!"Found {message.attachments.length} attachments in MSG file"
  noteAttachments 0 message.attachments
  return toMail boundary message

end OutlookMessage
end MailScreen
