import MailScreen.Settings
import MailScreen.Text.Basic

/-!
# Attachment records

What is known about the attachments of a message: a record for each, and over all of them their
number and the distinct types and extensions in the order in which they first came.
-/
namespace MailScreen

/-- What the headers of a part say about an attachment. -/
structure AttachmentRecord where
  /-- The file name. -/
  name : Text := []
  /-- The extension of the file name, in lower case and without its dot. -/
  extension : Text := []
  /-- The content type as stated. -/
  mimeType : Text := []
  /-- The content type that a mail reader may well act on. -/
  effectiveType : Text := []
  /-- The charset of the content. -/
  charset : Text := []
  /-- How the part asks to be shown. -/
  disposition : Text := []
  /-- The transfer encoding. -/
  encoding : Text := []
  /-- How many headers of the part could not be made sense of. -/
  mimeErrors : Int := 0
  /-- The position of the part in its message. -/
  partIndex : Int := 0
  deriving DecidableEq, Repr

/-- What the attachments of a message come to. -/
structure Tally where
  /-- How many there are. -/
  count : Nat := 0
  /-- The distinct content types that are stated. -/
  types : List Text := []
  /-- The distinct extensions. -/
  extensions : List Text := []
  deriving DecidableEq, Repr

namespace Tally

/-- A list with a text at its end, unless the text is empty or there already. -/
def addNew (known : List Text) (t : Text) : List Text :=
  if t.isEmpty || known.contains t then known else known ++ [t]

/-- A tally with one more record counted. -/
def add (tally : Tally) (record : AttachmentRecord) : Tally where
  count := tally.count + 1
  types := addNew tally.types record.mimeType
  extensions := addNew tally.extensions record.extension

/-- The tags that report a tally. -/
def tags (tally : Tally) (settings : Settings) : List (String × Text) :=
  [("ATTACHMENT_COUNT", (toString tally.count).toList),
   ("ATTACHMENT_TYPES", List.intercalate settings.tagSeparator tally.types),
   ("ATTACHMENT_EXTS", List.intercalate settings.tagSeparator tally.extensions)]

end Tally

/-- The attachments of one message, in the order in which they were found. -/
structure Attachments where
  /-- The records. -/
  records : List AttachmentRecord := []
  /-- What they come to. -/
  tally : Tally := {}
  deriving DecidableEq, Repr

/-- Attachments with one more. -/
def Attachments.add (attachments : Attachments) (record : AttachmentRecord) : Attachments where
  records := attachments.records ++ [record]
  tally := attachments.tally.add record

end MailScreen
