import MailScreen.Message.Outlook
import MailScreen.Message.Structure

/-!
# Formats of messages

A message is in the mail format or in Outlook's. How likely data is in a format is judged by its
first octets and by its file name. Mail is what everything is taken for in the end.
-/
namespace MailScreen

/-- A format of messages. -/
inductive MailFormat where
  /-- The mail format. -/
  | eml
  /-- The format of Outlook. -/
  | msg
  deriving DecidableEq, Repr

/-- How sure it is that data is in a format, in tenths. -/
abbrev Confidence := Nat

/-- A confidence as a decimal fraction. -/
def Confidence.text (confidence : Confidence) : String := s!"0.{confidence}"

/-- Reads an Outlook message, or says why it cannot be read. -/
abbrev OutlookReader := Octets → Except String OutlookMessage

namespace MailFormat

/-- The name of a format. -/
def name : MailFormat → String
  | eml => "eml"
  | msg => "msg"

/-- The name by which messages refer to the reader of a format. -/
def readerName : MailFormat → String
  | eml => "EmlFormatParser"
  | msg => "MsgFormatParser"

/-- The octets that an Outlook message starts with. -/
def outlookSignature : Octets := [0xD0, 0xCF, 0x11, 0xE0, 0xA1, 0xB1, 0x1A, 0xE1]

/-- Header names that are looked for in the first octets of a mail message. -/
def markers : List String :=
  ["Return-Path:", "Received:", "From:", "Message-ID:", "Date:", "MIME-Version:", "Content-Type:"]

/-- How many octets are looked at. -/
def headSize : Nat := 512

/-- How many of the markers are in the first octets of data. -/
def markerCount (data : Octets) : Nat :=
  let head := data.take headSize
  (markers.filter fun marker => Text.hasPiece (Octets.ofAscii marker.toList) head).length

/-- Whether a file name has one of the endings, in whatever case. -/
def hasEnding (endings : List String) (fileName : Option Text) : Bool :=
  match fileName with
  | none => false
  | some name => endings.any fun ending => ending.toList.isSuffixOf (Text.lower name)

/-- Whether data may be in a format, and how sure that is. -/
def judge (format : MailFormat) (data : Octets) (fileName : Option Text) : Bool × Confidence :=
  match format with
  | eml =>
    if markerCount data ≥ 2 then (true, 8)
    else if hasEnding [".eml", ".email"] fileName then (true, 6)
    else (true, 3)
  | msg =>
    if outlookSignature.isPrefixOf data then (true, 9)
    else if hasEnding [".msg"] fileName then (true, 7)
    else (false, 0)

end MailFormat

/-- What separates the parts of the mail message that stands for an Outlook message. -/
def outlookBoundary : Text := "----=_MSG_".toList ++ List.replicate 32 '0'

namespace Message

/-- The parts of a message in the mail format, or nothing if its structure cannot be made out. -/
def readMail {ε : Type} (data : Octets) : Noted ε (Option (List Part)) :=
  match partsOfOctets data with
  | .ok parts => pure (some parts)
  | .error fault => do
    Noted.error s!"Failed to parse EML: {fault.message}"
    return none

/-- The parts of an Outlook message, or nothing if it cannot be read. -/
def readOutlook {ε : Type} (reader : Option OutlookReader) (data : Octets) :
    Noted ε (Option (List Part)) :=
  match reader with
  | none => do
    Noted.error "MSG support requires extract_msg"
    return none
  | some read => do
    Noted.info "Parsing MSG file using extract_msg"
    match read data with
    | .error reason =>
      Noted.error s!"Failed to parse MSG file: {reason}"
      return none
    | .ok message =>
      let mail ← OutlookMessage.convert outlookBoundary message
      match partsOfText mail with
      | .ok parts => return some parts
      | .error fault =>
        Noted.error s!"Failed to parse MSG file: {fault.message}"
        return none

/-- The parts of a message in a format. -/
def read {ε : Type} (reader : Option OutlookReader) (format : MailFormat) (data : Octets) :
    Noted ε (Option (List Part)) :=
  match format with
  | .eml => readMail data
  | .msg => readOutlook reader data

end Message
end MailScreen
