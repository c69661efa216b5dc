import MailScreen.Attachment.FileName
import MailScreen.Attachment.Part
import MailScreen.Attachment.Record
import MailScreen.Header.Structured

/-!
# Finding attachments

A part is an attachment if it has a file name or asks to be one. The name stands in
Content-Disposition, or else in Content-Type. A header that cannot be made sense of counts as an
error of the part, says nothing, and does not keep the other headers from being read.
-/
namespace MailScreen

open Header

/-- What a structured header of a part comes to. -/
structure HeaderReading where
  /-- The primary value. -/
  value : Text := []
  /-- The parameters. -/
  params : Table Text := []
  /-- How many errors the header counts as. -/
  errors : Nat := 0
  deriving DecidableEq, Repr

namespace Attachment

/-- Reads a structured header. An absent or blank header says nothing. -/
def readStructured (parse : Text → Noted HeaderFault StructuredHeader) (label : String)
    (index : Nat) (raw : Option Text) : Noted HeaderFault HeaderReading :=
  match raw with
  | none => pure {}
  | some text =>
    if Text.isAllBlank text then pure {}
    else do
      match ← (parse text).attempt with
      | .ok header => return { value := header.value, params := header.params }
      | .error (.malformed error) =>
        Noted.debug s!"{label} parse error in part {index}: {error.message}"
        return { errors := 1 }
      | .error fault => Noted.fail fault

/-- Whether a transfer encoding is known: by name, or by the start that private ones have. -/
def isKnownEncoding (t : Text) : Bool :=
  Settings.recognizedEncodings.any (fun name => FileName.isWordIgnoringCase name.toList t) ||
    (FileName.isWordIgnoringCase "x-".toList (t.take 2) && !(t.drop 2).isEmpty &&
      !(t.drop 2).contains '\n')

/-- A transfer encoding without line breaks at its end, and how many errors it counts as. -/
def readEncoding (index : Nat) (raw : Option Text) : Noted HeaderFault (Text × Nat) :=
  match raw with
  | none => pure ([], 0)
  | some text =>
    let encoding := Text.dropEndWhile (fun c => c == '\r' || c == '\n') text
    if encoding.isEmpty || isKnownEncoding encoding then pure (encoding, 0)
    else do
      Noted.debug
        s!"Invalid Content-Transfer-Encoding in part {index}: {String.ofList encoding}"
      return (encoding, 1)

/-- The file name of a part: that of its disposition if it has one, even an empty one, and else that
of its type. -/
def fileName (disposition type : HeaderReading) : Text :=
  ((disposition.params.find? "filename".toList).or (type.params.find? "name".toList)).getD []

/-- The record of a part, if it is an attachment. -/
def record? (settings : Settings) (part : Part) (index : Nat) :
    Noted HeaderFault (Option AttachmentRecord) := do
  let disposition ← readStructured (parseDisposition settings) "Content-Disposition" index
    (part.header? "content-disposition".toList)
  let type ← readStructured (parseContentType settings) "Content-Type" index
    (part.header? "content-type".toList)
  let name := fileName disposition type
  if name.isEmpty && disposition.value ≠ "attachment".toList then return none
  else
    let charset := (type.params.find? "charset".toList).getD []
    Noted.debug (s!"Found attachment name={String.ofList name} type={String.ofList type.value} " ++
      s!"charset={String.ofList charset} disposition={String.ofList disposition.value}")
    let (encoding, encodingErrors) ← readEncoding index
      (part.header? "content-transfer-encoding".toList)
    return some {
      name := name
      extension := FileName.extension name
      mimeType := type.value
      effectiveType := if FileName.isWebPage name then "text/html".toList else type.value
      charset := charset
      disposition := disposition.value
      encoding := encoding
      mimeErrors := ((disposition.errors + type.errors + encodingErrors : Nat) : Int)
      partIndex := (index : Int) }

end Attachment

/-- What a search for attachments comes to: what was found, and the fault that ended it, if any. -/
structure Extraction where
  /-- The attachments. -/
  found : Attachments
  /-- What ended the search early. -/
  fault : Option HeaderFault := none
  deriving DecidableEq, Repr

namespace Extraction

/-- Looks for attachments among parts that are numbered from `index` on. -/
def continueFrom {ε : Type} (settings : Settings) (found : Attachments) (index : Nat) :
    List Part → Noted ε Extraction
  | [] => pure { found := found }
  | part :: rest => do
    match ← (Attachment.record? settings part index).attempt with
    | .error fault => return { found := found, fault := some fault }
    | .ok none => continueFrom settings found (index + 1) rest
    | .ok (some record) => continueFrom settings (found.add record) (index + 1) rest

/-- Adds the attachments among parts to those that are known. -/
def ofParts {ε : Type} (settings : Settings) (known : Attachments) (parts : List Part) :
    Noted ε Extraction := do
  let extraction ← continueFrom settings known 0 parts
  if extraction.fault.isNone then
    Noted.info s!"Found {extraction.found.records.length} attachments"
  return extraction

end Extraction
end MailScreen
