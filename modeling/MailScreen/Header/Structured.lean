import MailScreen.Header.Section

/-!
# Structured headers

The headers Content-Type and Content-Disposition hold a primary value and parameters. A header may
be folded over several lines; it is unfolded first, and blanks at its ends are dropped. A header
whose first word is followed by an equals sign has no primary value.
-/
namespace MailScreen.Header

/-- A structured header: its primary value in lower case and its parameters. -/
structure StructuredHeader where
  /-- The primary value. -/
  value : Text
  /-- The parameters by name. -/
  params : Table Text
  deriving DecidableEq, Repr

/-- Whether a text starts with a space or tab. -/
def startsWithSpace : Text → Bool
  | [] => false
  | c :: _ => isSpaceOrTab c

/-- Removes the line breaks that a space or tab comes after and makes spaces of the others. -/
def unfoldLines : Text → Text
  | [] => []
  | '\r' :: '\n' :: rest =>
    if startsWithSpace rest then unfoldLines rest else ' ' :: ' ' :: unfoldLines rest
  | c :: rest =>
    if c = '\n' then (if startsWithSpace rest then unfoldLines rest else ' ' :: unfoldLines rest)
    else if c = '\r' then ' ' :: unfoldLines rest
    else c :: unfoldLines rest

/-- A header value on one line, without blanks at its ends. -/
def unfold (raw : Text) : Text := Text.trim (unfoldLines raw)

/-- Notes what the reader of parameters passed over. -/
def noteItem : Item → Noted HeaderFault Unit
  | .parameter .. => pure ()
  | .malformed text => Noted.debug s!"Skipping malformed parameter '{String.ofList text}'"
  | .unterminated name =>
    Noted.debug s!"Skipping parameter {String.ofList name} with unterminated quoted string"

/-- The pairs of names and values among items. -/
def writtenPairs (items : List Item) : List (Text × Text) :=
  items.filterMap fun item =>
    match item with
    | .parameter name value => some (name, value)
    | _ => none

/-- The parameters in what follows the primary value of a header. -/
def parameters (settings : Settings) (t : Text) : Noted HeaderFault (Table Text) := do
  let found := items t
  found.forM noteItem
  combine settings (writtenPairs found)

/-- Reads what follows a primary value. -/
def finish (settings : Settings) (header : String) (value rest : Text) :
    Noted HeaderFault StructuredHeader :=
  match skipBlanks rest with
  | '=' :: _ => Noted.fail (.malformed (.noPrimary header))
  | _ => do
    let params ← parameters settings rest
    pure ⟨Text.lower value, params⟩

/-- Reads `type/subtype`, with spaces and tabs around the slash: the two joined, and what is
left. -/
def takeContentType? (t : Text) : Option (Text × Text) := do
  let (kind, rest) ← takeToken? t
  match dropSpaces rest with
  | '/' :: rest =>
    let (subtype, rest) ← takeToken? (dropSpaces rest)
    some (kind ++ '/' :: subtype, rest)
  | _ => none

/-- Reads a Content-Type value. -/
def parseContentType (settings : Settings) (raw : Text) : Noted HeaderFault StructuredHeader :=
  let text := unfold raw
  match takeContentType? (skipBlanks text) with
  | none => Noted.fail (.malformed (.noContentType text))
  | some (value, rest) => finish settings "Content-Type" value rest

/-- Reads a Content-Disposition value. -/
def parseDisposition (settings : Settings) (raw : Text) : Noted HeaderFault StructuredHeader :=
  let text := unfold raw
  match takeToken? (skipBlanks text) with
  | none => Noted.fail (.malformed (.noDisposition text))
  | some (value, rest) => finish settings "Content-Disposition" value rest

/-- Reads the value of the header that a name stands for: a Content-Type by that name, and a
Content-Disposition by any other. -/
def parseNamed (settings : Settings) (name raw : Text) : Noted HeaderFault StructuredHeader :=
  if Text.lower name = "content-type".toList then parseContentType settings raw
  else parseDisposition settings raw

end MailScreen.Header
