import MailScreen.Charset.Coding
import MailScreen.Header.Percent
import MailScreen.Header.EncodedWord
import MailScreen.Settings
import MailScreen.Table

/-!
# Parameters as meant

A parameter may be written in extended form, with an asterisk after its name: then its value is
percent-encoded and starts with a charset and a language between apostrophes. It may also be cut
into sections, which are numbered from 0 after an asterisk and may each be extended; the charset of
all stands in section 0, and the octets of the sections are joined before they are decoded. The
value of a parameter is that of its sections, or else of its extended form, or else of its plain
form; of several forms of one kind the last counts.
-/
namespace MailScreen.Header

/-- What is wrong with a header that a reader of headers is to expect. -/
inductive HeaderError where
  /-- A content type without type and subtype. -/
  | noContentType (text : Text)
  /-- A disposition without a token. -/
  | noDisposition (text : Text)
  /-- A header that starts with a parameter. -/
  | noPrimary (header : String)
  /-- A section number that comes twice. -/
  | repeatedSection (name : Text) (index : Nat)
  /-- Section numbers with a gap, in increasing order. -/
  | brokenContinuation (name : Text) (indices : List Nat)
  /-- A charset that is not known. -/
  | unknownCharset (charset : Text)
  deriving DecidableEq, Repr

/-- The wording of a header error. -/
def HeaderError.message : HeaderError → String
  | noContentType text => s!"invalid Content-Type '{String.ofList text}'"
  | noDisposition text => s!"invalid Content-Disposition '{String.ofList text}'"
  | noPrimary header => s!"{header} has no primary value"
  | repeatedSection name index =>
    s!"parameter {String.ofList name} repeats RFC 2231 section {index}"
  | brokenContinuation name indices =>
    let list := String.intercalate ", " (indices.map toString)
    s!"parameter {String.ofList name} has a broken RFC 2231 continuation (sections [{list}])"
  | unknownCharset charset => s!"unknown RFC 2231 charset '{String.ofList charset}'"

/-- Why the reading of a header ends early. -/
inductive HeaderFault where
  /-- The header is malformed in an expected way. -/
  | malformed (error : HeaderError)
  /-- A charset cannot be used. -/
  | charset (fault : CharsetFault)
  /-- A section number cannot be read. -/
  | number (fault : IntegerFault)
  deriving DecidableEq, Repr

/-- The wording of a header fault. -/
def HeaderFault.message : HeaderFault → String
  | malformed error => error.message
  | charset fault => fault.message
  | number fault => fault.message

/-- How the value of a parameter is written. -/
inductive Form where
  /-- As it is. -/
  | plain
  /-- Percent-encoded. -/
  | extended
  /-- As the section with the given digits, percent-encoded or not. -/
  | numbered (digits : Text) (extended : Bool)
  deriving DecidableEq, Repr

/-- The name proper of a parameter and the form of its value. -/
def splitName? (name : Text) : Option (Text × Form) :=
  let base := name.takeWhile (· ≠ '*')
  if base.isEmpty then none
  else
    match name.dropWhile (· ≠ '*') with
    | [] => some (base, .plain)
    | _ :: [] => some (base, .extended)
    | _ :: rest =>
      let digits := rest.takeWhile isDecimalDigit
      if digits.isEmpty then none
      else
        match rest.dropWhile isDecimalDigit with
        | [] => some (base, .numbered digits false)
        | ['*'] => some (base, .numbered digits true)
        | _ => none

/-- A section of a parameter. -/
structure Section where
  /-- Its number. -/
  index : Nat
  /-- Its value as written. -/
  value : Text
  /-- Whether the value is percent-encoded. -/
  extended : Bool
  deriving DecidableEq, Repr

/-- What has been read of the parameters of a header, by form. -/
structure Forms where
  /-- Values written as they are. -/
  plain : Table Text := []
  /-- Values written percent-encoded, decoded. -/
  extended : Table Text := []
  /-- Sections in the order of the header. -/
  sections : Table (List Section) := []

/-- Splits off the charset of an extended value, which is empty if none is stated, and the
language. -/
def splitCharset (value : Text) : Option Text × Text :=
  match Text.cut? '\'' value with
  | none => (none, value)
  | some (charset, rest) =>
    match Text.cut? '\'' rest with
    | none => (none, value)
    | some (_, text) => (if charset.isEmpty then none else some charset, text)

/-- The charset of an extended value with the name that messages show; Latin 1 if none is stated. -/
def charsetOf : Option Text → Except HeaderFault (Text × Charset)
  | none => .ok ("latin-1".toList, .latin1)
  | some name =>
    if name.contains '\x00' then .error (.charset .nulInName)
    else
      match findCharset? name with
      | some entry => .ok (entry.label.toList, entry.charset)
      | none => .error (.malformed (.unknownCharset name))

/-- The text of an extended value. -/
def decodeExtended (value : Text) : Except HeaderFault Text := do
  let (name, text) := splitCharset value
  let (label, charset) ← charsetOf name
  (charset.decode label (Percent.decode text)).mapError .charset

/-- Adds one parameter to what has been read. -/
def Forms.add (forms : Forms) (name value : Text) : Noted HeaderFault Forms :=
  match splitName? name with
  | none => do
    Noted.debug s!"Skipping parameter with malformed name '{String.ofList name}'"
    pure forms
  | some (base, .plain) => pure { forms with plain := forms.plain.insert base value }
  | some (base, .extended) => do
    let text ← Noted.ofExcept (decodeExtended value)
    pure { forms with extended := forms.extended.insert base text }
  | some (base, .numbered digits extended) => do
    let index ← Noted.ofExcept ((digitsValue? digits).mapError .number)
    let known := (forms.sections.find? base).getD []
    if known.any (·.index == index) then
      Noted.fail (.malformed (.repeatedSection base index))
    else
      let sections := known ++ [⟨index, value, extended⟩]
      pure { forms with sections := forms.sections.insert base sections }

/-- The octets of a section in a charset. -/
def Section.octets (label : Text) (charset : Charset) (s : Section) : Except HeaderFault Octets :=
  if s.extended then .ok (Percent.decode s.value)
  else (charset.encode label s.value).mapError .charset

/-- Takes the charset off the value of section 0 if that is extended. -/
def firstCharset : List Section → Option Text × List Section
  | [] => (none, [])
  | s :: rest =>
    if s.extended then
      let (charset, value) := splitCharset s.value
      (charset, { s with value := value } :: rest)
    else (none, s :: rest)

/-- The value of the sections of a parameter. -/
def joinSections (name : Text) (sections : List Section) : Except HeaderFault Text := do
  let sorted := sections.mergeSort fun a b => a.index ≤ b.index
  let indices := sorted.map (·.index)
  if indices ≠ List.range indices.length then
    throw (.malformed (.brokenContinuation name indices))
  if sorted.all fun s => !s.extended then
    return sorted.flatMap (·.value)
  let (stated, sorted) := firstCharset sorted
  let (label, charset) ← charsetOf stated
  let chunks ← sorted.mapM (Section.octets label charset)
  (charset.decode label chunks.flatten).mapError .charset

/-- The values that sections make, written over those of the other forms. -/
def Forms.values (forms : Forms) : Except HeaderFault (Table Text) :=
  forms.sections.foldlM
    (fun values (name, sections) => do
      let text ← joinSections name sections
      pure (values.insert name text))
    (forms.plain.insertAll forms.extended)

/-- A table with the encoded words in its values decoded. -/
def decodeValues (values : Table Text) : Noted HeaderFault (Table Text) :=
  values.mapM fun (name, value) => do
    if EncodedWord.occursIn value then
      let text ← EncodedWord.decodeAll value
      pure (name, text)
    else pure (name, value)

/-- The parameters that pairs of names and values as written make. -/
def combine (settings : Settings) (written : List (Text × Text)) :
    Noted HeaderFault (Table Text) := do
  let forms ← written.foldlM (fun (forms : Forms) (name, value) => forms.add name value) {}
  let values ← Noted.ofExcept forms.values
  if settings.decodeEncodedWords then decodeValues values else pure values

end MailScreen.Header
