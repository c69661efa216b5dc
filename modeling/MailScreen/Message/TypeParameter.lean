import MailScreen.Header.Percent
import MailScreen.Message.Lexeme
import MailScreen.Text.Integer

/-!
# Parameters of a type header

A parameter is a name, possibly with a section number and the asterisk of the extended form, and a
value. A value in extended form starts with a charset and a language between apostrophes; one that
has them without the asterisk is read the same way but not decoded, and one that stands in quotation
marks in spite of the asterisk is read inside the marks if it could be meant so. What has not the
form of a parameter is passed over up to the next semicolon.
-/
namespace MailScreen

open Lexeme

/-- Why a type header cannot be read at all. -/
inductive TypeFault where
  /-- The header ends after the asterisk of the extended form. -/
  | endsAfterAsterisk
  /-- A quoted value in extended form has nothing after charset and language. -/
  | emptyQuotedValue
  /-- The charset of a value cannot be used. -/
  | charset (fault : CharsetFault)
  /-- A section number cannot be read. -/
  | number (fault : IntegerFault)
  /-- Pieces of a value with and without a number; the first of them has one or not. -/
  | mixedPieces (firstNumbered : Bool)
  deriving DecidableEq, Repr

/-- The wording of a fault. -/
def TypeFault.message : TypeFault → String
  | endsAfterAsterisk => "string index out of range"
  | emptyQuotedValue => "list index out of range"
  | charset fault => fault.message
  | number fault => fault.message
  | mixedPieces firstNumbered =>
    let (other, first) := if firstNumbered then ("NoneType", "int") else ("int", "NoneType")
    s!"'<' not supported between instances of '{other}' and '{first}'"

/-- A parameter of a type header. -/
structure TypeParameter where
  /-- The name, without section number and asterisk. -/
  name : Text
  /-- The section number, 0 if none is stated. -/
  sectionNumber : Nat := 0
  /-- Whether the value is in extended form. -/
  extended : Bool := false
  /-- The charset of the value. -/
  charset : Text := "us-ascii".toList
  /-- The value as written; `none` for a quoted value with nothing after charset and language. -/
  value : Option Text := some []
  deriving DecidableEq, Repr

namespace TypeParameter

/-- Why a parameter is not read. -/
inductive Stop where
  /-- It has not the form of a parameter, and is passed over. -/
  | malformed
  /-- The whole header cannot be read. -/
  | broken (fault : TypeFault)
  deriving DecidableEq, Repr

/-- Reads what `f` reads, or else finds the parameter malformed. -/
def orMalformed {α : Type} : Option α → Except Stop α
  | some a => .ok a
  | none => .error .malformed

/-- Digits that are not decimal, such as raised ones. They look like a section number and are not
one. -/
def rareDigitRanges : List (Nat × Nat) :=
  [(0xB2, 0xB3), (0xB9, 0xB9), (0x1369, 0x1371), (0x19DA, 0x19DA), (0x2070, 0x2070),
    (0x2074, 0x2079), (0x2080, 0x2089), (0x2460, 0x2468), (0x2474, 0x247C), (0x2488, 0x2490),
    (0x24EA, 0x24EA), (0x24F5, 0x24FD), (0x24FF, 0x24FF), (0x2776, 0x277E), (0x2780, 0x2788),
    (0x278A, 0x2792), (0x10A40, 0x10A43), (0x10E60, 0x10E68), (0x11052, 0x1105A),
    (0x1F100, 0x1F10A)]

/-- The digits that may stand in a section number. -/
def isSectionDigit (c : Char) : Bool := isDecimalDigit c || inRanges c.toNat rareDigitRanges

/-- Reads a section number after its asterisk; `none` if there is none. -/
def takeSection? : Text → Except Stop (Option (Nat × Text))
  | '*' :: rest =>
    let digits := rest.takeWhile isSectionDigit
    if digits.isEmpty then .ok none
    else
      match readInteger digits with
      | .ok n => .ok (some (n.toNat, rest.dropWhile isSectionDigit))
      | .error fault => .error (.broken (.number fault))
  | _ => .ok none

/-- A value as written: what it means, and what it means where a charset is asked for. -/
structure Written where
  /-- The value. -/
  value : Text
  /-- The value with the blanks around it. -/
  spaced : Text

/-- One space for blanks and comments, if there are any. -/
def spaceFor (shown : Text) : Text := if shown.isEmpty then [] else [' ']

/-- Reads a value: quoted, or a run of the characters of an extended value. -/
def takeValue (t : Text) : Except Stop (Written × Text) :=
  let (before, t) := comments t
  match t with
  | [] => .error .malformed
  | '"' :: rest =>
    let (meant, left) := quotation rest
    let (after, left) := comments left
    .ok (⟨meant, spaceFor before ++ meant ++ spaceFor after⟩, left)
  | t => do
    let (body, left) ← orMalformed (run? endsExtendedText t)
    let (after, left) := comments left
    return (⟨body, spaceFor before ++ body ++ spaceFor after⟩, left)

/-- Reads `'language'` and returns what is left. -/
def afterLanguage : Text → Except Stop Text
  | '\'' :: rest =>
    match rest with
    | [] => .ok []
    | '\'' :: left => .ok left
    | _ =>
      match run? endsAttribute rest with
      | some (_, '\'' :: left) => .ok left
      | _ => .error .malformed
  | _ => .error .malformed

/-- The value inside the quotation marks of an extended value, with escapes taken away once more and
every run of blanks one space. `steps` bounds the number of pieces. -/
def innerPieces (steps : Nat) (t : Text) : Text :=
  match steps, t with
  | 0, _ => []
  | _, [] => []
  | steps + 1, c :: rest =>
    if isSpaceOrTab c then ' ' :: innerPieces steps (rest.dropWhile isBlank)
    else if c = '"' then '"' :: innerPieces steps rest
    else
      let (piece, left) := quotedRun (c :: rest)
      piece ++ innerPieces steps left

/-- Whether a quoted text can be meant as an extended value: it starts with a charset, which may be
empty, and an apostrophe, or, in a later section, has only characters of an extended value. -/
def isExtendedInside (sectionNumber : Nat) (inner : Text) : Except Stop Bool :=
  if sectionNumber = 0 then
    match inner with
    | '\'' :: _ => .ok true
    | _ => do
      let (_, left) ← orMalformed (run? endsAttribute inner)
      return left.head? = some '\''
  else .ok (!inner.isEmpty && inner.all fun c => !endsExtendedText c)

/-- Reads the value of a parameter of which all up to the value is known. A quoted extended value
leaves `remainder` after its closing mark. -/
def readValue (parameter : TypeParameter) (remainder : Option Text) (t : Text) :
    Except Stop (TypeParameter × Text) := do
  let startsBare := t.head? = some '\''
  let (written, left) ← if startsBare then pure (⟨[], []⟩, t) else takeValue t
  let isInitial := parameter.extended && parameter.sectionNumber = 0
  if !isInitial && left.head? ≠ some '\'' then
    return ({ parameter with value := some written.value }, remainder.getD left)
  else if left.isEmpty then
    return ({ parameter with value := some written.value }, [])
  else
    let parameter := if startsBare then parameter else { parameter with charset := written.spaced }
    let text ← afterLanguage left
    match remainder with
    | some rest =>
      let value := if text.isEmpty then none else some (innerPieces (text.length + 1) text)
      return ({ parameter with value := value }, rest)
    | none =>
      let (written, left) ← takeValue text
      return ({ parameter with value := some written.value }, left)

/-- Reads what follows the equals sign of a parameter. -/
def readAfterEquals (parameter : TypeParameter) (t : Text) : Except Stop (TypeParameter × Text) :=
  let t := afterComments t
  match parameter.extended, t with
  | true, '"' :: rest => do
    let (inner, left) := quotation rest
    if ← isExtendedInside parameter.sectionNumber inner then
      readValue parameter (some (afterComments left)) inner
    else readValue parameter none t
  | _, _ => readValue parameter none t

/-- Reads a parameter. -/
def read (t : Text) : Except Stop (TypeParameter × Text) := do
  let (name, t) ← orMalformed (run? endsAttribute (afterComments t))
  let parameter : TypeParameter := { name := Text.trim name }
  let t := afterComments t
  match t with
  | [] => return (parameter, t)
  | c :: rest =>
    if c = ';' then return (parameter, t)
    else if c = '*' then
      let (number, t) := (← takeSection? t).getD (0, t)
      let parameter := { parameter with sectionNumber := number }
      match t with
      | [] => throw .malformed
      | ['*'] => throw (.broken .endsAfterAsterisk)
      | '*' :: '=' :: t => readAfterEquals { parameter with extended := true } t
      | '=' :: t => readAfterEquals parameter t
      | _ => throw .malformed
    else if c = '=' then readAfterEquals parameter rest
    else throw .malformed

/-- Reads the parameters of a header, in at most `steps` pieces. -/
def readAllIn (steps : Nat) (t : Text) : Except TypeFault (List TypeParameter) :=
  match steps, t with
  | 0, _ => .ok []
  | _, [] => .ok []
  | steps + 1, t => do
    let (found, left) ←
      match read t with
      | .ok (parameter, left) => pure ([parameter], left)
      | .error .malformed => pure ([], afterComments t)
      | .error (.broken fault) => throw fault
    let rest ← readAllIn steps ((junk left).2.drop 1)
    return found ++ rest

/-- Reads the parameters of a header. -/
def readAll (t : Text) : Except TypeFault (List TypeParameter) := readAllIn (t.length + 1) t

/-- A text with its percent codes replaced by the first 256 characters. -/
def decodeAsLatin1 : Text → Text
  | [] => []
  | '%' :: h :: l :: rest =>
    match hexPair? h.toNat l.toNat with
    | some n => Char.ofNat n :: decodeAsLatin1 rest
    | none => '%' :: decodeAsLatin1 (h :: l :: rest)
  | c :: rest => c :: decodeAsLatin1 rest

/-- An extended value with its percent codes replaced. If octets are held in it, the codes stand for
the first 256 characters, and otherwise for octets in the charset. -/
def decode (charset value : Text) : Except TypeFault Text :=
  if Held.occursIn value then .ok (decodeAsLatin1 value)
  else (decodeHeld charset (Percent.decode value)).mapError .charset

/-- The value that a parameter states, decoded in a charset if it is in extended form. -/
def meaning (charset : Text) (parameter : TypeParameter) : Except TypeFault Text :=
  match parameter.value with
  | none => .error .emptyQuotedValue
  | some value => if parameter.extended then decode charset value else .ok value

/-- The sections of a parameter that count: those that come in order, and extended ones. -/
def counting (next : Nat) : List TypeParameter → List TypeParameter
  | [] => []
  | parameter :: rest =>
    if parameter.sectionNumber ≠ next && !parameter.extended then counting next rest
    else parameter :: counting (next + 1) rest

/-- The value of all parameters of one name. Of several that are neither extended nor in sections
the first counts. -/
def joined (parameters : List TypeParameter) : Except TypeFault Text := do
  let sorted := parameters.mergeSort fun a b => a.sectionNumber ≤ b.sectionNumber
  match sorted with
  | [] => return []
  | first :: rest =>
    let sorted :=
      match first.extended, rest with
      | false, second :: _ => if second.sectionNumber = 0 then [first] else sorted
      | _, _ => sorted
    let values ← (counting 0 sorted).mapM (meaning first.charset)
    return values.flatten

/-- The names of parameters in the order in which they first come. -/
def names (parameters : List TypeParameter) : List Text :=
  parameters.foldl
    (fun known parameter =>
      if known.contains parameter.name then known else known ++ [parameter.name])
    []

/-- A name with its value as it is shown. -/
def showValue (name value : Text) : Text :=
  if value.isEmpty then name else name ++ '=' :: showQuoted value

/-- Parameters as they are shown: one after the other with their values quoted. -/
def showAll (parameters : List TypeParameter) : Except TypeFault Text := do
  let pieces ← (names parameters).mapM fun name => do
    let value ← joined (parameters.filter (·.name = name))
    return showValue name value
  return if pieces.isEmpty then [] else ' ' :: List.intercalate "; ".toList pieces

end TypeParameter
end MailScreen
