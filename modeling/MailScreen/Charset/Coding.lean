import MailScreen.Charset.Registry
import MailScreen.Charset.SingleByte
import MailScreen.Charset.Utf8
import MailScreen.Charset.Utf7
import MailScreen.Charset.Escape
import MailScreen.Charset.Punycode

/-!
# Coding

Reading and writing text in a charset that the input names. Octets that are not well formed become
replacement characters and characters that a charset does not have become question marks, so almost
every charset reads and writes everything. What still fails is using a name that stands for no
charset, the two reserved ones, and an octet that punycode has no place for.
-/
namespace MailScreen

/-- Why a text cannot be read or written in a named charset. -/
inductive CharsetFault where
  /-- The name has a NUL in it. -/
  | nulInName
  /-- No charset has the name. -/
  | unknown (label : Text)
  /-- The name stands for a transformation of octets. -/
  | notText (label : Text)
  /-- The charset refuses to read or write under this label, for the reason given. -/
  | refused (label : Text) (reading : Bool) (reason : String)
  /-- An octet outside ASCII at a place where only ASCII is read. -/
  | notAscii (byte : UInt8) (place : Nat)
  deriving DecidableEq, Repr

/-- The wording of a charset fault. -/
def CharsetFault.message : CharsetFault → String
  | nulInName => "embedded null character"
  | unknown label => s!"unknown encoding: {String.ofList label}"
  | notText label =>
    s!"'{String.ofList (label.take 400)}' is not a text encoding; use codecs.decode() to handle " ++
      "arbitrary codecs"
  | refused label true reason =>
    s!"decoding with '{String.ofList label}' codec failed (UnicodeError: {reason})"
  | refused label false reason =>
    s!"encoding with '{String.ofList label}' codec failed (UnicodeError: {reason})"
  | notAscii byte place =>
    s!"'ascii' codec can't decode byte 0x{String.ofList (hexDigits 2 byte.toNat)} in position " ++
      s!"{place}: ordinal not in range(128)"

namespace Charset

/-- The octets of a text whose code points below `bound` are an octet each. -/
def encodeBelow (bound : Nat) (t : Text) : Octets :=
  t.map fun c => if c.toNat < bound then octet c.toNat else 0x3F

/-- The text that octets encode in a charset that messages call `label`. -/
def decode (label : Text) (charset : Charset) (bytes : Octets) : Except CharsetFault Text :=
  if bytes.isEmpty then .ok []
  else
    match charset with
    | ascii => .ok (bytes.map fun b => if b < 0x80 then Char.ofNat b.toNat else replacementChar)
    | latin1 => .ok (Octets.toLatin1 bytes)
    | utf8 => .ok (Utf8.decode bytes)
    | signedUtf8 => .ok (Utf8.decode (Utf8.dropSignature bytes))
    | utf16 order => .ok (Utf16.decode order bytes)
    | utf32 order => .ok (Utf32.decode order bytes)
    | utf7 => .ok (Utf7.decode bytes)
    | punycode => (Punycode.decode bytes).mapError fun (byte, place) => .notAscii byte place
    | escaped => .ok (Escape.decode bytes)
    | rawEscaped => .ok (Escape.decodeRaw bytes)
    | singleByte characters => .ok (CharsetTable.decode characters bytes)
    | eastAsian charset => .ok (charset.decode bytes)
    | domainLabels => .error (.refused label true "Unsupported error handling replace")
    | undefined => .error (.refused label true "undefined encoding")
    | transform => .error (.notText label)

/-- The octets of a text in a charset that messages call `label`. -/
def encode (label : Text) (charset : Charset) (t : Text) : Except CharsetFault Octets :=
  match charset with
  | ascii => .ok (encodeBelow 0x80 t)
  | latin1 => .ok (encodeBelow 0x100 t)
  | utf8 => .ok (Utf8.encode t)
  | signedUtf8 => .ok (Utf8.signature ++ Utf8.encode t)
  | utf16 order => .ok (Utf16.encode order t)
  | utf32 order => .ok (Utf32.encode order t)
  | utf7 => .ok (Utf7.encode t)
  | punycode => .ok (Punycode.encode t)
  | escaped => .ok (Escape.encode t)
  | rawEscaped => .ok (Escape.encodeRaw t)
  | singleByte characters => .ok (CharsetTable.encode characters t)
  | eastAsian charset => .ok (charset.encode t)
  | domainLabels => .error (.refused label false "unsupported error handling replace")
  | undefined => .error (.refused label false "undefined encoding")
  | transform => .error (.notText label)

end Charset

/-- The text that octets encode in the charset that `label` names. -/
def decodeNamed (label : Text) (bytes : Octets) : Except CharsetFault Text :=
  if label.contains '\x00' then .error .nulInName
  else if bytes.isEmpty then .ok []
  else
    match findCharset? label with
    | none => .error (.unknown label)
    | some entry => entry.charset.decode label bytes

end MailScreen
