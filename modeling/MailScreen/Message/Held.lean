import MailScreen.Charset.Utf8

/-!
# Octets held in text

A message arrives as octets, and its charset is not known before its headers have been read. An
octet outside ASCII is therefore held in the text as one of the last 128 characters of the last
private plane: it is neither a blank nor a letter, matches nothing that is written, and can be given
back. A header value in which octets are held is read as UTF-8 if it is well formed, and otherwise
octet by octet.

**Texts that have one of these characters of their own, U+10FF80 to U+10FFFF, are left out**: the
character would be taken for the octet that it can hold. Such a text cannot come from octets, where
the UTF-8 of the character is held octet by octet, but it can be in what is given as text, such as
the headers of an Outlook message. What is said here of the values of headers that are given as
text is said of texts without these characters.
-/
namespace MailScreen.Held

/-- The code point from which octets are counted. -/
def base : Nat := 0x10FF00

/-- The character that an octet is held as. -/
def ofOctet (b : UInt8) : Char :=
  if b < 0x80 then Char.ofNat b.toNat else Char.ofNat (base + b.toNat)

/-- The octet that a character holds, if it holds one. -/
def octet? (c : Char) : Option UInt8 :=
  if base + 0x80 ≤ c.toNat then some (octet (c.toNat - base)) else none

/-- The text in which octets are held. -/
def ofOctets (bytes : Octets) : Text := bytes.map ofOctet

/-- The octets of a text: those that are held, and those of the other characters in UTF-8. -/
def toOctets (t : Text) : Octets :=
  t.flatMap fun c =>
    match octet? c with
    | some b => [b]
    | none => Utf8.encodeChar c

/-- Whether octets are held in a text. -/
def occursIn (t : Text) : Bool := t.any fun c => (octet? c).isSome

/-- A text with its held octets read, as UTF-8 if all of it is well formed and otherwise octet by
octet. Characters of the text that could hold an octet are taken to hold one. -/
def recover (t : Text) : Text :=
  if occursIn t then
    let bytes := toOctets t
    (Utf8.decode? bytes).getD (Octets.toLatin1 bytes)
  else t

/-- A text with its held octets read as UTF-8, ill-formed pieces replaced. -/
def settle (t : Text) : Text := if occursIn t then Utf8.decode (toOctets t) else t

end MailScreen.Held
