import MailScreen.Charset.Utf8

/-!
# Percent encoding

A percent sign and two hexadecimal digits stand for an octet. A percent sign without two digits
after it stands for itself, and a character outside ASCII for the octets of its UTF-8 form.
-/
namespace MailScreen.Percent

/-- The octets that percent-encoded octets stand for. -/
def decodeOctets : Octets → Octets
  | [] => []
  | 0x25 :: h :: l :: rest =>
    match hexPair? h.toNat l.toNat with
    | some n => octet n :: decodeOctets rest
    | none => 0x25 :: decodeOctets (h :: l :: rest)
  | b :: rest => b :: decodeOctets rest

/-- The octets that a percent-encoded text stands for. -/
def decode (t : Text) : Octets := decodeOctets (Utf8.encode t)

/-- The character of a hexadecimal digit, in upper case. -/
def hexChar (n : Nat) : Char := (Nat.digitChar n).toUpper

/-- An octet as a percent sign and two digits. -/
def encodeOctet (b : UInt8) : Text := ['%', hexChar (b.toNat / 16), hexChar (b.toNat % 16)]

end MailScreen.Percent
