import MailScreen.Text.Basic

/-!
# Octets

What a charset decodes is a list of octets. This module holds the character that stands for octets
that could not be read, and the reading and writing of octets as code points below 256.
-/
namespace MailScreen

/-- A list of octets. -/
abbrev Octets := List UInt8

/-- Stands in a decoded text for octets that are not well formed. -/
def replacementChar : Char := '\uFFFD'

/-- The character with a code point, and the replacement character where there is none. -/
def charOfCode (n : Nat) : Char := if n.isValidChar then Char.ofNat n else replacementChar

/-- The octet with a value below 256. -/
def octet (n : Nat) : UInt8 := UInt8.ofNat n

/-- The value of a hexadecimal digit given by its code. -/
def hexDigit? (n : Nat) : Option Nat :=
  if 0x30 ≤ n && n ≤ 0x39 then some (n - 0x30)
  else if 0x41 ≤ n && n ≤ 0x46 then some (n - 0x41 + 10)
  else if 0x61 ≤ n && n ≤ 0x66 then some (n - 0x61 + 10)
  else none

/-- The value below 256 of two hexadecimal digits given by their codes. -/
def hexPair? (high low : Nat) : Option Nat :=
  match hexDigit? high, hexDigit? low with
  | some h, some l => some (h * 16 + l)
  | _, _ => none

namespace Octets

/-- The octets of a text of ASCII characters. -/
def ofAscii (t : Text) : Octets := t.map fun c => octet c.toNat

/-- Each octet as the character of the same number. -/
def toLatin1 (bytes : Octets) : Text := bytes.map fun b => Char.ofNat b.toNat

end Octets
end MailScreen
