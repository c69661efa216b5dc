import MailScreen.Charset.Bytes

/-!
# Base 64

Six bits to a character. The reader passes over characters that are not of the alphabet, and ends at
a padding sign that completes a group of four. A group that is neither complete nor padded is an
error.
-/
namespace MailScreen.Base64

/-- The value of a character of the alphabet, given by its code. -/
def value? (n : Nat) : Option Nat :=
  if 0x41 ≤ n && n ≤ 0x5A then some (n - 0x41)
  else if 0x61 ≤ n && n ≤ 0x7A then some (n - 0x61 + 26)
  else if 0x30 ≤ n && n ≤ 0x39 then some (n - 0x30 + 52)
  else if n = 0x2B then some 62
  else if n = 0x2F then some 63
  else none

/-- The code of the character of the alphabet with a value below 64. -/
def code (v : Nat) : Nat :=
  if v < 26 then v + 0x41
  else if v < 52 then v - 26 + 0x61
  else if v < 62 then v - 52 + 0x30
  else if v = 62 then 0x2B
  else 0x2F

/-- Reads the rest of an encoded text: `place` characters of the current group have been read,
`left` is what their octets did not use up, and `pads` counts the padding signs since the last of
them. -/
def decodeFrom (place left pads : Nat) : Octets → Option Octets
  | [] => if place = 0 then some [] else none
  | b :: rest =>
    if b = 0x3D then
      if place ≥ 2 then
        if place + pads + 1 ≥ 4 then some [] else decodeFrom place left (pads + 1) rest
      else decodeFrom place left pads rest
    else
      match value? b.toNat with
      | none => decodeFrom place left pads rest
      | some v =>
        match place with
        | 0 => decodeFrom 1 v 0 rest
        | 1 => (decodeFrom 2 (v % 16) 0 rest).map (octet (left * 4 + v / 16) :: ·)
        | 2 => (decodeFrom 3 (v % 4) 0 rest).map (octet (left * 16 + v / 4) :: ·)
        | _ => (decodeFrom 0 0 0 rest).map (octet (left * 64 + v) :: ·)

/-- The octets that a text in base 64 encodes. -/
def decode? (bytes : Octets) : Option Octets := decodeFrom 0 0 0 bytes

/-- The characters of a list of octets, padded to a multiple of four. -/
def encode : Octets → Text
  | [] => []
  | [a] => [char (a.toNat / 4), char (a.toNat % 4 * 16), '=', '=']
  | [a, b] =>
    [char (a.toNat / 4), char (a.toNat % 4 * 16 + b.toNat / 16), char (b.toNat % 16 * 4), '=']
  | a :: b :: c :: rest =>
    char (a.toNat / 4) :: char (a.toNat % 4 * 16 + b.toNat / 16) ::
      char (b.toNat % 16 * 4 + c.toNat / 64) :: char (c.toNat % 64) :: encode rest
where
  /-- The character of the alphabet with a value below 64. -/
  char (v : Nat) : Char := Char.ofNat (code v)

end MailScreen.Base64
