import MailScreen.Charset.Bytes
import MailScreen.Text.Quoted
import MailScreen.Text.CharacterName

/-!
# Escaped text

Two charsets that write characters as escapes after a backslash. In the raw one only `\u` and `\U`
are escapes and every other octet is a character; in the full one the control characters, octal and
hexadecimal codes and character names have escapes too. An escape that is cut short or out of range
decodes to one replacement character, and what stopped it is read on its own.
-/
namespace MailScreen.Escape

/-- Reads up to `count` hexadecimal digits: their value, or `none` if there are fewer, and what is
left after those that were there. -/
def readHex (count value : Nat) (bytes : Octets) : Option Nat × Octets :=
  match count, bytes with
  | 0, _ => (some value, bytes)
  | _ + 1, [] => (none, [])
  | count + 1, b :: rest =>
    match hexDigit? b.toNat with
    | some v => readHex count (value * 16 + v) rest
    | none => (none, b :: rest)

/-- The character of an escape by code, and the replacement character for a code out of range. -/
def readCode (count : Nat) (bytes : Octets) : Text × Octets :=
  match readHex count 0 bytes with
  | (some n, rest) => ([charOfCode n], rest)
  | (none, rest) => ([replacementChar], rest)

/-- Reads up to two more octal digits after a first one. -/
def readOctal (value : Nat) : Octets → Nat × Octets
  | a :: b :: rest =>
    if isOctal a then
      if isOctal b then (value * 64 + digit a * 8 + digit b, rest)
      else (value * 8 + digit a, b :: rest)
    else (value, a :: b :: rest)
  | [a] => if isOctal a then (value * 8 + digit a, []) else (value, [a])
  | [] => (value, [])
where
  /-- Whether an octet is that of an octal digit. -/
  isOctal (b : UInt8) : Bool := 0x30 ≤ b && b ≤ 0x37
  /-- The value of an octal digit. -/
  digit (b : UInt8) : Nat := b.toNat - 0x30

/-- Reads an escape by character name after its letter. -/
def readName (bytes : Octets) : Text × Octets :=
  match bytes with
  | 0x7B :: body =>
    let name := body.takeWhile (· ≠ 0x7D)
    match body.dropWhile (· ≠ 0x7D) with
    | [] => ([replacementChar], [])
    | close :: rest =>
      if name.isEmpty then ([replacementChar], close :: rest)
      else
        match characterNamed? (Octets.toLatin1 name) with
        | some c => ([c], rest)
        | none => ([replacementChar], rest)
  | _ => ([replacementChar], bytes)

/-- The character of an escape of one letter. -/
def simple? (n : Nat) : Option Char :=
  if n = 0x5C then some '\\'
  else if n = 0x27 then some '\''
  else if n = 0x22 then some '"'
  else if n = 0x61 then some '\x07'
  else if n = 0x62 then some '\x08'
  else if n = 0x66 then some '\x0C'
  else if n = 0x6E then some '\n'
  else if n = 0x72 then some '\r'
  else if n = 0x74 then some '\t'
  else if n = 0x76 then some '\x0B'
  else none

/-- Reads what follows a backslash in fully escaped text. -/
def readEscape : Octets → Text × Octets
  | [] => ([replacementChar], [])
  | b :: rest =>
    let n := b.toNat
    if n = 0x0A then ([], rest)
    else if n = 0x78 then readCode 2 rest
    else if n = 0x75 then readCode 4 rest
    else if n = 0x55 then readCode 8 rest
    else if n = 0x4E then readName rest
    else if 0x30 ≤ n && n ≤ 0x37 then
      let (value, rest) := readOctal (n - 0x30) rest
      ([Char.ofNat value], rest)
    else
      match simple? n with
      | some c => ([c], rest)
      | none => (['\\', Char.ofNat n], rest)

/-- Decodes fully escaped text in at most `fuel` steps, each of which takes at least one octet. -/
def decodeSteps (fuel : Nat) (bytes : Octets) : Text :=
  match fuel, bytes with
  | 0, _ => []
  | _, [] => []
  | fuel + 1, b :: rest =>
    if b = 0x5C then
      let (text, rest) := readEscape rest
      text ++ decodeSteps fuel rest
    else Char.ofNat b.toNat :: decodeSteps fuel rest

/-- The text that fully escaped octets encode. -/
def decode (bytes : Octets) : Text := decodeSteps bytes.length bytes

/-- Decodes raw escaped text in at most `fuel` steps, each of which takes at least one octet. -/
def decodeRawSteps (fuel : Nat) (bytes : Octets) : Text :=
  match fuel, bytes with
  | 0, _ => []
  | _, [] => []
  | fuel + 1, 0x5C :: b :: rest =>
    if b = 0x75 || b = 0x55 then
      let (text, rest) := readCode (if b = 0x75 then 4 else 8) rest
      text ++ decodeRawSteps fuel rest
    else '\\' :: Char.ofNat b.toNat :: decodeRawSteps fuel rest
  | fuel + 1, b :: rest => Char.ofNat b.toNat :: decodeRawSteps fuel rest

/-- The text that raw escaped octets encode. -/
def decodeRaw (bytes : Octets) : Text := decodeRawSteps bytes.length bytes

/-- The fully escaped form of a character. -/
def encodeChar (c : Char) : Text :=
  if c = '\\' then ['\\', '\\']
  else if c = '\n' then ['\\', 'n']
  else if c = '\r' then ['\\', 'r']
  else if c = '\t' then ['\\', 't']
  else if 0x20 ≤ c.toNat && c.toNat < 0x7F then [c]
  else escapeByCode c

/-- The fully escaped octets of a text. -/
def encode (t : Text) : Octets := Octets.ofAscii (t.flatMap encodeChar)

/-- The raw escaped octets of a text. -/
def encodeRaw (t : Text) : Octets :=
  t.flatMap fun c =>
    if c.toNat < 0x100 then [octet c.toNat] else Octets.ofAscii (escapeByCode c)

end MailScreen.Escape
