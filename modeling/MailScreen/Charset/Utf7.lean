import MailScreen.Charset.Base64
import MailScreen.Charset.Wide

/-!
# UTF-7

ASCII characters stand for themselves; other text is written in shifted sequences, which hold UTF-16
units in unpadded base 64 between a plus sign and the first character that is not of the alphabet. A
hyphen that ends a sequence is dropped. A malformed stretch decodes to one replacement character.
-/
namespace MailScreen.Utf7

/-- The state inside a shifted sequence. -/
structure Shift where
  /-- How many bits wait for the next unit. -/
  bits : Nat
  /-- The number that those bits make. -/
  buffer : Nat
  /-- The first unit of a surrogate pair whose second one has not come yet. -/
  high : Option Nat

/-- The state at the start of a shifted sequence. -/
def Shift.start : Shift := ⟨0, 0, none⟩

/-- Whether a sequence may not end here: a unit, a pair or the zero padding is incomplete. -/
def Shift.unfinished (s : Shift) : Bool :=
  s.bits ≥ 6 || (s.bits > 0 && s.buffer ≠ 0)

/-- The characters that a complete unit adds, and the first half of a pair that it leaves open. -/
def Shift.take (high : Option Nat) (unit : Nat) : Text × Option Nat :=
  match high with
  | some h =>
    if Utf16.isLow unit then ([charOfCode (Utf16.join h unit)], none)
    else if Utf16.isHigh unit then ([replacementChar], some unit)
    else ([replacementChar, charOfCode unit], none)
  | none => if Utf16.isHigh unit then ([], some unit) else ([charOfCode unit], none)

/-- The characters that six more bits add, and the state after them. -/
def Shift.push (s : Shift) (v : Nat) : Text × Shift :=
  let buffer := s.buffer * 64 + v
  let bits := s.bits + 6
  if bits ≥ 16 then
    let (text, high) := Shift.take s.high (buffer / Nat.pow 2 (bits - 16))
    (text, ⟨bits - 16, buffer % Nat.pow 2 (bits - 16), high⟩)
  else ([], ⟨bits, buffer, s.high⟩)

/-- What stands before the next octet. -/
inductive Mode where
  /-- Text that stands for itself. -/
  | plain
  /-- A plus sign. -/
  | plus
  /-- A shifted sequence. -/
  | shifted (s : Shift)

/-- Decodes an octet outside shifted sequences. -/
def plainStep (n : Nat) : Text × Mode :=
  if n = 0x2B then ([], .plus)
  else if n < 0x80 then ([Char.ofNat n], .plain)
  else ([replacementChar], .plain)

/-- Decodes an octet that ends a shifted sequence. -/
def leaveStep (s : Shift) (n : Nat) : Text × Mode :=
  if s.unfinished then ([replacementChar], .plain)
  else
    let pending := if s.high.isSome && n < 0x80 && n ≠ 0x2B then [replacementChar] else []
    if n = 0x2D then (pending, .plain)
    else
      let (text, mode) := plainStep n
      (pending ++ text, mode)

/-- Decodes one octet. -/
def step (mode : Mode) (n : Nat) : Text × Mode :=
  match mode with
  | .plain => plainStep n
  | .plus =>
    if n = 0x2D then (['+'], .plain)
    else
      match Base64.value? n with
      | some v =>
        let (text, s) := Shift.start.push v
        (text, .shifted s)
      | none => ([replacementChar], .plain)
  | .shifted s =>
    match Base64.value? n with
    | some v =>
      let (text, s) := s.push v
      (text, .shifted s)
    | none => leaveStep s n

/-- The text that octets encode after what is given. -/
def decodeFrom (mode : Mode) : Octets → Text
  | [] =>
    match mode with
    | .shifted s => if s.high.isSome || s.unfinished then [replacementChar] else []
    | _ => []
  | b :: rest =>
    let (text, mode) := step mode b.toNat
    text ++ decodeFrom mode rest

/-- The text that octets encode. -/
def decode (bytes : Octets) : Text := decodeFrom .plain bytes

/-- The characters that are written as themselves. -/
def isDirect (n : Nat) : Bool :=
  n = 9 || n = 10 || n = 13 || (0x20 ≤ n && n ≤ 0x7D && n ≠ 0x2B && n ≠ 0x5C)

/-- Writes out groups of six bits as long as there are any. -/
def flush (bits buffer : Nat) : Octets × Nat × Nat :=
  if bits ≥ 6 then
    let group := buffer / Nat.pow 2 (bits - 6) % 64
    let (bytes, rest) := flush (bits - 6) (buffer % Nat.pow 2 (bits - 6))
    (octet (Base64.code group) :: bytes, rest)
  else ([], bits, buffer)

/-- The last characters of a shifted sequence. -/
def padding (bits buffer : Nat) : Octets :=
  if bits = 0 then [] else [octet (Base64.code (buffer * Nat.pow 2 (6 - bits) % 64))]

/-- The shifted form of a character after bits that wait, and the bits that wait after it. -/
def shiftChar (bits buffer : Nat) (c : Char) : Octets × Nat × Nat :=
  (Utf16.units c).foldl
    (fun (bytes, bits, buffer) unit =>
      let (more, bits, buffer) := flush (bits + 16) (buffer * 65536 + unit)
      (bytes ++ more, bits, buffer))
    ([], bits, buffer)

/-- The octets of a text outside (`none`) or inside a shifted sequence with waiting bits. -/
def encodeFrom (waiting : Option (Nat × Nat)) : Text → Octets
  | [] =>
    match waiting with
    | none => []
    | some (bits, buffer) => padding bits buffer ++ [0x2D]
  | c :: rest =>
    let n := c.toNat
    match waiting with
    | some (bits, buffer) =>
      if isDirect n then
        padding bits buffer ++
          (if (Base64.value? n).isSome || n = 0x2D then [0x2D, octet n] else [octet n]) ++
          encodeFrom none rest
      else
        let (bytes, bits, buffer) := shiftChar bits buffer c
        bytes ++ encodeFrom (some (bits, buffer)) rest
    | none =>
      if n = 0x2B then 0x2B :: 0x2D :: encodeFrom none rest
      else if isDirect n then octet n :: encodeFrom none rest
      else
        let (bytes, bits, buffer) := shiftChar 0 0 c
        0x2B :: bytes ++ encodeFrom (some (bits, buffer)) rest

/-- The octets of a text. -/
def encode (t : Text) : Octets := encodeFrom none t

end MailScreen.Utf7
