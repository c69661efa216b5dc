import MailScreen.Charset.Grid

/-!
# Codecs

A charset that writes some characters as several octets is given by what it makes of the octets, or
of the characters, that come next, and by a state if that depends on what came before. One loop
reads and one loop writes. Octets that are not well formed are read as one replacement character for
each piece that is refused, and a character that cannot be written is written as a question mark.
-/
namespace MailScreen

/-- What is made of the octets at the start of a list that is not empty. Counts are of the octets
after the first. -/
inductive OctetReading (σ : Type) where
  /-- A text, of the first octet and `more` others, with the state after it. -/
  | text (text : Text) (more : Nat) (state : σ)
  /-- The first octet and `more` others are ill-formed. -/
  | illFormed (more : Nat)
  /-- The octets end too early. -/
  | cutShort

/-- What a character is written as. -/
structure OctetWriting (σ : Type) where
  /-- The octets. -/
  octets : Octets
  /-- How many of the characters after the first are written with it. -/
  more : Nat := 0
  /-- The state after it. -/
  state : σ

/-- A charset that reads and writes under a state. -/
structure Codec (σ : Type) where
  /-- The state at the start. -/
  start : σ
  /-- Reads what comes next: an octet and the octets after it. -/
  read : σ → UInt8 → Octets → OctetReading σ
  /-- Writes what comes next: a character, given the characters after it. -/
  write : σ → Char → Text → Option (OctetWriting σ)
  /-- What is written at the end of a text. -/
  finish : σ → Octets := fun _ => []

namespace Codec

variable {σ : Type}

/-- Reads octets in a state. -/
def decodeIn (codec : Codec σ) (state : σ) (bytes : Octets) : Text :=
  match bytes with
  | [] => []
  | b :: rest =>
    match codec.read state b rest with
    | .text text more next => text ++ decodeIn codec next (rest.drop more)
    | .illFormed more => replacementChar :: decodeIn codec state (rest.drop more)
    | .cutShort => [replacementChar]
termination_by bytes.length
decreasing_by all_goals simp only [List.length_drop, List.length_cons]; omega

/-- The text that octets encode. -/
def decode (codec : Codec σ) (bytes : Octets) : Text := codec.decodeIn codec.start bytes

/-- Writes a question mark in a state. -/
def writeUnknown (codec : Codec σ) (state : σ) : OctetWriting σ :=
  match codec.write state '?' [] with
  | some written => { written with more := 0 }
  | none => { octets := [0x3F], state := state }

/-- Writes a text in a state. -/
def encodeIn (codec : Codec σ) (state : σ) (t : Text) : Octets :=
  match t with
  | [] => codec.finish state
  | c :: rest =>
    let written := (codec.write state c rest).getD (codec.writeUnknown state)
    written.octets ++ encodeIn codec written.state (rest.drop written.more)
termination_by t.length
decreasing_by simp only [List.length_drop, List.length_cons]; omega

/-- The octets of a text. -/
def encode (codec : Codec σ) (t : Text) : Octets := codec.encodeIn codec.start t

@[simp] theorem decode_nil (codec : Codec σ) : codec.decode [] = [] := by
  simp [decode, decodeIn]

@[simp] theorem encode_nil (codec : Codec σ) : codec.encode [] = codec.finish codec.start := by
  simp [encode, encodeIn]

end Codec

/-- A code of two octets as a number, the first octet counting 256. -/
abbrev PairCode := Nat

/-- The octets of a code of two octets. -/
def PairCode.octets (code : PairCode) : Octets := [octet (code / 256), octet (code % 256)]

/-- A charset without states in which a character takes one octet or two. -/
structure PairCharset where
  /-- The character of one octet. -/
  single? : Nat → Option Char
  /-- The character of two octets. -/
  pair? : Nat → Nat → Option Char
  /-- The octets of a character. -/
  octets? : Char → Option Octets
  /-- The codes of two octets that stand for two characters. -/
  composed : List (PairCode × Char × Char) := []
  /-- The codes of two octets that are refused as a whole, and not by their first octet only. -/
  refused : List PairCode := []

namespace PairCharset

/-- Reads what comes next. -/
def read (charset : PairCharset) (b : UInt8) (rest : Octets) : OctetReading Unit :=
  match charset.single? b.toNat with
  | some c => .text [c] 0 ()
  | none =>
    match rest with
    | [] => .cutShort
    | second :: _ =>
      let code := b.toNat * 256 + second.toNat
      match charset.composed.find? (·.1 = code) with
      | some (_, c, d) => .text [c, d] 1 ()
      | none =>
        match charset.pair? b.toNat second.toNat with
        | some c => .text [c] 1 ()
        | none => .illFormed (if charset.refused.contains code then 1 else 0)

/-- The code of the first two characters of a text, if they have one together. -/
def composedCode? (charset : PairCharset) (c : Char) (rest : Text) : Option PairCode :=
  match rest with
  | [] => none
  | d :: _ => (charset.composed.find? fun entry => entry.2.1 = c && entry.2.2 = d).map (·.1)

/-- Writes what comes next. -/
def write (charset : PairCharset) (c : Char) (rest : Text) : Option (OctetWriting Unit) :=
  match charset.composedCode? c rest with
  | some code => some { octets := code.octets, more := 1, state := () }
  | none => (charset.octets? c).map fun octets => { octets := octets, state := () }

/-- The codec of a charset. -/
def codec (charset : PairCharset) : Codec Unit where
  start := ()
  read _ := charset.read
  write _ := charset.write

end PairCharset

/-- The ASCII character of an octet. -/
def asciiChar? (n : Nat) : Option Char := if n < 0x80 then some (Char.ofNat n) else none

/-- The octet of an ASCII character. -/
def asciiOctets? (c : Char) : Option Octets :=
  if c.toNat < 0x80 then some [octet c.toNat] else none

namespace CharGrid

/-- The character with a code of two numbers, in a grid of 94 columns that are numbered from 33. -/
def coded? (grid : CharGrid) (row column : Nat) : Option Char :=
  if 0x21 ≤ column && column ≤ 0x7E then grid.char? row (column - 0x21) else none

/-- The code of a character in a grid of 94 columns. -/
def code? (grid : CharGrid) (c : Char) : Option PairCode :=
  (grid.place? c).map fun (row, column) => row * 256 + (column + 0x21)

/-- The character with a code of two octets that have their high bits set. -/
def highCoded? (grid : CharGrid) (first second : Nat) : Option Char :=
  if 0x80 ≤ first && 0x80 ≤ second then grid.coded? (first - 0x80) (second - 0x80) else none

/-- The two octets of a character, with their high bits set. -/
def highOctets? (grid : CharGrid) (c : Char) : Option Octets :=
  (grid.code? c).map fun code => PairCode.octets (code + 0x8080)

end CharGrid
end MailScreen
