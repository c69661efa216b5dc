import MailScreen.Charset.Chinese
import MailScreen.Charset.Japanese
import MailScreen.Charset.Korean
import MailScreen.Charset.SingleByte
import MailScreen.Charset.Table.Iso

/-!
# ISO 2022

Charsets in ASCII octets that switch between character sets by escape sequences. A sequence that
designates a set puts it at one of three places: the first is in use unless the shift is on, the
second while it is on, and the third serves for one character after its own escape. After any other
escape, what comes up to the next capital letter or at sign is read as it is.
-/
namespace MailScreen.Iso2022

open CharsetTable

/-- A character set that can be designated. -/
inductive CodedSet where
  /-- ASCII. -/
  | ascii
  /-- The Japanese form of ASCII. -/
  | roman
  /-- Half-width katakana. -/
  | katakana
  /-- JIS X 0208. -/
  | jisX0208
  /-- JIS X 0208 under its first designation. -/
  | jisX0208First
  /-- JIS X 0212. -/
  | jisX0212
  /-- The first plane of JIS X 0213. -/
  | jisX0213First (edition : Japanese.Edition)
  /-- The second plane of JIS X 0213. -/
  | jisX0213Second (edition : Japanese.Edition)
  /-- GB 2312. -/
  | gb2312
  /-- KS X 1001. -/
  | ksX1001
  /-- The upper half of Latin 1. -/
  | latin1
  /-- The upper half of the Latin and Greek set. -/
  | greek
  deriving DecidableEq, Repr

namespace CodedSet

/-- Whether the characters of a set take two octets. -/
def isPaired : CodedSet → Bool
  | ascii | roman | katakana | latin1 | greek => false
  | _ => true

/-- The last octet of the sequences that designate a set. -/
def mark : CodedSet → UInt8
  | ascii => 0x42
  | roman => 0x4A
  | katakana => 0x49
  | jisX0208 => 0x42
  | jisX0208First => 0x40
  | jisX0212 => 0x44
  | jisX0213First .first => 0x4F
  | jisX0213First .second => 0x51
  | jisX0213Second _ => 0x50
  | gb2312 => 0x41
  | ksX1001 => 0x43
  | latin1 => 0x41
  | greek => 0x46

/-- The character of one octet. -/
def single? (set : CodedSet) (n : Nat) : Option Char :=
  match set with
  | ascii => asciiChar? n
  | roman => Japanese.romanChar? n
  | katakana => if n < 0x80 then Japanese.katakana? (n + 0x80) else none
  | _ => none

/-- The character of two octets. -/
def pair? (set : CodedSet) (first second : Nat) : Option Char :=
  match set with
  | jisX0208 | jisX0208First => CharsetTable.jisX0208.coded? first second
  | jisX0212 => CharsetTable.jisX0212.coded? first second
  | jisX0213First edition =>
    if first * 256 + second = 0x2232 then some '~' else edition.firstPlane? first second
  | jisX0213Second _ => CharsetTable.jisX0213Second.coded? first second
  | gb2312 => CharsetTable.gb2312.coded? first second
  | ksX1001 => CharsetTable.ksX1001.coded? first second
  | _ => none

/-- The code of a character, in a set whose characters take one octet or two. -/
def code? (set : CodedSet) (c : Char) : Option PairCode :=
  match set with
  | roman => (Japanese.romanOctet? c).map UInt8.toNat
  | katakana => (Japanese.katakanaOctet? c).map fun b => b.toNat - 0x80
  | jisX0208 | jisX0208First => CharsetTable.jisX0208.code? c
  | jisX0212 => CharsetTable.jisX0212.code? c
  | jisX0213First edition => (edition.firstCode? c).filter (· ≠ 0x2232)
  | jisX0213Second edition => edition.secondCode? c
  | gb2312 => CharsetTable.gb2312.code? c
  | ksX1001 => CharsetTable.ksX1001.code? c
  | ascii | latin1 | greek => none

/-- The codes of two octets that stand for two characters. -/
def composed : CodedSet → List (PairCode × Char × Char)
  | jisX0213First _ => jisX0213Pairs
  | _ => []

/-- The octets, high bits flipped, that have no character in the first edition of the Latin and
Greek set but one in a later edition. -/
def greekAdded : List Nat := [0xA4, 0xA5, 0xAA]

/-- The character in the Latin and Greek set of an octet whose high bit is flipped. -/
def greekChar? (n : Nat) : Option Char :=
  let flipped := if n < 0x80 then n + 0x80 else n - 0x80
  let characters := CharsetTable.full iso8859Part7
  if greekAdded.contains flipped then none
  else characters[flipped]?.filter (· ≠ replacementChar)

/-- The character of an octet that follows the escape for one character. -/
def upper? (set : CodedSet) (n : Nat) : Option Char :=
  match set with
  | latin1 => if n < 0x80 then some (Char.ofNat (n + 0x80)) else none
  | greek => greekChar? n
  | _ => asciiChar? n

end CodedSet

/-- A charset that switches between sets. -/
structure Profile where
  /-- The sets that are written, in order of preference, and read. -/
  sets : List CodedSet
  /-- The sets that are only read. -/
  readOnly : List CodedSet := []
  /-- Whether the sets are at the second place and shifts are used. -/
  shifts : Bool := false
  /-- Whether there is a third place. -/
  third : Bool := false

/-- The sets at the three places, and what is being read. -/
structure State where
  /-- The set at the first place. -/
  first : CodedSet := .ascii
  /-- The set at the second place. -/
  second : CodedSet := .ascii
  /-- The set at the third place. -/
  third : CodedSet := .ascii
  /-- Whether the second place is in use. -/
  shifted : Bool := false
  /-- Whether an escape sequence is read as it is. -/
  through : Bool := false
  deriving DecidableEq, Repr

/-- The octet that starts an escape sequence. -/
def escape : UInt8 := 0x1B

/-- Whether an octet ends an escape sequence. -/
def isFinal (b : UInt8) : Bool := 0x40 ≤ b && b ≤ 0x5A

/-- Where an escape sequence ends. -/
inductive SequenceEnd where
  /-- After so many octets, with the escape. -/
  | after (length : Nat)
  /-- The octets end before it. -/
  | cutShort
  /-- It is too long. -/
  | never
  deriving DecidableEq, Repr

/-- The greatest number of octets of an escape sequence after the escape. -/
def maxSequence : Nat := 15

/-- Looks for the end of an escape sequence from a place after the escape on. The at sign in the
mark of a revised set does not end it. -/
def sequenceEnd (revised : Bool) (bytes : Octets) (place : Nat) : SequenceEnd :=
  if place < maxSequence then
    match bytes[place]? with
    | none => .cutShort
    | some b =>
      if isFinal b then .after (place + 2)
      else if revised && b = 0x26 && bytes[place + 1]? = some 0x40 then
        sequenceEnd revised bytes (place + 3)
      else sequenceEnd revised bytes (place + 1)
  else .never
termination_by maxSequence - place

/-- A place at which a set can be. -/
inductive Place where
  | first
  | second
  | third
  deriving DecidableEq, Repr

namespace Profile

/-- Whether a set of one octet a character, or of two, that has a mark can be designated. -/
def setMarked? (profile : Profile) (paired : Bool) (mark : UInt8) : Option CodedSet :=
  if !paired && mark = CodedSet.ascii.mark then some .ascii
  else (profile.sets ++ profile.readOnly).find? fun set =>
    set.isPaired = paired && set.mark = mark

/-- The place and the set that a sequence designates, without its escape. Two octets and another
escape may stand before the designation of JIS X 0208, as they do for a revised set. -/
def designated? (profile : Profile) (sequence : Octets) : Option (Place × CodedSet) :=
  let at? (place : Place) (paired : Bool) (mark : UInt8) :=
    (profile.setMarked? paired mark).map fun set => (place, set)
  match sequence with
  | [0x24, mark] => at? .first true mark
  | [0x28, mark] => at? .first false mark
  | [0x29, mark] => at? .second false mark
  | [0x2E, mark] => if profile.third then at? .third false mark else none
  | [0x24, 0x28, mark] => at? .first true mark
  | [0x24, 0x29, mark] => at? .second true mark
  | [_, _, 0x1B, 0x24, 0x42] => if profile.shifts then none else some (.first, .jisX0208)
  | _ => none

/-- A state with a set at a place. -/
def put (state : State) : Place × CodedSet → State
  | (.first, set) => { state with first := set }
  | (.second, set) => { state with second := set }
  | (.third, set) => { state with third := set }

/-- Reads a sequence that designates a set, after its escape. -/
def readSequence (profile : Profile) (state : State) (rest : Octets) : OctetReading State :=
  match sequenceEnd (!profile.shifts) rest 0 with
  | .cutShort => .cutShort
  | .never => .illFormed 0
  | .after length =>
    match profile.designated? (rest.take (length - 1)) with
    | some designation => .text [] (length - 1) (put state designation)
    | none => .illFormed (length - 1)

/-- Reads an escape sequence after its escape. -/
def readEscape (profile : Profile) (state : State) (rest : Octets) : OctetReading State :=
  match rest with
  | [] => .cutShort
  | b :: more =>
    if [0x28, 0x29, 0x24, 0x2E, 0x26].contains b then profile.readSequence state rest
    else if profile.third && b = 0x4E then
      match more with
      | [] => .cutShort
      | c :: _ =>
        match state.third.upper? c.toNat with
        | some c => .text [c] 2 state
        | none => .illFormed 2
    else .text [Char.ofNat escape.toNat] 0 { state with through := true }

/-- Reads a character of the set in use. -/
def readCoded (state : State) (b : UInt8) (rest : Octets) : OctetReading State :=
  let set := if state.shifted then state.second else state.first
  if set.isPaired then
    match rest with
    | [] => .cutShort
    | second :: _ =>
      match set.composed.find? (·.1 = b.toNat * 256 + second.toNat) with
      | some (_, c, d) => .text [c, d] 1 state
      | none =>
        match set.pair? b.toNat second.toNat with
        | some c => .text [c] 1 state
        | none => .illFormed 1
  else
    match set.single? b.toNat with
    | some c => .text [c] 0 state
    | none => .illFormed 0

/-- Reads what comes next. -/
def read (profile : Profile) (state : State) (b : UInt8) (rest : Octets) : OctetReading State :=
  let itself : Text := [Char.ofNat b.toNat]
  if state.through then .text itself 0 { state with through := !isFinal b }
  else if b = escape then profile.readEscape state rest
  else if b = 0x0F && profile.shifts then .text [] 0 { state with shifted := false }
  else if b = 0x0E && profile.shifts then .text [] 0 { state with shifted := true }
  else if b = 0x0A then .text itself 0 { state with shifted := false }
  else if b < 0x20 then .text itself 0 state
  else if 0x80 ≤ b then .illFormed 0
  else readCoded state b rest

/-- The first set that has a character, with the octets of the character. -/
def choose? (c : Char) : List CodedSet → Option (CodedSet × Octets)
  | [] => none
  | set :: rest =>
    match set.code? c with
    | some code => some (set, if set.isPaired then code.octets else [octet code])
    | none => choose? c rest

/-- The sequence that puts a set at the first place. -/
def firstDesignation (set : CodedSet) : Octets :=
  if !set.isPaired then [escape, 0x28, set.mark]
  else if set = .jisX0208 then [escape, 0x24, set.mark]
  else [escape, 0x24, 0x28, set.mark]

/-- Writes octets of a set. -/
def writeCoded (profile : Profile) (state : State) (set : CodedSet) (octets : Octets) :
    OctetWriting State :=
  if profile.shifts then
    let designation :=
      if state.second = set then [] else [escape, 0x24, 0x29, set.mark]
    let shift : Octets := if state.shifted then [] else [0x0E]
    { octets := designation ++ shift ++ octets
      state := { state with second := set, shifted := true } }
  else
    let designation := if state.first = set then [] else firstDesignation set
    { octets := designation ++ octets, state := { state with first := set } }

/-- What goes back to ASCII. -/
def leave (state : State) : Octets :=
  let designation := if state.first = .ascii then [] else firstDesignation .ascii
  designation ++ (if state.shifted then [0x0F] else [])

/-- The first set that has a code for two characters together, with the code. -/
def chooseComposed? (c : Char) (rest : Text) (sets : List CodedSet) :
    Option (CodedSet × PairCode) :=
  match rest with
  | [] => none
  | d :: _ =>
    sets.findSome? fun set =>
      (set.composed.find? fun entry => entry.2.1 = c && entry.2.2 = d).map fun entry =>
        (set, entry.1)

/-- Writes what comes next. -/
def write (profile : Profile) (state : State) (c : Char) (rest : Text) :
    Option (OctetWriting State) :=
  if c.toNat < 0x80 then
    some {
      octets := leave state ++ [octet c.toNat]
      state := { state with first := .ascii, shifted := false } }
  else
    match chooseComposed? c rest profile.sets with
    | some (set, code) => some { profile.writeCoded state set code.octets with more := 1 }
    | none =>
      (choose? c profile.sets).map fun (set, octets) => profile.writeCoded state set octets

/-- The codec of a charset. -/
def codec (profile : Profile) : Codec State where
  start := {}
  read := profile.read
  write := profile.write
  finish := leave

end Profile

/-! ## The charsets -/

/-- ISO-2022-KR. -/
def korean : Profile where
  sets := [.ksX1001]
  shifts := true

/-- ISO-2022-JP. -/
def japanese : Profile where
  sets := [.jisX0208, .roman, .jisX0208First]

/-- ISO-2022-JP-1, with the supplementary set. -/
def japanese1 : Profile where
  sets := [.jisX0208, .jisX0212, .roman, .jisX0208First]

/-- ISO-2022-JP-2, with sets of other languages. -/
def japanese2 : Profile where
  sets := [.jisX0208, .jisX0212, .ksX1001, .gb2312, .roman, .jisX0208First]
  readOnly := [.latin1, .greek]
  third := true

/-- ISO-2022-JP with the supplementary set and half-width katakana. -/
def japaneseExtended : Profile where
  sets := [.jisX0208, .jisX0212, .roman, .katakana, .jisX0208First]

/-- ISO-2022-JP with an edition of the extended set. -/
def japaneseEdition (edition : Japanese.Edition) : Profile where
  sets := [.jisX0208, .jisX0213First edition, .jisX0213Second edition]

end MailScreen.Iso2022
