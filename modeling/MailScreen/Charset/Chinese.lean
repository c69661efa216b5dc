import MailScreen.Charset.Codec
import MailScreen.Charset.Table.Chinese
import MailScreen.Charset.Table.ChineseRuns

/-!
# Chinese charsets

The charsets of simplified Chinese. GBK adds to GB 2312 and gives two of its codes to other
characters; GB 18030 adds runs of further characters, and codes of four octets for the rest of
Unicode. HZ writes GB 2312 in ASCII octets between `~{` and `~}`.
-/
namespace MailScreen.Chinese

open CharsetTable

/-- GB 2312. -/
def gb2312Charset : PairCharset where
  single? := asciiChar?
  pair? := gb2312.highCoded?
  octets? c := (asciiOctets? c).or (gb2312.highOctets? c)

/-- The codes of GB 2312 that stand for other characters in GBK. -/
def gbkChanges : List (PairCode × Char) := [(0xA1A4, '\u00B7'), (0xA1AA, '\u2014')]

/-- The column, of 190, of a second octet. -/
def column? (second : Nat) : Option Nat :=
  if 0x40 ≤ second && second ≤ 0x7E then some (second - 0x40)
  else if 0x80 ≤ second && second ≤ 0xFE then some (second - 0x41)
  else none

/-- The second octet of a column. -/
def secondOctet (column : Nat) : Nat := if column < 63 then column + 0x40 else column + 0x41

/-- The character of two octets in GBK. -/
def gbkPair? (first second : Nat) : Option Char :=
  match gbkChanges.find? (·.1 = first * 256 + second) with
  | some (_, c) => some c
  | none => (gb2312.highCoded? first second).or ((column? second).bind (gbkAdded.char? first))

/-- The two octets of a character in GBK. -/
def gbkPairOctets? (c : Char) : Option Octets :=
  match gbkChanges.find? (·.2 = c) with
  | some (code, _) => some code.octets
  | none =>
    let known := (gb2312.highOctets? c).filter fun octets =>
      gbkChanges.all fun entry => PairCode.octets entry.1 ≠ octets
    known.or ((gbkAdded.place? c).map fun (row, column) => [octet row, octet (secondOctet column)])

/-- GBK. -/
def gbk : PairCharset where
  single? := asciiChar?
  pair? := gbkPair?
  octets? c := (asciiOctets? c).or (gbkPairOctets? c)

/-- The character of two octets in GB 18030. -/
def gb18030Pair? (first second : Nat) : Option Char :=
  (gbkPair? first second).or (do
    let column ← column? second
    let code ← CharRuns.code? ((first - 0x81) * 190 + column) gb18030Pairs
    return Char.ofNat code)

/-- The place, in order, of a code of four octets. -/
def quadPlace? (first second third fourth : Nat) : Option Nat :=
  if 0x81 ≤ first && first ≤ 0xFE && 0x30 ≤ second && second ≤ 0x39 && 0x81 ≤ third &&
      third ≤ 0xFE && 0x30 ≤ fourth && fourth ≤ 0x39 then
    some ((((first - 0x81) * 10 + (second - 0x30)) * 126 + (third - 0x81)) * 10 + (fourth - 0x30))
  else none

/-- The code of four octets at a place. -/
def quadOctets (place : Nat) : Octets :=
  [octet (place / 12600 + 0x81), octet (place / 1260 % 10 + 0x30),
    octet (place / 10 % 126 + 0x81), octet (place % 10 + 0x30)]

/-- The place of the first code of four octets for a supplementary plane. -/
def supplementaryPlace : Nat := 15 * 12600

/-- The character at a place among the codes of four octets. -/
def quadChar? (place : Nat) : Option Char :=
  if place < supplementaryPlace then (CharRuns.code? place gb18030Quads).map Char.ofNat
  else
    let code := place - supplementaryPlace + 0x10000
    if code ≤ 0x10FFFF then some (Char.ofNat code) else none

/-- Reads what comes next in GB 18030. -/
def readGb18030 (b : UInt8) (rest : Octets) : OctetReading Unit :=
  if b < 0x80 then .text [Char.ofNat b.toNat] 0 ()
  else
    match rest with
    | [] => .cutShort
    | second :: more =>
      if 0x30 ≤ second && second ≤ 0x39 then
        match more with
        | third :: fourth :: _ =>
          let place := quadPlace? b.toNat second.toNat third.toNat fourth.toNat
          match place.bind quadChar? with
          | some c => .text [c] 3 ()
          | none => .illFormed 0
        | _ => .cutShort
      else
        match gb18030Pair? b.toNat second.toNat with
        | some c => .text [c] 1 ()
        | none => .illFormed 0

/-- The two octets of a character that is in a run in GB 18030. -/
def runOctets? (c : Char) : Option Octets :=
  (CharRuns.place? c.toNat gb18030Pairs).map fun place =>
    [octet (place / 190 + 0x81), octet (secondOctet (place % 190))]

/-- The four octets of a character in GB 18030. -/
def quadOctets? (c : Char) : Option Octets :=
  if c.toNat < 0x10000 then (CharRuns.place? c.toNat gb18030Quads).map quadOctets
  else some (quadOctets (c.toNat - 0x10000 + supplementaryPlace))

/-- GB 18030. -/
def gb18030 : Codec Unit where
  start := ()
  read _ := readGb18030
  write _ c _ :=
    (((asciiOctets? c).or (gbkPairOctets? c)).or ((runOctets? c).or (quadOctets? c))).map
      fun octets => { octets := octets, state := () }

/-- Reads what comes next in HZ. The state says whether pairs are read. -/
def readHz (pairs : Bool) (b : UInt8) (rest : Octets) : OctetReading Bool :=
  if b = 0x7E then
    match rest with
    | [] => .cutShort
    | second :: _ =>
      if second = 0x7D && pairs then .text [] 1 false
      else if pairs then .illFormed 0
      else if second = 0x7E then .text ['~'] 1 false
      else if second = 0x7B then .text [] 1 true
      else if second = 0x0A then .text [] 1 false
      else .illFormed 0
  else if 0x80 ≤ b then .illFormed 0
  else if !pairs then .text [Char.ofNat b.toNat] 0 false
  else
    match rest with
    | [] => .cutShort
    | second :: _ =>
      match gb2312.coded? b.toNat second.toNat with
      | some c => .text [c] 1 true
      | none => .illFormed 0

/-- Writes what comes next in HZ. -/
def writeHz (pairs : Bool) (c : Char) (_ : Text) : Option (OctetWriting Bool) :=
  if c.toNat < 0x80 then
    let leave : Octets := if pairs then [0x7E, 0x7D] else []
    let itself := octet c.toNat
    some {
      octets := leave ++ (if c = '~' then [itself, itself] else [itself])
      state := false }
  else
    (gb2312.code? c).map fun code =>
      { octets := (if pairs then [] else [0x7E, 0x7B]) ++ code.octets, state := true }

/-- HZ. -/
def hz : Codec Bool where
  start := false
  read := readHz
  write := writeHz
  finish pairs := if pairs then [0x7E, 0x7D] else []

end MailScreen.Chinese
