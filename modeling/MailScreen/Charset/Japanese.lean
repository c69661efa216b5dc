import MailScreen.Charset.Codec
import MailScreen.Charset.Table.Japanese
import MailScreen.Charset.Table.JapaneseExtended
import MailScreen.Charset.Table.WindowsJapanese

/-!
# Japanese charsets

The charsets of Japanese that need no states: Shift JIS, which folds the rows of the Japanese sets
in pairs, and EUC, which sets the high bits of their codes. Both also have variants for the extended
set.
-/
namespace MailScreen.Japanese

open CharsetTable

/-! ## Small sets -/

/-- The half-width katakana of an octet from 0xA1 on. -/
def katakana? (n : Nat) : Option Char :=
  if 0xA1 ≤ n && n ≤ 0xDF then some (Char.ofNat (n - 0xA1 + 0xFF61)) else none

/-- The octet from 0xA1 on of a half-width katakana. -/
def katakanaOctet? (c : Char) : Option UInt8 :=
  if 0xFF61 ≤ c.toNat && c.toNat ≤ 0xFF9F then some (octet (c.toNat - 0xFF61 + 0xA1)) else none

/-- The octets of the two characters that the Japanese form of ASCII has in the place of others. -/
def romanOctet? (c : Char) : Option UInt8 :=
  if c = '\u00A5' then some 0x5C else if c = '\u203E' then some 0x7E else none

/-- The character of an octet in the Japanese form of ASCII. -/
def romanChar? (n : Nat) : Option Char :=
  if n = 0x5C then some '\u00A5' else if n = 0x7E then some '\u203E' else asciiChar? n

/-! ## Shift JIS -/

/-- The line, from 0, and the column, of 94, of two octets. -/
def shiftPlace? (first second : Nat) : Option (Nat × Nat) :=
  let pair? :=
    if 0x81 ≤ first && first ≤ 0x9F then some (first - 0x81)
    else if 0xE0 ≤ first && first ≤ 0xFC then some (first - 0xC1)
    else none
  let place? :=
    if 0x40 ≤ second && second ≤ 0x7E then some (second - 0x40)
    else if 0x80 ≤ second && second ≤ 0xFC then some (second - 0x41)
    else none
  match pair?, place? with
  | some pair, some place => some (2 * pair + place / 94, place % 94)
  | _, _ => none

/-- The two octets of a line and a column. -/
def shiftOctets (line column : Nat) : Octets :=
  let first := line / 2 + (if line / 2 < 0x1F then 0x81 else 0xC1)
  let place := column + 94 * (line % 2)
  [octet first, octet (if place < 0x3F then place + 0x40 else place + 0x41)]

/-- The character of two octets in Shift JIS. -/
def shiftPair? (first second : Nat) : Option Char := do
  let (line, column) ← shiftPlace? first second
  jisX0208.char? (line + 0x21) column

/-- The two octets of a character in Shift JIS. -/
def shiftPairOctets? (c : Char) : Option Octets :=
  (jisX0208.place? c).map fun (row, column) => shiftOctets (row - 0x21) column

/-- Shift JIS. -/
def shiftJis : PairCharset where
  single? n := (asciiChar? n).or (katakana? n)
  pair? := shiftPair?
  octets? c :=
    ((asciiOctets? c).or (((romanOctet? c).or (katakanaOctet? c)).map fun b => [b])).or
      (shiftPairOctets? c)

/-- The codes that Windows gives to other characters. -/
def windowsChanges : List (PairCode × Char) :=
  [(0x8160, '\uFF5E'), (0x8161, '\u2225'), (0x817C, '\uFF0D'), (0x8191, '\uFFE0'),
    (0x8192, '\uFFE1'), (0x81CA, '\uFFE2')]

/-- The rows that Windows adds. -/
def windowsRows : List CharGrid := [necSpecial, necSelected, ibmExtended]

/-- The column, of 188, of a second octet. -/
def windowsColumn? (second : Nat) : Option Nat :=
  if 0x40 ≤ second && second ≤ 0x7E then some (second - 0x40)
  else if 0x80 ≤ second && second ≤ 0xFC then some (second - 0x41)
  else none

/-- The second octet of a column. -/
def windowsSecond (column : Nat) : UInt8 :=
  octet (if column < 63 then column + 0x40 else column + 0x41)

/-- The user-defined character of two octets. -/
def userDefined? (first column : Nat) : Option Char :=
  if 0xF0 ≤ first && first ≤ 0xF9 then some (Char.ofNat (0xE000 + 188 * (first - 0xF0) + column))
  else none

/-- The octets of a user-defined character. -/
def userDefinedOctets? (c : Char) : Option Octets :=
  let n := c.toNat
  if 0xE000 ≤ n && n < 0xE000 + 1880 then
    some [octet ((n - 0xE000) / 188 + 0xF0), windowsSecond ((n - 0xE000) % 188)]
  else none

/-- The characters of single octets that Windows adds. -/
def windowsSingles : List (Nat × Char) :=
  [(0x80, '\u0080'), (0xA0, '\uF8F0'), (0xFD, '\uF8F1'), (0xFE, '\uF8F2'), (0xFF, '\uF8F3')]

/-- The character of two octets in the Japanese code page of Windows. -/
def windowsPair? (first second : Nat) : Option Char := do
  let column ← windowsColumn? second
  match windowsChanges.find? (·.1 = first * 256 + second) with
  | some (_, c) => some c
  | none =>
    let added := windowsRows.findSome? fun grid => grid.char? first column
    added.or ((shiftPair? first second).or (userDefined? first column))

/-- The two octets of a character in the Japanese code page of Windows. -/
def windowsPairOctets? (c : Char) : Option Octets :=
  match windowsChanges.find? (·.2 = c) with
  | some (code, _) => some code.octets
  | none =>
    let added := windowsRows.findSome? fun grid =>
      (grid.place? c).map fun (row, column) => [octet row, windowsSecond column]
    (shiftPairOctets? c).or (added.or (userDefinedOctets? c))

/-- The Japanese code page of Windows. -/
def cp932 : PairCharset where
  single? n :=
    ((asciiChar? n).or (katakana? n)).or ((windowsSingles.find? (·.1 = n)).map (·.2))
  pair? := windowsPair?
  octets? c :=
    let single := (katakanaOctet? c).or
      ((windowsSingles.find? (·.2 = c)).map fun entry => octet entry.1)
    ((asciiOctets? c).or (single.map fun b => [b])).or (windowsPairOctets? c)

/-! ## EUC -/

/-- Reads what comes next in EUC: a character of a charset of ASCII and pairs, half-width katakana
after 0x8E, or a character of three octets after 0x8F. -/
def readEuc (charset : PairCharset) (triple? : Nat → Nat → Option Char) (b : UInt8)
    (rest : Octets) : OctetReading Unit :=
  if b = 0x8E then
    match rest with
    | [] => .cutShort
    | second :: _ =>
      match katakana? second.toNat with
      | some c => .text [c] 1 ()
      | none => .illFormed 0
  else if b = 0x8F then
    match rest with
    | second :: third :: _ =>
      match triple? second.toNat third.toNat with
      | some c => .text [c] 2 ()
      | none => .illFormed 0
    | _ => .cutShort
  else charset.read b rest

/-- The octets of ASCII and of half-width katakana in EUC. -/
def eucSmallOctets? (c : Char) : Option Octets :=
  (asciiOctets? c).or ((katakanaOctet? c).map fun b => [0x8E, b])

/-- The characters of one octet or two in EUC-JP, with what is written for them. -/
def eucJpPairs : PairCharset where
  single? := asciiChar?
  pair? := jisX0208.highCoded?
  octets? c :=
    ((eucSmallOctets? c).or ((romanOctet? c).map fun b => [b])).or (jisX0208.highOctets? c)

/-- The three octets of a character of the supplementary set. -/
def supplementaryOctets? (c : Char) : Option Octets := (jisX0212.highOctets? c).map (0x8F :: ·)

/-- EUC-JP. -/
def eucJp : Codec Unit where
  start := ()
  read _ := readEuc eucJpPairs jisX0212.highCoded?
  write _ c _ :=
    ((eucJpPairs.octets? c).or (supplementaryOctets? c)).map fun octets =>
      { octets := octets, state := () }

/-! ## The extended set -/

/-- An edition of the extended set. -/
inductive Edition where
  /-- The edition of the year 2000. -/
  | first
  /-- The edition of the year 2004, which adds ten characters. -/
  | second
  deriving DecidableEq, Repr

namespace Edition

/-- The codes of the first plane that are not in an edition. -/
def missing : Edition → List PairCode
  | first => jisX0213Added
  | second => []

/-- Whether a code of the first plane is in an edition. -/
def has (edition : Edition) (code : PairCode) : Bool := !edition.missing.contains code

/-- The character with a code in the first plane. -/
def firstPlane? (edition : Edition) (row column : Nat) : Option Char :=
  if edition.has (row * 256 + column) then
    (jisX0208.coded? row column).or (jisX0213First.coded? row column)
  else none

/-- The code of a character in the first plane. -/
def firstCode? (edition : Edition) (c : Char) : Option PairCode :=
  ((jisX0208.code? c).or (jisX0213First.code? c)).filter edition.has

/-- The character of two octets in EUC. -/
def eucPair? (edition : Edition) (first second : Nat) : Option Char :=
  if 0x80 ≤ first && 0x80 ≤ second then edition.firstPlane? (first - 0x80) (second - 0x80)
  else none

/-- The code in the second plane that stands for another character in the first edition. -/
def secondPlaneChange : PairCode × Char := (0x7D3B, '\u9B1D')

/-- The character with a code in the second plane. -/
def secondPlane? (edition : Edition) (row column : Nat) : Option Char :=
  if edition = .first && row * 256 + column = secondPlaneChange.1 then some secondPlaneChange.2
  else jisX0213Second.coded? row column

/-- The code of a character in the second plane. -/
def secondCode? (edition : Edition) (c : Char) : Option PairCode :=
  if edition = .first then
    if c = secondPlaneChange.2 then some secondPlaneChange.1
    else (jisX0213Second.code? c).filter (· ≠ secondPlaneChange.1)
  else jisX0213Second.code? c

/-- The character of the two octets after 0x8F in EUC: one of the second plane, or else one of the
supplementary set. -/
def eucTriple? (edition : Edition) (first second : Nat) : Option Char :=
  if 0x80 ≤ first && 0x80 ≤ second then
    (edition.secondPlane? (first - 0x80) (second - 0x80)).or (jisX0212.highCoded? first second)
  else none

/-- The characters of one octet or two in EUC with the extended set, with what is written for
them. -/
def eucPairs (edition : Edition) : PairCharset where
  single? := asciiChar?
  pair? := edition.eucPair?
  octets? c :=
    (eucSmallOctets? c).or ((edition.firstCode? c).map fun code => PairCode.octets (code + 0x8080))
  composed := jisX0213Pairs.map fun (code, c, d) => (code + 0x8080, c, d)
  refused := edition.missing.map (· + 0x8080)

/-- The three octets of a character of the second plane. -/
def tripleOctets? (edition : Edition) (c : Char) : Option Octets :=
  (edition.secondCode? c).map fun code => 0x8F :: PairCode.octets (code + 0x8080)

/-- EUC with the extended set. -/
def euc (edition : Edition) : Codec Unit where
  start := ()
  read _ := readEuc edition.eucPairs edition.eucTriple?
  write _ c rest :=
    match edition.eucPairs.write c rest with
    | some written => some written
    | none =>
      ((edition.tripleOctets? c).or (supplementaryOctets? c)).map fun octets =>
        { octets := octets, state := () }

/-- The rows of the second plane, in the order in which Shift JIS folds them. -/
def foldedRows : List Nat :=
  [0x21, 0x28, 0x23, 0x24, 0x25, 0x2C, 0x2D, 0x2E, 0x2F] ++ (List.range 17).map (· + 0x6E)

/-- The characters that Shift JIS has in the place of others because their octets are taken. -/
def shiftChanges : List (PairCode × Char) := [(0x2140, '\\'), (0x2232, '~')]

/-- The character of two octets in Shift JIS. -/
def shiftPair? (edition : Edition) (first second : Nat) : Option Char := do
  let (line, column) ← shiftPlace? first second
  if line < 94 then
    match shiftChanges.find? (·.1 = (line + 0x21) * 256 + column + 0x21) with
    | some (_, c) => some c
    | none => edition.firstPlane? (line + 0x21) (column + 0x21)
  else
    let row ← foldedRows[line - 94]?
    edition.secondPlane? row (column + 0x21)

/-- The octets in Shift JIS of a code of the first plane. -/
def shiftCode (code : PairCode) : Octets :=
  shiftOctets (code / 256 - 0x21) (code % 256 - 0x21)

/-- The two octets of a character in Shift JIS. -/
def shiftPairOctets? (edition : Edition) (c : Char) : Option Octets :=
  let plane1 := (edition.firstCode? c).filter fun code => shiftChanges.all (·.1 ≠ code)
  let plane2 := do
    let code ← edition.secondCode? c
    let line ← foldedRows.findIdx? (· = code / 256)
    return shiftOctets (line + 94) (code % 256 - 0x21)
  (plane1.map shiftCode).or plane2

/-- The octets of a character in Shift JIS. -/
def shiftOctets? (edition : Edition) (c : Char) : Option Octets :=
  match shiftChanges.find? (·.2 = c) with
  | some (code, _) => some (shiftCode code)
  | none =>
    let small := ((romanOctet? c).or (katakanaOctet? c)).map fun b => [b]
    ((asciiOctets? c).or small).or (edition.shiftPairOctets? c)

/-- The code of two octets in Shift JIS of a code of the first plane. -/
def shiftPairCode (code : PairCode) : PairCode :=
  (shiftCode code).foldl (fun value b => value * 256 + b.toNat) 0

/-- Shift JIS with the extended set. -/
def shiftJis (edition : Edition) : PairCharset where
  single? n := (romanChar? n).or (katakana? n)
  pair? := edition.shiftPair?
  octets? := edition.shiftOctets?
  composed := jisX0213Pairs.map fun (code, c, d) => (shiftPairCode code, c, d)
  refused := edition.missing.map shiftPairCode

end Edition
end MailScreen.Japanese
