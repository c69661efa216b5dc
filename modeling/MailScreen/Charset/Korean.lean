import MailScreen.Charset.Codec
import MailScreen.Charset.Table.Korean

/-!
# Korean charsets

The charsets of Korean. Beside the set KS X 1001 there are three ways to write the other syllables:
as eight octets that spell the letters, by codes that Windows adds, and by codes in which five bits
stand for each letter.
-/
namespace MailScreen.Korean

open CharsetTable

/-! ## Syllables -/

/-- A syllable by the numbers of its first consonant, its vowel and its last consonant, 0 for
none. -/
def syllable (initial vowel final : Nat) : Char :=
  Char.ofNat (0xAC00 + (initial * 21 + vowel) * 28 + final)

/-- The numbers of the letters of a syllable. -/
def letters? (c : Char) : Option (Nat × Nat × Nat) :=
  let n := c.toNat
  if 0xAC00 ≤ n && n ≤ 0xD7A3 then
    let place := n - 0xAC00
    some (place / 588, place / 28 % 21, place % 28)
  else none

/-- The letters that may be the first consonant, by their places among the letters. -/
def initials : List Nat :=
  [0, 1, 3, 6, 7, 8, 16, 17, 18, 20, 21, 22, 23, 24, 25, 26, 27, 28, 29]

/-- The letters that may be the last consonant, by their places among the letters. -/
def finals : List Nat :=
  [0, 1, 2, 3, 4, 5, 6, 8, 9, 10, 11, 12, 13, 14, 15, 16, 17, 19, 20, 21, 22, 23, 25, 26, 27, 28,
    29]

/-- The place of the first vowel among the letters. -/
def vowelPlace : Nat := 30

/-- The place of an element in a list. -/
def indexOf? (n : Nat) (list : List Nat) : Option Nat := list.findIdx? (· = n)

/-! ## Spelled syllables -/

/-- The octet before every octet of a spelled syllable. -/
def letterLead : UInt8 := 0xA4

/-- The octet that stands for no letter. -/
def filler : UInt8 := 0xD4

/-- The place of a letter given by its octet. -/
def letterPlace? (b : UInt8) : Option Nat :=
  if 0xA1 ≤ b && b ≤ 0xD3 then some (b.toNat - 0xA1) else none

/-- The syllable that three octets spell. -/
def spelled? (first second third : UInt8) : Option Char := do
  let initial ← (letterPlace? first).bind (indexOf? · initials)
  let vowel ← letterPlace? second
  let final ←
    if third = filler then some 0
    else ((letterPlace? third).bind (indexOf? · finals)).map (· + 1)
  if vowelPlace ≤ vowel then some (syllable initial (vowel - vowelPlace) final) else none

/-- The octet of a letter given by its place. -/
def letterOctet (place : Nat) : UInt8 := octet (place + 0xA1)

/-- The eight octets that spell a syllable. -/
def spell? (c : Char) : Option Octets := do
  let (initial, vowel, final) ← letters? c
  let first ← initials[initial]?
  let third ← if final = 0 then some filler else finals[final - 1]?.map letterOctet
  return [letterLead, filler, letterLead, letterOctet first, letterLead,
    letterOctet (vowelPlace + vowel), letterLead, third]

/-! ## EUC-KR -/

/-- Reads what comes next in EUC-KR. -/
def readEucKr (b : UInt8) (rest : Octets) : OctetReading Unit :=
  if b < 0x80 then .text [Char.ofNat b.toNat] 0 ()
  else
    match rest with
    | [] => .cutShort
    | second :: more =>
      if b = letterLead && second = filler then
        match more with
        | lead1 :: first :: lead2 :: vowel :: lead3 :: last :: _ =>
          let spelled := if lead1 = letterLead && lead2 = letterLead && lead3 = letterLead then
            spelled? first vowel last else none
          match spelled with
          | some c => .text [c] 7 ()
          | none => .illFormed 0
        | _ => .cutShort
      else
        match ksX1001.highCoded? b.toNat second.toNat with
        | some c => .text [c] 1 ()
        | none => .illFormed 0

/-- EUC-KR. -/
def eucKr : Codec Unit where
  start := ()
  read _ := readEucKr
  write _ c _ :=
    (((asciiOctets? c).or (ksX1001.highOctets? c)).or (spell? c)).map fun octets =>
      { octets := octets, state := () }

/-! ## The code page of Windows -/

/-- The column, of 178, of a second octet. -/
def column? (second : Nat) : Option Nat :=
  if 0x41 ≤ second && second ≤ 0x5A then some (second - 0x41)
  else if 0x61 ≤ second && second ≤ 0x7A then some (second - 0x61 + 26)
  else if 0x81 ≤ second && second ≤ 0xFE then some (second - 0x81 + 52)
  else none

/-- The second octet of a column. -/
def secondOctet (column : Nat) : Nat :=
  if column < 26 then column + 0x41
  else if column < 52 then column - 26 + 0x61
  else column - 52 + 0x81

/-- The Korean code page of Windows. -/
def cp949 : PairCharset where
  single? := asciiChar?
  pair? first second :=
    (ksX1001.highCoded? first second).or ((column? second).bind (hangulAdded.char? first))
  octets? c :=
    ((asciiOctets? c).or (ksX1001.highOctets? c)).or
      ((hangulAdded.place? c).map fun (row, column) => [octet row, octet (secondOctet column)])

/-! ## Johab -/

/-- The five bits of the first consonants in order. The bits before them stand for none. -/
def initialBits (initial : Nat) : Nat := initial + 2

/-- The five bits of the vowels in order. -/
def vowelBits : List Nat :=
  [3, 4, 5, 6, 7, 10, 11, 12, 13, 14, 15, 18, 19, 20, 21, 22, 23, 26, 27, 28, 29]

/-- The five bits of the last consonants in order. -/
def finalBits : List Nat :=
  [2, 3, 4, 5, 6, 7, 8, 9, 10, 11, 12, 13, 14, 15, 16, 17, 19, 20, 21, 22, 23, 24, 25, 26, 27, 28,
    29]

/-- The bits that stand for no first consonant, no vowel and no last consonant. -/
def noLetterBits : Nat × Nat × Nat := (1, 2, 1)

/-- The number of what five bits stand for, with `none` for no letter. The outer result is missing
if the bits stand for nothing at all. -/
def bitsMeaning? (absent : Nat) (number? : Nat → Option Nat) (bits : Nat) : Option (Option Nat) :=
  if bits = absent then some none else (number? bits).map some

/-- A letter on its own, by its place among the letters. -/
def letter (place : Nat) : Char := Char.ofNat (0x3131 + place)

/-- The character of a code that holds five bits for each letter. -/
def johabSyllable? (code : PairCode) : Option Char := do
  let (noInitial, noVowel, noFinal) := noLetterBits
  let initial ← bitsMeaning? noInitial
    (fun bits => if 2 ≤ bits && bits ≤ 20 then some (bits - 2) else none) (code / 1024 % 32)
  let vowel ← bitsMeaning? noVowel (indexOf? · vowelBits) (code / 32 % 32)
  let final ← bitsMeaning? noFinal (indexOf? · finalBits) (code % 32)
  match initial, vowel, final with
  | none, none, none => some '\u3000'
  | none, none, some final => finals[final]?.map letter
  | none, some vowel, none => some (letter (vowelPlace + vowel))
  | none, some _, some _ => none
  | some initial, none, none => initials[initial]?.map letter
  | some _, none, some _ => none
  | some initial, some vowel, final =>
    some (syllable initial vowel ((final.map (· + 1)).getD 0))

/-- A code in Johab of what five bits for each letter stand for. -/
def johabCode (initial vowel final : Nat) : PairCode :=
  0x8000 + initial * 1024 + vowel * 32 + final

/-- The code of a syllable or a letter in Johab. -/
def johabLetterCode? (c : Char) : Option PairCode :=
  let (noInitial, noVowel, noFinal) := noLetterBits
  match letters? c with
  | some (initial, vowel, final) => do
    let vowel ← vowelBits[vowel]?
    let final ← if final = 0 then some noFinal else finalBits[final - 1]?
    return johabCode (initialBits initial) vowel final
  | none =>
    if 0x3131 ≤ c.toNat && c.toNat ≤ 0x3163 then
      let place := c.toNat - 0x3131
      if vowelPlace ≤ place then
        vowelBits[place - vowelPlace]?.map fun vowel => johabCode noInitial vowel noFinal
      else
        match indexOf? place initials with
        | some initial => some (johabCode (initialBits initial) noVowel noFinal)
        | none => do
          let final ← indexOf? place finals
          let bits ← finalBits[final]?
          return johabCode noInitial noVowel bits
    else none

/-- The character of a code in the part of Johab that holds symbols and Chinese characters. -/
def johabSymbol? (first second : Nat) : Option Char :=
  if first < 0xD9 || first = 0xDF || 0xF9 < first || second < 0x31 ||
      (0x80 ≤ second && second < 0x91) || second % 0x80 = 0x7F ||
      (first = 0xDA && 0xA1 ≤ second && second ≤ 0xD3) then none
  else
    let row := if first < 0xE0 then 2 * (first - 0xD9) else 2 * first - 0x197
    let column := if second < 0x91 then second - 0x31 else second - 0x43
    if column < 94 then ksX1001.coded? (row + 0x21) (column + 0x21)
    else ksX1001.coded? (row + 0x22) (column - 94 + 0x21)

/-- The octets of a character in the part of Johab that holds symbols and Chinese characters. -/
def johabSymbolOctets? (c : Char) : Option Octets :=
  match ksX1001.place? c with
  | none => none
  | some (row, column) =>
    if (0x21 ≤ row && row ≤ 0x2C) || (0x4A ≤ row && row ≤ 0x7D) then
      let line := if row < 0x4A then row - 0x21 + 0x1B2 else row - 0x21 + 0x197
      let column := if line % 2 = 1 then column + 94 else column
      some [octet (line / 2), octet (if column < 78 then column + 0x31 else column + 0x43)]
    else none

/-- Johab. -/
def johab : PairCharset where
  single? := asciiChar?
  pair? first second :=
    if first < 0xD8 then johabSyllable? (first * 256 + second) else johabSymbol? first second
  octets? c :=
    ((asciiOctets? c).or ((johabLetterCode? c).map PairCode.octets)).or (johabSymbolOctets? c)

end MailScreen.Korean
