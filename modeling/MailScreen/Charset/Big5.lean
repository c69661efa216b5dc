import MailScreen.Charset.Codec
import MailScreen.Charset.Table.Big5
import MailScreen.Charset.Table.HongKong

/-!
# Big5

The charsets of traditional Chinese: Big5, the code page of Windows that changes a few of its codes
and adds a row, and the form with the supplementary characters of Hong Kong. Some characters have
two codes, of which one is written.
-/
namespace MailScreen.Big5

open CharsetTable

/-- The column, of 157, of a second octet. -/
def column? (second : Nat) : Option Nat :=
  if 0x40 ≤ second && second ≤ 0x7E then some (second - 0x40)
  else if 0xA1 ≤ second && second ≤ 0xFE then some (second - 0xA1 + 63)
  else none

/-- The second octet of a column. -/
def secondOctet (column : Nat) : Nat :=
  if column < 63 then column + 0x40 else column - 63 + 0xA1

/-- The character of two octets in a grid. -/
def charIn? (grid : CharGrid) (first second : Nat) : Option Char :=
  (column? second).bind (grid.char? first)

/-- The first code of a character in a grid. -/
def codeIn? (grid : CharGrid) (c : Char) : Option PairCode :=
  (grid.place? c).map fun (row, column) => row * 256 + secondOctet column

/-- The codes that are written for two characters that have another code before. -/
def numerals : List (PairCode × Char) := [(0xA451, '\u5341'), (0xA4CA, '\u5345')]

/-- The codes that are written for two signs that have another code before. -/
def slashes : List (PairCode × Char) := [(0xA241, '\uFF0F'), (0xA242, '\uFF3C')]

/-- The codes that are written for lines of boxes with the characters of Hong Kong. -/
def boxLines : List (PairCode × Char) :=
  [(0xF9F9, '\u2550'), (0xF9E9, '\u255E'), (0xF9EB, '\u2561'), (0xF9EA, '\u256A'),
    (0xF9FA, '\u256D'), (0xF9FB, '\u256E'), (0xF9FD, '\u256F'), (0xF9FC, '\u2570')]

/-- The code that a list gives to a character. -/
def chosen? (c : Char) (codes : List (PairCode × Char)) : Option PairCode :=
  (codes.find? (·.2 = c)).map (·.1)

/-- The octets of ASCII and of a code. -/
def octetsOf? (code? : Char → Option PairCode) (c : Char) : Option Octets :=
  (asciiOctets? c).or ((code? c).map PairCode.octets)

/-- Big5. -/
def plain : PairCharset where
  single? := asciiChar?
  pair? := charIn? big5
  octets? := octetsOf? fun c => (chosen? c (numerals ++ slashes)).or (codeIn? big5 c)

/-- The character of two octets in the code page of Windows. -/
def windowsPair? (first second : Nat) : Option Char :=
  match big5WindowsChanges.find? (·.1 = first * 256 + second) with
  | some (_, c) => some c
  | none => (charIn? big5 first second).or (charIn? big5Windows first second)

/-- The traditional Chinese code page of Windows. -/
def windows : PairCharset where
  single? := asciiChar?
  pair? := windowsPair?
  octets? := octetsOf? fun c =>
    ((chosen? c numerals).or (codeIn? big5 c)).or
      ((chosen? c big5WindowsChanges).or (codeIn? big5Windows c))

/-- Whether a code is in the part that is redefined for Hong Kong. -/
def isRedefined (code : PairCode) : Bool := 0xC6A1 ≤ code && code ≤ 0xC8FE

/-- The codes for Hong Kong that stand for two characters. -/
def hongKongPairs : List (PairCode × Char × Char) :=
  [(0x8862, '\u00CA', '\u0304'), (0x8864, '\u00CA', '\u030C'), (0x88A3, '\u00EA', '\u0304'),
    (0x88A5, '\u00EA', '\u030C')]

/-- The character of two octets for Hong Kong. -/
def hongKongPair? (first second : Nat) : Option Char :=
  let shared := if isRedefined (first * 256 + second) then none else charIn? big5 first second
  (charIn? hongKong first second).or shared

/-- The code of a character for Hong Kong. -/
def hongKongCode? (c : Char) : Option PairCode :=
  let known := (codeIn? big5 c).filter fun code => !isRedefined code
  (chosen? c (numerals ++ slashes ++ boxLines)).or (known.or (codeIn? hongKong c))

/-- Big5 with the supplementary characters of Hong Kong. -/
def hongKongSet : PairCharset where
  single? := asciiChar?
  pair? := hongKongPair?
  octets? := octetsOf? hongKongCode?
  composed := hongKongPairs

end MailScreen.Big5
