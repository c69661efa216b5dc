import MailScreen.Text.Basic
import MailScreen.Text.LetterTable

/-!
# Word characters and decimal digits

Word characters are letters, numerals and the low line. Every decimal digit, of whatever script,
has a value from 0 to 9.
-/
namespace MailScreen

/-- Whether a code point is that of a word character. -/
def isWordCode (n : Nat) : Bool :=
  if n < 0x80 then
    (0x30 ≤ n && n ≤ 0x39) || (0x41 ≤ n && n ≤ 0x5A) || n == 0x5F || (0x61 ≤ n && n ≤ 0x7A)
  else inRanges n wordRanges

/-- The word characters. -/
def isWord (c : Char) : Bool := isWordCode c.toNat

/-- The letters: the word characters that are neither numerals nor the low line. -/
def isLetter (c : Char) : Bool := isWord c && c != '_' && !inRanges c.toNat numeralRanges

/-- The value of the digit with code point `n` in the rows that start at the given zeros. -/
def digitValueIn (n : Nat) : List Nat → Option Nat
  | [] => none
  | start :: rest =>
    if n < start then none else if n ≤ start + 9 then some (n - start) else digitValueIn n rest

/-- The value of a decimal digit given by its code point. -/
def digitValueOfCode? (n : Nat) : Option Nat := digitValueIn n decimalZeros

/-- The value of a decimal digit. -/
def digitValue? (c : Char) : Option Nat := digitValueOfCode? c.toNat

/-- The decimal digits of every script. -/
def isDecimalDigit (c : Char) : Bool := (digitValue? c).isSome

end MailScreen
