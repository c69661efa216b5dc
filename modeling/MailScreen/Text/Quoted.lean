import MailScreen.Text.Basic
import MailScreen.Text.PrintableTable

/-!
# Quoted text

A text quoted for a message stands between quotation marks, with every character that could not be
seen or would end the quotation written as an escape. Single quotation marks are used, unless the
text holds one and no double quotation mark.
-/
namespace MailScreen

/-- The characters that quoted text shows as they are. -/
def isPrintable (c : Char) : Bool := inRanges c.toNat printableRanges

/-- The last `width` hexadecimal digits of a number, in lower case. -/
def hexDigits (width n : Nat) : Text :=
  match width with
  | 0 => []
  | width + 1 => hexDigits width (n / 16) ++ [Nat.digitChar (n % 16)]

/-- The escape of a character by its code point: `\xhh`, `\uhhhh` or `\Uhhhhhhhh`. -/
def escapeByCode (c : Char) : Text :=
  let n := c.toNat
  if n ≤ 0xFF then '\\' :: 'x' :: hexDigits 2 n
  else if n ≤ 0xFFFF then '\\' :: 'u' :: hexDigits 4 n
  else '\\' :: 'U' :: hexDigits 8 n

namespace Text

/-- A character inside quotation marks of the kind `mark`. -/
def quoteChar (mark c : Char) : Text :=
  if c = mark || c = '\\' then ['\\', c]
  else if c = '\n' then ['\\', 'n']
  else if c = '\r' then ['\\', 'r']
  else if c = '\t' then ['\\', 't']
  else if isPrintable c then [c]
  else escapeByCode c

/-- A text between quotation marks. -/
def quoted (t : Text) : Text :=
  let mark := if t.contains '\'' && !t.contains '"' then '"' else '\''
  mark :: t.flatMap (quoteChar mark) ++ [mark]

end Text
end MailScreen
