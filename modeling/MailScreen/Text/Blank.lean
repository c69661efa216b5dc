import MailScreen.Text.Basic

/-!
# Blanks

The blank characters are the separators of Unicode, the control characters that move the carriage,
and the four information separators U+001C to U+001F. They are what is trimmed from the ends of a
text and what stands between words.
-/
namespace MailScreen

/-- The blank characters. -/
def isBlank (c : Char) : Bool :=
  let n := c.toNat
  (0x9 ≤ n && n ≤ 0xD) || (0x1C ≤ n && n ≤ 0x20) || n == 0x85 || n == 0xA0 || n == 0x1680 ||
    (0x2000 ≤ n && n ≤ 0x200A) || n == 0x2028 || n == 0x2029 || n == 0x202F || n == 0x205F ||
    n == 0x3000

/-- The blanks of ASCII, the information separators not among them. -/
def isAsciiBlank (c : Char) : Bool := (9 ≤ c.toNat && c.toNat ≤ 13) || c == ' '

/-- The blanks that mail headers know: space and horizontal tab. -/
def isSpaceOrTab (c : Char) : Bool := c == ' ' || c == '\t'

namespace Text

/-- A text without the characters of a class at both ends. -/
def trimBy (p : Char → Bool) (t : Text) : Text := dropEndWhile p (t.dropWhile p)

/-- A text without the blanks at both ends. -/
def trim (t : Text) : Text := trimBy isBlank t

/-- A text of blanks only, the empty text among them. -/
def isAllBlank (t : Text) : Bool := t.all isBlank

/-- The words of a text, with `word` the characters of the current one in reverse. -/
def wordsFrom (word : Text) : Text → List Text
  | [] => if word.isEmpty then [] else [word.reverse]
  | c :: rest =>
    if isBlank c then
      if word.isEmpty then wordsFrom [] rest else word.reverse :: wordsFrom [] rest
    else wordsFrom (c :: word) rest

/-- The maximal runs of characters that are not blank. -/
def words (t : Text) : List Text := wordsFrom [] t

end Text
end MailScreen
