import MailScreen.Text.Basic

/-!
# Lines

Text is cut into lines at every character that Unicode counts as a line boundary, a carriage return
and the line feed after it being one boundary. A boundary ends a line and does not start another,
so a text that ends in one has no empty last line.
-/
namespace MailScreen

/-- The characters that end a line. -/
def isLineBreak (c : Char) : Bool :=
  let n := c.toNat
  (0xA ≤ n && n ≤ 0xD) || (0x1C ≤ n && n ≤ 0x1E) || n == 0x85 || n == 0x2028 || n == 0x2029

namespace Text

/-- The lines of a text, with `line` the characters of the current one in reverse. -/
def linesFrom (line : Text) : Text → List Text
  | [] => if line.isEmpty then [] else [line.reverse]
  | '\r' :: '\n' :: rest => line.reverse :: linesFrom [] rest
  | c :: rest =>
    if isLineBreak c then line.reverse :: linesFrom [] rest else linesFrom (c :: line) rest

/-- The lines of a text without their boundaries. -/
def lines (t : Text) : List Text := linesFrom [] t

end Text
end MailScreen
