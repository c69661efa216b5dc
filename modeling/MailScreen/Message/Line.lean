import MailScreen.Text.Blank

/-!
# Lines of a message

A message is cut into lines at carriage returns, line feeds, and the pairs of both, and each line
keeps its ending. The lines put together are the message.
-/
namespace MailScreen.MessageLine

/-- The lines of a message that starts with the rest of a line, which is given in reverse. -/
def linesFrom (line : Text) : Text → List Text
  | [] => if line.isEmpty then [] else [line.reverse]
  | '\r' :: '\n' :: rest => ('\n' :: '\r' :: line).reverse :: linesFrom [] rest
  | c :: rest =>
    if c = '\n' || c = '\r' then (c :: line).reverse :: linesFrom [] rest
    else linesFrom (c :: line) rest

/-- The lines of a message with their endings. -/
def ofText (t : Text) : List Text := linesFrom [] t

/-- Whether a line is empty but for its ending. -/
def isEmptyLine (line : Text) : Bool := line.head? = some '\n' || line.head? = some '\r'

/-- Whether a text is the ending of a line or nothing. -/
def isEnding (t : Text) : Bool := t = [] || t = ['\n'] || t = ['\r'] || t = ['\r', '\n']

/-- Whether nothing but spaces and tabs is left on a line. -/
def isSpaceToEnd (t : Text) : Bool := isEnding (t.dropWhile isSpaceOrTab)

/-- The start of a line that came with the envelope of a message. -/
def envelopeStart : Text := "From ".toList

/-- The characters of a header name. -/
def isNameChar (c : Char) : Bool := 33 ≤ c.toNat && c.toNat ≤ 126 && c ≠ ':'

/-- Whether a line belongs to the headers of a message: it has a name and a colon, or continues a
header, or came with the envelope. -/
def isHeaderLine (line : Text) : Bool :=
  envelopeStart.isPrefixOf line || (line.dropWhile isNameChar).head? = some ':' ||
    (line.head?.map isSpaceOrTab).getD false

/-- What a line is that starts with a separator and has nothing else on it: `some true` if two
hyphens after it end the last part, and `some false` otherwise. -/
def separatorKind? (separator line : Text) : Option Bool :=
  if separator.isPrefixOf line then
    let rest := line.drop separator.length
    if "--".toList.isPrefixOf rest && isSpaceToEnd (rest.drop 2) then some true
    else if isSpaceToEnd rest then some false
    else none
  else none

end MailScreen.MessageLine
