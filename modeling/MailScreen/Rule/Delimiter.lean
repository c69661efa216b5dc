import MailScreen.Rule.Written

/-!
# Values taken apart

Where a clause asks for a pattern, the text of its value is taken apart on its own, whatever form it
was found in: the closing delimiter is looked for again, and now from the end. The forms are tried
in turn: slashes, brackets, which have to belong together, two times the same character, and last
the quotation marks that also a text may stand in.
-/
namespace MailScreen.WrittenValue

open WrittenClause

/-- Whether nothing is left of a text but perhaps a line feed. -/
def isAtEnd : Text → Bool
  | [] => true
  | [c] => c == '\n'
  | _ => false

/-- Splits a text at the last closing delimiter after which nothing but option letters follows: what
stands before the delimiter, the delimiter and the letters. -/
def splitAtLast? (closes : Char → Bool) : Text → Option (Text × Char × Text)
  | [] => none
  | c :: rest =>
    match splitAtLast? closes rest with
    | some (body, closing, letters) => some (c :: body, closing, letters)
    | none =>
      if closes c && isAtEnd (rest.dropWhile isOptionLetter) then
        some ([], c, rest.takeWhile isOptionLetter)
      else none

/-- The body of a pattern between slashes and the letters after it. -/
def splitSlashes? : Text → Option (Text × Text)
  | '/' :: rest => (splitAtLast? (· == '/') rest).map fun (body, _, letters) => (body, letters)
  | _ => none

/-- The brackets that close. -/
def isClosingBracket (c : Char) : Bool := c == '\x7d' || c == ')' || c == ']' || c == '>'

/-- The body of a pattern between brackets after an `m`, and the letters after it. The last closing
bracket of any kind counts, and it has to belong to the opening one. -/
def splitBrackets? : Text → Option (Text × Text)
  | 'm' :: c :: rest =>
    (closingBracket? c).bind fun wanted =>
      (splitAtLast? isClosingBracket rest).bind fun (body, closing, letters) =>
        if closing = wanted then some (body, letters) else none
  | _ => none

/-- The body of a pattern after an `m` between two times the same character, which is no word
character, and the letters after it. -/
def splitMarks? : Text → Option (Text × Text)
  | 'm' :: c :: rest =>
    if isWord c then none
    else (splitAtLast? (· == c) rest).map fun (body, _, letters) => (body, letters)
  | _ => none

/-- A text without the quotation marks around it, if there are two and they are the same. -/
def unquote : Text → Text
  | [] => []
  | mark :: rest =>
    if isQuotationMark mark && rest.getLast? == some mark then rest.dropLast else mark :: rest

/-- The body of a pattern and the letters of its options. -/
def splitPattern? (t : Text) : Option (Text × Text) :=
  (splitSlashes? t).or ((splitBrackets? t).or ((splitMarks? t).or
    (if unquote t = t then none else some (unquote t, []))))

end MailScreen.WrittenValue
