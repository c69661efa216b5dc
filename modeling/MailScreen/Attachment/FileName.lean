import MailScreen.Pattern.CaseVariant

/-!
# File names

What the end of a file name says about the content. The extension is the word after the last dot, if
the name ends in it; one line feed at the very end of a name is not looked at. Names that end like
those of web pages are told apart, in whatever case they are written.
-/
namespace MailScreen.FileName

/-- A text without one line feed at its end. -/
def dropLastLineFeed (t : Text) : Text :=
  if t.getLast? = some '\n' then t.dropLast else t

/-- The word after the last dot of a name that ends in a dot and a word. -/
def suffix? (name : Text) : Option Text :=
  let back := (dropLastLineFeed name).reverse
  let word := back.takeWhile isWord
  match back.dropWhile isWord with
  | '.' :: _ => if word.isEmpty then none else some word.reverse
  | _ => none

/-- The extension of a name in lower case, empty if there is none. -/
def extension (name : Text) : Text := ((suffix? name).map Text.lower).getD []

/-- Whether a text is a given word but for case. -/
def isWordIgnoringCase : Text → Text → Bool
  | [], [] => true
  | a :: word, c :: rest =>
    Pattern.sameChar .unicode a.toNat c.toNat && isWordIgnoringCase word rest
  | _, _ => false

/-- The suffixes of web pages. -/
def webPageSuffixes : List String := ["htm", "html", "shtm", "shtml"]

/-- Whether a name is that of a web page. -/
def isWebPage (name : Text) : Bool :=
  match suffix? name with
  | none => false
  | some word => webPageSuffixes.any fun suffix => isWordIgnoringCase suffix.toList word

end MailScreen.FileName
