import MailScreen.Pattern.Fault

/-!
# The text of a pattern

A pattern is read in tokens: a character, or a backslash with the character after it. One token is
always looked at ahead, so a lone backslash at the end is found as soon as the token before it has
been taken.
-/
namespace MailScreen.Pattern

/-- A unit of the text of a pattern. -/
inductive Token where
  /-- A character that no backslash comes before. -/
  | plain (c : Char)
  /-- A backslash and the character after it. -/
  | escape (c : Char)
  deriving DecidableEq, Repr

/-- A token as it is written. -/
def Token.text : Token → Text
  | plain c => [c]
  | escape c => ['\\', c]

/-- What is left of a pattern. -/
structure Source where
  /-- The next token, or `none` at the end. -/
  next : Option Token
  /-- What comes after the next token. -/
  rest : Text
  /-- The place in the pattern where `rest` starts. -/
  index : Nat

namespace Source

/-- The source whose next token starts a text that starts at a place. -/
def ofText (rest : Text) (index : Nat) : Except Fault Source :=
  match rest with
  | [] => .ok ⟨none, [], index⟩
  | ['\\'] => .error (.malformed .escapeAtEnd (some index))
  | '\\' :: c :: rest => .ok ⟨some (.escape c), rest, index + 2⟩
  | c :: rest => .ok ⟨some (.plain c), rest, index + 1⟩

/-- The source after the next token. -/
def advance (s : Source) : Except Fault Source := ofText s.rest s.index

/-- The place of the next token. -/
def place (s : Source) : Nat :=
  match s.next with
  | none => s.index
  | some token => s.index - token.text.length

/-- A problem `back` characters before the next token. -/
def fault (s : Source) (problem : Problem) (back : Nat := 0) : Fault :=
  .malformed problem (some (s.place - back))

/-- Whether the next token is a given character. -/
def at? (s : Source) (c : Char) : Bool := s.next == some (.plain c)

end Source
end MailScreen.Pattern
