/-!
# Text

A text is a list of characters, so that a scanner is a recursion on what is left of it. This
module holds the operations that need no character data: cutting at a character, looking for a
piece, and membership in a list of code point ranges.
-/
namespace MailScreen

/-- A text is the list of its characters. -/
abbrev Text := List Char

/-- Membership of `n` in a list of inclusive ranges in increasing order. -/
def inRanges (n : Nat) : List (Nat × Nat) → Bool
  | [] => false
  | (first, last) :: rest => if n < first then false else n ≤ last || inRanges n rest

namespace Text

/-- The text before and after the first occurrence of a character, if it occurs. -/
def cut? (separator : Char) : Text → Option (Text × Text)
  | [] => none
  | c :: rest =>
    if c = separator then some ([], rest)
    else (cut? separator rest).map fun (before, after) => (c :: before, after)

/-- Whether `piece` occurs somewhere in a text. -/
def hasPiece {α : Type} [BEq α] (piece : List α) : List α → Bool
  | [] => piece.isEmpty
  | c :: rest => piece.isPrefixOf (c :: rest) || hasPiece piece rest

/-- A text without the characters of a class at its end. -/
def dropEndWhile (p : Char → Bool) (t : Text) : Text := (t.reverse.dropWhile p).reverse

end Text
end MailScreen
