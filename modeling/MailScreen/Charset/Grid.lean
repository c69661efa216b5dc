import MailScreen.Charset.Bytes

/-!
# Grids of characters

A coded character set is a grid: numbered rows of characters, in which a blank stands where there is
no character. A character is looked up by its place, and a place by its character.
-/
namespace MailScreen

/-- Rows of characters. -/
structure CharGrid where
  /-- The number of the first row. -/
  firstRow : Nat
  /-- The rows in order. What is left out at the end of a row is blank. -/
  rows : List String
  deriving DecidableEq, Repr

namespace CharGrid

/-- The character in a column, counted from 0, of a row. -/
def char? (grid : CharGrid) (row column : Nat) : Option Char :=
  if row < grid.firstRow then none
  else
    match grid.rows[row - grid.firstRow]? with
    | none => none
    | some characters => characters.toList[column]?.filter (· ≠ ' ')

/-- The first column in which a character stands. -/
def column? (c : Char) (column : Nat) : Text → Option Nat
  | [] => none
  | d :: rest => if c = d then some column else column? c (column + 1) rest

/-- The first row and column in which a character stands, of rows that are numbered from `row`. -/
def placeIn? (c : Char) (row : Nat) : List String → Option (Nat × Nat)
  | [] => none
  | characters :: rest =>
    match column? c 0 characters.toList with
    | some column => some (row, column)
    | none => placeIn? c (row + 1) rest

/-- The first row and column in which a character stands. -/
def place? (grid : CharGrid) (c : Char) : Option (Nat × Nat) :=
  if c = ' ' then none else placeIn? c grid.firstRow grid.rows

end CharGrid

/-- Characters that follow one another, by a first place, a length and a first code point. -/
abbrev CharRuns := List (Nat × Nat × Nat)

namespace CharRuns

/-- The code point at a place. -/
def code? (place : Nat) : CharRuns → Option Nat
  | [] => none
  | (first, length, code) :: rest =>
    if first ≤ place && place < first + length then some (code + (place - first))
    else code? place rest

/-- The place of a code point. -/
def place? (n : Nat) : CharRuns → Option Nat
  | [] => none
  | (first, length, code) :: rest =>
    if code ≤ n && n < code + length then some (first + (n - code)) else place? n rest

end CharRuns
end MailScreen
