import MailScreen.Text.Blank

/-!
# Comments between header words

Between the words of a structured header stand spaces, tabs and comments in parentheses. Comments
nest, and inside one a backslash takes the next character with it. A comment that is not closed
runs to the end of the header.
-/
namespace MailScreen.Header

/-- What is left of a text after the blanks and comments it starts with, when `depth` comments are
open at its start. -/
def skipBlanksAt : Nat → Text → Text
  | _, [] => []
  | 0, c :: rest =>
    if isSpaceOrTab c then skipBlanksAt 0 rest
    else if c = '(' then skipBlanksAt 1 rest
    else c :: rest
  | _ + 1, ['\\'] => []
  | depth + 1, '\\' :: _ :: rest => skipBlanksAt (depth + 1) rest
  | depth + 1, c :: rest =>
    if c = '(' then skipBlanksAt (depth + 2) rest
    else if c = ')' then skipBlanksAt depth rest
    else skipBlanksAt (depth + 1) rest

/-- What is left of a text after the spaces, tabs and comments it starts with. -/
def skipBlanks (t : Text) : Text := skipBlanksAt 0 t

/-- Skipping leaves at most what there was. -/
theorem length_skipBlanksAt_le (depth : Nat) (t : Text) :
    (skipBlanksAt depth t).length ≤ t.length := by
  fun_induction skipBlanksAt depth t <;> simp_all <;> omega

theorem length_skipBlanks_le (t : Text) : (skipBlanks t).length ≤ t.length :=
  length_skipBlanksAt_le 0 t

/-- What is left after skipping starts with none of space, tab and opening parenthesis. -/
theorem skipBlanks_stops {t : Text} {c : Char} {rest : Text} (h : skipBlanks t = c :: rest) :
    isSpaceOrTab c = false ∧ c ≠ '(' := by
  suffices ∀ depth t, skipBlanksAt depth t = c :: rest → isSpaceOrTab c = false ∧ c ≠ '(' from
    this 0 t h
  intro depth t
  fun_induction skipBlanksAt depth t <;> simp_all
  rintro rfl _
  exact ⟨‹_›, ‹_›⟩

/-- Skipping again skips nothing. -/
theorem skipBlanks_skipBlanks (t : Text) : skipBlanks (skipBlanks t) = skipBlanks t := by
  cases h : skipBlanks t with
  | nil => rfl
  | cons c rest =>
    obtain ⟨hb, hp⟩ := skipBlanks_stops h
    simp [skipBlanks, skipBlanksAt, hb, hp]

end MailScreen.Header
