import Mathlib.Data.List.Basic
import MailScreen.Proofs.Text.Ascii
import MailScreen.Text.Line

/-!
# No line holds a line

The lines of a text hold none of the characters that end a line (`isLineBreak_of_mem_lines`). What
is read line by line is therefore never cut short by a line feed. Of what is written line by line
that has to be asked: mail ends its lines with carriage returns and line feeds, and a text without
them stands on one line (`NoBreak`).
-/
namespace MailScreen

/-- A text without line breaks. -/
def NoBreak (t : Text) : Prop := ∀ c ∈ t, c ≠ '\r' ∧ c ≠ '\n'

instance (t : Text) : Decidable (NoBreak t) :=
  inferInstanceAs (Decidable (∀ c ∈ t, c ≠ '\r' ∧ c ≠ '\n'))

namespace NoBreak

variable {s t : Text}

theorem cons {c : Char} (ht : NoBreak t) (hr : c ≠ '\r') (hn : c ≠ '\n') : NoBreak (c :: t) := by
  intro d hd
  rcases List.mem_cons.mp hd with rfl | hd
  · exact ⟨hr, hn⟩
  · exact ht d hd

theorem append (hs : NoBreak s) (ht : NoBreak t) : NoBreak (s ++ t) :=
  List.forall_mem_append.mpr ⟨hs, ht⟩

/-- Characters of a kind that no line break is of make no line break. -/
theorem of_forall {p : Char → Bool} (hr : p '\r' = false) (hn : p '\n' = false)
    (h : ∀ c ∈ t, p c = true) : NoBreak t := by
  intro c hc
  refine ⟨?_, ?_⟩
  · rintro rfl
    rw [h _ hc] at hr
    cases hr
  · rintro rfl
    rw [h _ hc] at hn
    cases hn

/-- All line breaks are blanks. -/
theorem of_noBlank (h : ∀ c ∈ t, isBlank c = false) : NoBreak t :=
  of_forall (p := fun c => !isBlank c) (by decide) (by decide) fun c hc => by rw [h c hc]; rfl

theorem of_isToken (ht : Ascii.IsToken t) : NoBreak t :=
  of_forall (by decide) (by decide) ht.chars

end NoBreak

namespace Text

theorem isLineBreak_of_mem_linesFrom {line t piece : Text} {c : Char}
    (hl : ∀ d ∈ line, isLineBreak d = false) (h : piece ∈ linesFrom line t) (hc : c ∈ piece) :
    isLineBreak c = false := by
  fun_induction linesFrom line t with
  | case1 => simp at h
  | case2 line hne =>
    obtain rfl := List.mem_singleton.mp h
    exact hl c (List.mem_reverse.mp hc)
  | case3 line rest ih =>
    rcases List.mem_cons.mp h with rfl | h
    · exact hl c (List.mem_reverse.mp hc)
    · exact ih (by simp) h
  | case4 line d rest _ hd ih =>
    rcases List.mem_cons.mp h with rfl | h
    · exact hl c (List.mem_reverse.mp hc)
    · exact ih (by simp) h
  | case5 line d rest _ hd ih =>
    refine ih ?_ h
    intro e he
    rcases List.mem_cons.mp he with rfl | he
    · simpa using hd
    · exact hl e he

/-- The lines of a text hold no character that ends a line. -/
theorem isLineBreak_of_mem_lines {t line : Text} {c : Char} (h : line ∈ lines t) (hc : c ∈ line) :
    isLineBreak c = false :=
  isLineBreak_of_mem_linesFrom (by simp) h hc

theorem lineFeed_notMem_of_mem_lines {t line : Text} (h : line ∈ lines t) : '\n' ∉ line := by
  intro hc
  have := isLineBreak_of_mem_lines h hc
  revert this
  decide

theorem linesFrom_cons {c : Char} (h : isLineBreak c = false) (line rest : Text) :
    linesFrom line (c :: rest) = linesFrom (c :: line) rest := by
  have hr : c ≠ '\r' := by
    rintro rfl
    exact absurd h (by decide)
  rw [linesFrom, h]
  · rfl
  · exact fun _ he _ => hr he

theorem linesFrom_lineFeed (line rest : Text) :
    linesFrom line ('\n' :: rest) = line.reverse :: linesFrom [] rest := by
  rw [linesFrom]
  · rfl
  · exact fun _ he _ => absurd he (by decide)

/-- Text without line breaks is part of the line that it is read in. -/
theorem linesFrom_append {piece : Text} (h : ∀ c ∈ piece, isLineBreak c = false)
    (line rest : Text) :
    linesFrom line (piece ++ rest) = linesFrom (piece.reverse ++ line) rest := by
  induction piece generalizing line with
  | nil => rfl
  | cons c piece ih =>
    rw [List.forall_mem_cons] at h
    rw [List.cons_append, linesFrom_cons h.1, ih h.2, List.reverse_cons, List.append_assoc]
    rfl

end Text
end MailScreen
