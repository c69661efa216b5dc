import MailScreen.Proofs.Text.Line
import MailScreen.Proofs.Text.Trim

/-!
# Pieces that are joined and cut apart

What is joined with a character that stands in none of the pieces is cut apart again at this
character (`List.splitOn_intercalate`), and lines that are joined with line feeds are read as these
lines (`Text.lines_intercalate`). Header lines are put together in this way with line feeds, and
paths with slashes. A joined text holds nothing but the pieces and what is between them
(`Text.mem_intercalate`), so there are line breaks in it only if there are in one of these.
-/
namespace MailScreen

namespace Text

theorem cut?_of_notMem {separator : Char} {t : Text} (h : separator ∉ t) :
    cut? separator t = none := by
  induction t with
  | nil => rfl
  | cons c rest ih =>
    rw [List.mem_cons, not_or] at h
    rw [cut?, if_neg (Ne.symm h.1), ih h.2]
    rfl

/-- A text is cut at the first place where the character stands. -/
theorem cut?_append {separator : Char} {s : Text} (h : separator ∉ s) (t : Text) :
    cut? separator (s ++ separator :: t) = some (s, t) := by
  induction s with
  | nil => rw [List.nil_append, cut?, if_pos rfl]
  | cons c rest ih =>
    rw [List.mem_cons, not_or] at h
    rw [List.cons_append, cut?, if_neg (Ne.symm h.1), ih h.2]
    rfl

/-- The character at which a text is cut is in none of the pieces. -/
theorem notMem_of_mem_splitOn {separator : Char} {t piece : Text}
    (h : piece ∈ List.splitOn separator t) : separator ∉ piece := by
  induction t generalizing piece with
  | nil =>
    rw [List.splitOn_nil, List.mem_singleton] at h
    rw [h]
    exact List.not_mem_nil
  | cons c rest ih =>
    rw [List.splitOn_cons_eq_if_modifyHead] at h
    by_cases hc : (c == separator) = true
    · rw [if_pos hc] at h
      rcases List.mem_cons.mp h with rfl | h
      · exact List.not_mem_nil
      · exact ih h
    · obtain ⟨first, pieces, hs⟩ := List.exists_cons_of_ne_nil (List.splitOn_ne_nil separator rest)
      rw [if_neg hc, hs, List.modifyHead_cons] at h
      rw [hs] at ih
      rcases List.mem_cons.mp h with rfl | h
      · rw [List.mem_cons, not_or]
        exact ⟨fun he => hc (beq_iff_eq.mpr he.symm), ih (List.mem_cons_self ..)⟩
      · exact ih (List.mem_cons_of_mem first h)

/-- **Lines that are joined with line feeds are the lines of the text**, but that an empty one at
the end is none. -/
theorem lines_intercalate {pieces : List Text}
    (h : ∀ piece ∈ pieces, ∀ c ∈ piece, isLineBreak c = false) :
    lines (List.intercalate ['\n'] pieces) = pieces ∨
      lines (List.intercalate ['\n'] pieces) ++ [[]] = pieces := by
  induction pieces with
  | nil => exact .inl rfl
  | cons piece rest ih =>
    rw [List.forall_mem_cons] at h
    cases rest with
    | nil =>
      have hl : lines piece = if piece = [] then [] else [piece] := by
        have hp := linesFrom_append h.1 [] []
        rw [List.append_nil, List.append_nil] at hp
        rw [lines, hp, linesFrom]
        simp
      rw [List.intercalate_singleton, hl]
      by_cases hp : piece = []
      · rw [if_pos hp, hp]
        exact .inr rfl
      · rw [if_neg hp]
        exact .inl rfl
    | cons next rest =>
      have hl : lines (List.intercalate ['\n'] (piece :: next :: rest)) =
          piece :: lines (List.intercalate ['\n'] (next :: rest)) := by
        rw [List.intercalate_cons_of_ne_nil (List.cons_ne_nil _ _), List.append_assoc, lines,
          linesFrom_append h.1, List.append_nil, List.singleton_append, linesFrom_lineFeed,
          List.reverse_reverse]
        rfl
      rw [hl]
      exact (ih h.2).imp (congrArg _) (congrArg _)

/-- Two texts that are cut apart: the last piece of one and the first of the other are one piece of
both together. -/
theorem splitOn_append {separator : Char} {s t last first : Text} {init rest : List Text}
    (hs : List.splitOn separator s = init ++ [last])
    (ht : List.splitOn separator t = first :: rest) :
    List.splitOn separator (s ++ t) = init ++ (last ++ first) :: rest := by
  induction s generalizing init last with
  | nil =>
    cases init with
    | nil =>
      obtain ⟨rfl, -⟩ := List.cons.inj hs
      exact ht
    | cons head init =>
      obtain ⟨-, hs⟩ := List.cons.inj hs
      exact absurd hs.symm (List.append_ne_nil_of_right_ne_nil _ (List.cons_ne_nil _ _))
  | cons c s ih =>
    rw [List.cons_append, List.splitOn_cons_eq_if_modifyHead]
    rw [List.splitOn_cons_eq_if_modifyHead] at hs
    by_cases hc : (c == separator) = true
    · rw [if_pos hc] at hs ⊢
      cases init with
      | nil => exact absurd (List.cons.inj hs).2 (List.splitOn_ne_nil separator s)
      | cons head init =>
        rw [List.cons_append] at hs
        obtain ⟨rfl, htail⟩ := List.cons.inj hs
        rw [ih htail]
        rfl
    · obtain ⟨piece, pieces, hp⟩ := List.exists_cons_of_ne_nil (List.splitOn_ne_nil separator s)
      rw [if_neg hc, hp, List.modifyHead_cons] at hs
      rw [if_neg hc]
      cases init with
      | nil =>
        obtain ⟨rfl, rfl⟩ := List.cons.inj hs
        have hr : List.splitOn separator (s ++ t) = [] ++ (piece ++ first) :: rest := ih hp
        rw [hr]
        rfl
      | cons head init =>
        rw [List.cons_append] at hs
        obtain ⟨rfl, rfl⟩ := List.cons.inj hs
        have hr : List.splitOn separator (s ++ t) =
          (piece :: init) ++ (last ++ first) :: rest := ih hp
        rw [hr]
        rfl

/-- Blanks at the ends of a text make no difference to its pieces without the blanks at theirs. -/
theorem map_trim_splitOn_trim {separator : Char} (hs : isBlank separator = false) (t : Text) :
    (List.splitOn separator (trim t)).map trim = (List.splitOn separator t).map trim := by
  have hsplit {blanks : Text} (hb : ∀ c ∈ blanks, isBlank c = true) :
      List.splitOn separator blanks = [blanks] :=
    List.splitOn_eq_singleton fun hm => absurd (hb _ hm) (by simp [hs])
  obtain ⟨before, after, ht, hb, ha⟩ := exists_surrounded t
  -- what is trimmed before stands in the first piece, and what is trimmed after in the last
  have hbefore : (List.splitOn separator (before ++ trim t)).map trim =
      (List.splitOn separator (trim t)).map trim := by
    obtain ⟨first, rest, hf⟩ := List.exists_cons_of_ne_nil (List.splitOn_ne_nil separator (trim t))
    have hj : List.splitOn separator (before ++ trim t) = [] ++ (before ++ first) :: rest :=
      splitOn_append (hsplit hb) hf
    have hfirst := trim_append_of_blanks hb (List.forall_mem_nil _) first
    rw [List.append_nil] at hfirst
    rw [hj, hf, List.nil_append, List.map_cons, List.map_cons, hfirst]
  have hafter : (List.splitOn separator (before ++ trim t ++ after)).map trim =
      (List.splitOn separator (before ++ trim t)).map trim := by
    obtain ⟨init, last, hl⟩ := List.eq_nil_or_concat' (List.splitOn separator (before ++ trim t))
      |>.resolve_left (List.splitOn_ne_nil separator _)
    have hj : List.splitOn separator (before ++ trim t ++ after) = init ++ (last ++ after) :: [] :=
      splitOn_append hl (hsplit ha)
    have hlast := trim_append_of_blanks (List.forall_mem_nil _) ha last
    rw [List.nil_append] at hlast
    rw [hj, hl, List.map_append, List.map_append, List.map_singleton, List.map_singleton, hlast]
  conv_rhs => rw [ht, hafter, hbefore]

/-- What is joined to nothing is made of nothing. -/
theorem eq_nil_of_intercalate_eq_nil {separator : Text} {pieces : List Text}
    (h : List.intercalate separator pieces = []) : ∀ piece ∈ pieces, piece = [] := by
  induction pieces with
  | nil => exact fun _ hm => absurd hm List.not_mem_nil
  | cons piece rest ih =>
    cases rest with
    | nil => exact List.forall_mem_singleton.mpr (List.intercalate_singleton.symm.trans h)
    | cons next rest =>
      rw [List.intercalate_cons_of_ne_nil (List.cons_ne_nil _ _)] at h
      obtain ⟨hpiece, hrest⟩ := List.append_eq_nil_iff.mp h
      exact List.forall_mem_cons.mpr ⟨(List.append_eq_nil_iff.mp hpiece).1, ih hrest⟩

/-- A piece occurs in what it is put in. -/
theorem hasPiece_append (before piece after : Text) :
    hasPiece piece (before ++ (piece ++ after)) = true := by
  induction before with
  | nil =>
    rw [List.nil_append]
    cases h : piece ++ after with
    | nil =>
      rw [(List.append_eq_nil_iff.mp h).1]
      rfl
    | cons c rest =>
      rw [hasPiece, ← h, List.isPrefixOf_iff_prefix.mpr (List.prefix_append piece after)]
      rfl
  | cons c rest ih => rw [List.cons_append, hasPiece, ih, Bool.or_true]

theorem mem_intercalate {separator : Text} {pieces : List Text} {c : Char}
    (h : c ∈ List.intercalate separator pieces) : c ∈ separator ∨ ∃ piece ∈ pieces, c ∈ piece := by
  induction pieces with
  | nil => simp at h
  | cons piece rest ih =>
    cases rest with
    | nil =>
      rw [List.intercalate_singleton] at h
      exact .inr ⟨piece, List.mem_singleton_self piece, h⟩
    | cons next rest =>
      rw [List.intercalate_cons_of_ne_nil (by simp), List.mem_append, List.mem_append] at h
      rcases h with (h | h) | h
      · exact .inr ⟨piece, List.mem_cons_self .., h⟩
      · exact .inl h
      · rcases ih h with h | ⟨piece', hp, hc⟩
        · exact .inl h
        · exact .inr ⟨piece', List.mem_cons_of_mem piece hp, hc⟩

end Text

/-- Pieces without line breaks make a text without them, if they are joined without. -/
theorem NoBreak.intercalate {separator : Text} {pieces : List Text} (hs : NoBreak separator)
    (h : ∀ piece ∈ pieces, NoBreak piece) : NoBreak (List.intercalate separator pieces) := by
  intro c hc
  rcases Text.mem_intercalate hc with hc | ⟨piece, hp, hc⟩
  · exact hs c hc
  · exact h piece hp c hc

end MailScreen
