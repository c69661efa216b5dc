import MailScreen.Proofs.Text.Trim
import MailScreen.Rule.Lines

/-!
# The content of a line

What a line says is made of its characters in their order: the comment, the backslashes of escapes
and the blanks at the ends are taken away and nothing is added. In particular no line feed comes in,
so the value of a line of a text is never cut off by one.

Writing a backslash before every number sign is undone by reading, whatever other backslashes stand
in the text (`RuleLine.content_escape`), and a comment after a text that does not end in a backslash
is passed over (`RuleLine.content_escape_comment`).
-/
namespace MailScreen.RuleLine

theorem dropComment_sublist (escaped : Bool) (line : Text) :
    (dropComment escaped line).Sublist line := by
  fun_induction dropComment escaped line with
  | case1 => exact .slnil
  | case2 escaped c rest h => exact List.nil_sublist _
  | case3 escaped c rest h ih => exact ih.cons_cons c

theorem unescape_sublist (t : Text) : (unescape t).Sublist t := by
  fun_induction unescape t with
  | case1 => exact .slnil
  | case2 rest ih => exact (ih.cons_cons '#').cons '\\'
  | case3 c rest _ ih => exact ih.cons_cons c

/-- What a line says is part of the line. -/
theorem content_sublist (line : Text) : (content line).Sublist line :=
  (Text.trim_sublist _).trans ((unescape_sublist _).trans (dropComment_sublist false line))

theorem firstWord_rest_sublist (t : Text) : (firstWord t).2.Sublist t :=
  (List.dropWhile_sublist _).trans (List.dropWhile_sublist _)

/-- The value of a line without a line feed has none. -/
theorem value_contains_lineFeed {line : Text} (h : '\n' ∉ line) :
    (firstWord (content line)).2.contains '\n' = false := by
  rw [List.contains_eq_mem, decide_eq_false_iff_not]
  exact fun hm => h (((firstWord_rest_sublist _).trans (content_sublist line)).subset hm)

/-! ## Escapes -/

/-- A text with a backslash before every number sign. -/
def escape (t : Text) : Text := t.flatMap fun c => if c = '#' then ['\\', '#'] else [c]

theorem escape_append (s t : Text) : escape (s ++ t) = escape s ++ escape t := List.flatMap_append

theorem escape_cons_hash (t : Text) : escape ('#' :: t) = '\\' :: '#' :: escape t := rfl

theorem escape_cons {c : Char} (hc : c ≠ '#') (t : Text) : escape (c :: t) = c :: escape t := by
  rw [escape, List.flatMap_cons, if_neg hc]
  rfl

theorem escape_of_notMem {t : Text} (h : '#' ∉ t) : escape t = t := by
  induction t with
  | nil => rfl
  | cons c rest ih =>
    rw [List.mem_cons, not_or] at h
    rw [escape_cons (Ne.symm h.1), ih h.2]

theorem head?_escape (t : Text) : (escape t).head? ≠ some '#' := by
  cases t with
  | nil => exact nofun
  | cons c rest =>
    by_cases hc : c = '#'
    · rw [hc, escape_cons_hash]
      exact fun h => absurd (Option.some.inj h) (by decide)
    · rw [escape_cons hc]
      exact fun h => hc (Option.some.inj h)

theorem unescape_cons {c : Char} {rest : Text} (h : rest.head? ≠ some '#') :
    unescape (c :: rest) = c :: unescape rest := by
  rw [unescape]
  rintro rest' - rfl
  exact h rfl

/-- Escapes are taken out again. -/
theorem unescape_escape (t : Text) : unescape (escape t) = t := by
  induction t with
  | nil => rfl
  | cons c rest ih =>
    by_cases hc : c = '#'
    · rw [hc, escape_cons_hash, unescape, ih]
    · rw [escape_cons hc, unescape_cons (head?_escape rest), ih]

/-- No comment starts in an escaped text. Whether one may start after it depends on its end. -/
theorem dropComment_escape_append (escaped : Bool) (t tail : Text) :
    dropComment escaped (escape t ++ tail) =
      escape t ++ dropComment (t.foldl (fun _ c => c == '\\') escaped) tail := by
  induction t generalizing escaped with
  | nil => rfl
  | cons c rest ih =>
    by_cases hc : c = '#'
    · rw [hc, escape_cons_hash]
      show dropComment escaped ('\\' :: '#' :: (escape rest ++ tail)) = _
      rw [dropComment, if_neg (by simp), dropComment, if_neg (by simp), ih]
      rfl
    · rw [escape_cons hc]
      show dropComment escaped (c :: (escape rest ++ tail)) = _
      rw [dropComment, if_neg (by simp [hc]), ih]
      rfl

/-- **A text that is written with escapes is what the line says.** -/
theorem content_escape (t : Text) : content (escape t) = Text.trim t := by
  have hd := dropComment_escape_append false t []
  rw [List.append_nil, dropComment, List.append_nil] at hd
  rw [content, hd, unescape_escape]

/-- **A comment is no part of what a line says.** -/
theorem content_escape_comment {t comment : Text} (ht : ∀ c ∈ t.getLast?, c ≠ '\\')
    (hc : '\n' ∉ comment) : content (escape t ++ '#' :: comment) = Text.trim t := by
  have hlast : t.foldl (fun _ c => c == '\\') false = false := by
    rcases List.eq_nil_or_concat t with rfl | ⟨init, last, rfl⟩
    · rfl
    · rw [List.concat_eq_append, List.foldl_append]
      simpa using ht
  have htail : isLineTail comment = true := by
    have hs : comment.dropWhile (· ≠ '\n') = [] := by
      rw [List.dropWhile_eq_nil_iff]
      intro c hm
      have hne : c ≠ '\n' := by
        rintro rfl
        exact hc hm
      simpa using hne
    rw [isLineTail, hs]
  rw [content, dropComment_escape_append, hlast, dropComment, if_pos (by simp [htail]),
    List.append_nil, unescape_escape]

/-! ## Words -/

/-- A word, blanks, and what starts with no blank. -/
theorem firstWord_append {word blanks rest : Text} (hw : ∀ c ∈ word, isBlank c = false)
    (hn : blanks ≠ []) (hb : ∀ c ∈ blanks, isBlank c = true)
    (hr : ∀ c ∈ rest.head?, isBlank c = false) :
    firstWord (word ++ blanks ++ rest) = (word, rest) := by
  have hstop : ∀ c ∈ (blanks ++ rest).head?, (!isBlank c) = false :=
    Text.forall_head?_append hn fun c hc => by rw [hb c hc]; rfl
  obtain ⟨htake, hdrop⟩ := Text.takeWhile_append_stop (fun c hc => by rw [hw c hc]; rfl) hstop
  rw [firstWord, List.append_assoc, htake, hdrop, List.dropWhile_append_of_pos hb,
    Text.dropWhile_of_head hr]

end MailScreen.RuleLine
