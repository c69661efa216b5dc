import MailScreen.Proofs.Header.Primary

/-!
# Comments, and where they may stand

Between the words of a structured header stand spaces, tabs and complete comments
(`Header.IsSpacing`), and after a semicolon there may be more semicolons among them
(`Header.IsFiller`). A comment is complete if its parentheses match, where one that a backslash
stands before does not count (`Header.IsCommentBody`). **All of it is skipped, and nothing that
comes after it** (`Header.skipBlanks_append`, `Header.skipSeparators_append_filler`).

At the end of a header blanks are trimmed, which may take some of the spacing along. What is left of
it is spacing (`Header.IsSpread.of_append_blanks`).
-/
namespace MailScreen

namespace Text

/-- A character that is not among the blanks at the end of a text comes before they are cut off. -/
theorem cut_after {s t cut blanks : Text} {c : Char} (hc : isBlank c = false)
    (hb : ∀ d ∈ blanks, isBlank d = true) (h : s ++ c :: t = cut ++ blanks) :
    ∃ left, cut = s ++ c :: left ∧ t = left ++ blanks := by
  rcases List.append_eq_append_iff.mp h with ⟨between, hcut, hbetween⟩ | ⟨between, -, hblanks⟩
  · cases between with
    | nil =>
      have hm : c ∈ blanks := by
        rw [List.nil_append] at hbetween
        exact hbetween ▸ List.mem_cons_self ..
      rw [hb c hm] at hc
      cases hc
    | cons d left =>
      obtain ⟨rfl, ht⟩ := List.cons.inj hbetween
      exact ⟨left, hcut, ht⟩
  · have hm : c ∈ blanks := by rw [hblanks]; simp
    rw [hb c hm] at hc
    cases hc

/-- Cutting the characters of a class off the end of a text spares what comes before another. -/
theorem dropEndWhile_append {p : Char → Bool} {s t : Text} (hs : ∀ c ∈ s.getLast?, p c = false) :
    ∃ left dropped, t = left ++ dropped ∧ (∀ c ∈ dropped, p c = true) ∧
      dropEndWhile p (s ++ t) = s ++ left := by
  have hh : s.reverse.dropWhile p = s.reverse :=
    dropWhile_of_head fun c hc => hs c (by rwa [List.head?_reverse] at hc)
  refine ⟨(t.reverse.dropWhile p).reverse, (t.reverse.takeWhile p).reverse, ?_, ?_, ?_⟩
  · rw [← List.reverse_append, List.takeWhile_append_dropWhile, List.reverse_reverse]
  · intro c hc
    exact List.mem_takeWhile_imp (List.mem_reverse.mp hc)
  · rw [dropEndWhile, List.reverse_append, List.dropWhile_append]
    split
    · rename_i he
      rw [hh, List.isEmpty_iff.mp he, List.reverse_reverse, List.reverse_nil, List.append_nil]
    · rw [List.reverse_append, List.reverse_reverse]

end Text

namespace Header

/-! ## Comments -/

/-- What may stand between the parentheses of a complete comment: characters, of which a backslash
takes the next one with it, and complete comments. -/
inductive IsCommentBody : Text → Prop
  | nil : IsCommentBody []
  | plain {c : Char} {rest : Text} (hc : c ≠ '(' ∧ c ≠ ')' ∧ c ≠ '\\') :
      IsCommentBody rest → IsCommentBody (c :: rest)
  | escaped {c : Char} {rest : Text} : IsCommentBody rest → IsCommentBody ('\\' :: c :: rest)
  | nested {inner rest : Text} : IsCommentBody inner → IsCommentBody rest →
      IsCommentBody ('(' :: (inner ++ ')' :: rest))

/-- A text of characters of a kind and complete comments. -/
inductive IsSpread (plain : Char → Prop) : Text → Prop
  | nil : IsSpread plain []
  | cons {c : Char} {rest : Text} (hc : plain c) : IsSpread plain rest → IsSpread plain (c :: rest)
  | comment {body rest : Text} : IsCommentBody body → IsSpread plain rest →
      IsSpread plain ('(' :: (body ++ ')' :: rest))

/-- What may stand between words: spaces, tabs and complete comments. -/
abbrev IsSpacing : Text → Prop := IsSpread fun c => isSpaceOrTab c = true

/-- What may stand after a semicolon: spaces, tabs, complete comments and more semicolons. -/
abbrev IsFiller : Text → Prop := IsSpread fun c => isSpaceOrTab c = true ∨ c = ';'

variable {s t : Text}

/-- A text without parentheses and backslashes may stand in a comment. -/
theorem IsCommentBody.of_plain (h : ∀ c ∈ s, c ≠ '(' ∧ c ≠ ')' ∧ c ≠ '\\') : IsCommentBody s := by
  induction s with
  | nil => exact .nil
  | cons c rest ih =>
    rw [List.forall_mem_cons] at h
    exact .plain h.1 (ih h.2)

theorem IsSpread.of_forall {plain : Char → Prop} (h : ∀ c ∈ s, plain c) : IsSpread plain s := by
  induction s with
  | nil => exact .nil
  | cons c rest ih =>
    rw [List.forall_mem_cons] at h
    exact .cons h.1 (ih h.2)

theorem IsSpread.mono {plain other : Char → Prop} (h : ∀ c, plain c → other c)
    (hs : IsSpread plain s) : IsSpread other s := by
  induction hs with
  | nil => exact .nil
  | cons hc _ ih => exact .cons (h _ hc) ih
  | comment hb _ ih => exact .comment hb ih

theorem IsSpacing.isFiller (hs : IsSpacing s) : IsFiller s := hs.mono fun _ => .inl

/-- **Blanks that are cut off the end of what is spread leave it spread.** They may come after a
comment, but not out of it, as a comment ends in a parenthesis. -/
theorem IsSpread.of_append_blanks {plain : Char → Prop} {cut blanks : Text}
    (hs : IsSpread plain s) (hb : ∀ c ∈ blanks, isBlank c = true) (h : s = cut ++ blanks) :
    IsSpread plain cut := by
  induction hs generalizing cut with
  | nil =>
    rw [(List.append_eq_nil_iff.mp h.symm).1]
    exact .nil
  | cons hc _ ih =>
    cases cut with
    | nil => exact .nil
    | cons d left =>
      obtain ⟨rfl, hrest⟩ := List.cons.inj h
      exact .cons hc (ih hrest)
  | @comment body rest hbody _ ih =>
    rw [← List.cons_append] at h
    obtain ⟨left, rfl, hrest⟩ := Text.cut_after (by decide) hb h
    exact .comment hbody (ih hrest)

/-! ## Skipping -/

/-- What stands in a comment is skipped while the comment is open, and leaves it open. -/
theorem skipBlanksAt_commentBody (hs : IsCommentBody s) (depth : Nat) (t : Text) :
    skipBlanksAt (depth + 1) (s ++ t) = skipBlanksAt (depth + 1) t := by
  induction hs generalizing depth t with
  | nil => rfl
  | @plain c rest hc _ ih =>
    obtain ⟨ho, hcl, he⟩ := hc
    rw [List.cons_append, skipBlanksAt]
    · rw [if_neg ho, if_neg hcl, ih]
    · exact fun h => absurd h he
    · exact fun _ _ h => absurd h he
  | escaped _ ih => exact ih depth t
  | @nested inner rest _ _ ihi ihr =>
    have ho : skipBlanksAt (depth + 1) ('(' :: (inner ++ ')' :: rest) ++ t) =
        skipBlanksAt (depth + 2) (inner ++ (')' :: (rest ++ t))) := by
      simp [skipBlanksAt]
    have hcl : skipBlanksAt (depth + 2) (')' :: (rest ++ t)) =
        skipBlanksAt (depth + 1) (rest ++ t) := by
      simp [skipBlanksAt]
    rw [ho, ihi, hcl, ihr]

/-- A complete comment is skipped. -/
theorem skipBlanks_comment {body : Text} (hb : IsCommentBody body) (t : Text) :
    skipBlanks ('(' :: (body ++ ')' :: t)) = skipBlanks t := by
  have ho : skipBlanks ('(' :: (body ++ ')' :: t)) = skipBlanksAt 1 (body ++ ')' :: t) := by
    simp [skipBlanks, skipBlanksAt, isSpaceOrTab]
  have hcl : skipBlanksAt 1 (')' :: t) = skipBlanks t := by
    simp [skipBlanks, skipBlanksAt]
  rw [ho, skipBlanksAt_commentBody hb, hcl]

/-- **Spacing is skipped**, and of what comes after it what would be skipped anyway. -/
theorem skipBlanks_append (hs : IsSpacing s) (t : Text) :
    skipBlanks (s ++ t) = skipBlanks t := by
  induction hs with
  | nil => rfl
  | cons hc _ ih => rw [List.cons_append, skipBlanks_cons hc, ih]
  | comment hb _ ih => rw [List.cons_append, List.append_assoc, List.cons_append,
      skipBlanks_comment hb, ih]

theorem skipBlanks_eq_nil (hs : IsSpacing s) : skipBlanks s = [] := by
  have h := skipBlanks_append hs []
  rwa [List.append_nil] at h

/-- **What stands after a semicolon is skipped** with it. -/
theorem skipSeparators_append_filler (hs : IsFiller s) (t : Text) :
    skipSeparators (s ++ t) = skipSeparators t := by
  induction hs with
  | nil => rfl
  | cons hc _ ih =>
    rcases hc with hc | rfl
    · rw [List.cons_append, skipSeparators_of_skipBlanks (skipBlanks_cons hc _), ih]
    · rw [List.cons_append, skipSeparators_of_semicolon (skipBlanks_of_head (by simp; decide)), ih]
  | comment hb _ ih =>
    rw [List.cons_append, List.append_assoc, List.cons_append,
      skipSeparators_of_skipBlanks (skipBlanks_comment hb _), ih]

/-- Items do not depend on what is skipped before them. -/
theorem items_of_skipSeparators (h : skipSeparators s = skipSeparators t) : items s = items t := by
  rw [items, items, h]

theorem items_append_filler (hs : IsFiller s) (t : Text) : items (s ++ t) = items t :=
  items_of_skipSeparators (skipSeparators_append_filler hs t)

/-! ## Trimming -/

/-- The blanks that a header starts with are trimmed, which leaves spacing before its primary
value. -/
theorem dropWhile_spacing (hs : IsSpacing s) (ht : ∀ c ∈ t.head?, isBlank c = false) :
    ∃ left, IsSpacing left ∧ (s ++ t).dropWhile isBlank = left ++ t := by
  induction hs with
  | nil => exact ⟨[], .nil, Text.dropWhile_of_head ht⟩
  | @cons c rest hc _ ih =>
    rwa [List.cons_append, List.dropWhile_cons_of_pos (isBlank_of_isSpaceOrTab hc)]
  | @comment body rest hbody hrest _ =>
    exact ⟨_, .comment hbody hrest, Text.dropWhile_of_head (by simp; decide)⟩

/-- **Unfolding a header on one line takes blanks off its ends**, and no part of its primary
value. -/
theorem unfold_spacing {primary : Text} (hb : NoBreak (s ++ (primary ++ t))) (hs : IsSpacing s)
    (hp : Ascii.IsToken primary) :
    ∃ left cut blanks, IsSpacing left ∧ t = cut ++ blanks ∧ (∀ c ∈ blanks, isBlank c = true) ∧
      unfold (s ++ (primary ++ t)) = left ++ (primary ++ cut) := by
  have hblank := isBlank_of_isToken hp
  obtain ⟨left, hleft, hd⟩ :=
    dropWhile_spacing (t := primary ++ t) hs (Text.forall_head?_append hp.ne_nil hblank)
  have hlast : ∀ c ∈ (left ++ primary).getLast?, isBlank c = false := by
    rw [List.getLast?_append_of_ne_nil _ hp.ne_nil]
    exact fun c hc => hblank c (List.mem_of_getLast? hc)
  obtain ⟨cut, blanks, ht, hblanks, he⟩ := Text.dropEndWhile_append (t := t) hlast
  refine ⟨left, cut, blanks, hleft, ht, hblanks, ?_⟩
  rw [unfold, unfoldLines_of_noBreak hb, Text.trim, Text.trimBy, hd, ← List.append_assoc, he,
    List.append_assoc]

end Header
end MailScreen
