import MailScreen.Proofs.Header.Leftovers

/-!
# How far is skipped

From one place of a text on, skipping goes up to another (`Header.skipFrom`). **It goes as far as
the longest spacing does that starts there** (`Header.skips_longest_spacing`): as far as spaces,
tabs and complete comments go on. Only a comment that is not closed takes it further, to the end of
the text.

A comment is closed at one place only (`Header.IsCommentBody.unique`), so a longer spacing is a
shorter one and more spacing (`Header.IsSpread.of_append`). Where no more is added, skipping stops.
-/
namespace MailScreen

namespace Text

variable {text rest : Text} {pos : Nat}

/-- The place of a text at which a rest of it begins: how many characters come before. -/
def placeOf (text rest : Text) : Nat := text.length - rest.length

theorem placeOf_le_length (text rest : Text) : placeOf text rest ≤ text.length := Nat.sub_le ..

theorem drop_placeOf (h : rest <:+ text) : text.drop (placeOf text rest) = rest :=
  (List.suffix_iff_eq_drop.mp h).symm

theorem placeOf_drop (h : pos ≤ text.length) : placeOf text (text.drop pos) = pos := by
  rw [placeOf, List.length_drop]
  omega

/-- What is left of what is left begins no earlier. -/
theorem le_placeOf (hp : pos ≤ text.length) (h : rest.length ≤ (text.drop pos).length) :
    pos ≤ placeOf text rest := by
  rw [List.length_drop] at h
  rw [placeOf]
  omega

end Text

namespace Header

variable {s t u : Text} {text : Text} {pos : Nat}

/-! ## Complete comments -/

/-- **A comment is closed at one place only.** -/
theorem IsCommentBody.unique {after after' : Text} (hs : IsCommentBody s) (ht : IsCommentBody t)
    (h : s ++ ')' :: after = t ++ ')' :: after') : s = t ∧ after = after' := by
  induction hs generalizing t after after' with
  | nil =>
    cases ht with
    | nil => exact ⟨rfl, (List.cons.inj h).2⟩
    | plain hc => exact absurd (List.cons.inj h).1.symm hc.2.1
    | escaped => exact absurd (List.cons.inj h).1 (by decide)
    | nested => exact absurd (List.cons.inj h).1 (by decide)
  | plain hc _ ih =>
    rw [List.cons_append] at h
    cases ht with
    | nil => exact absurd (List.cons.inj h).1 hc.2.1
    | plain _ ht =>
      rw [List.cons_append] at h
      obtain ⟨rfl, hrest⟩ := List.cons.inj h
      obtain ⟨rfl, rfl⟩ := ih ht hrest
      exact ⟨rfl, rfl⟩
    | escaped => exact absurd (List.cons.inj h).1 hc.2.2
    | nested => exact absurd (List.cons.inj h).1 hc.1
  | escaped _ ih =>
    rw [List.cons_append, List.cons_append] at h
    cases ht with
    | nil => exact absurd (List.cons.inj h).1 (by decide)
    | plain hc => exact absurd (List.cons.inj h).1.symm hc.2.2
    | escaped ht =>
      rw [List.cons_append, List.cons_append] at h
      obtain ⟨rfl, hrest⟩ := List.cons.inj (List.cons.inj h).2
      obtain ⟨rfl, rfl⟩ := ih ht hrest
      exact ⟨rfl, rfl⟩
    | nested => exact absurd (List.cons.inj h).1 (by decide)
  | nested _ _ ihi ihr =>
    rw [List.cons_append, List.append_assoc, List.cons_append] at h
    cases ht with
    | nil => exact absurd (List.cons.inj h).1 (by decide)
    | plain hc => exact absurd (List.cons.inj h).1.symm hc.1
    | escaped => exact absurd (List.cons.inj h).1 (by decide)
    | nested hti htr =>
      -- the comment inside is closed at one place, and so is what comes after it
      rw [List.cons_append, List.append_assoc, List.cons_append] at h
      obtain ⟨rfl, hrest⟩ := ihi hti (List.cons.inj h).2
      obtain ⟨rfl, rfl⟩ := ihr htr hrest
      exact ⟨rfl, rfl⟩

/-- A complete comment with its parentheses. -/
def IsComment (t : Text) : Prop := ∃ body, IsCommentBody body ∧ t = '(' :: (body ++ [')'])

/-- A text that starts with a comment and does not close it. -/
def StartsUnclosed (t : Text) : Prop :=
  t.head? = some '(' ∧ ∀ comment, IsComment comment → ¬ comment <+: t

theorem IsComment.isSpacing (h : IsComment t) : IsSpacing t := by
  obtain ⟨body, hb, rfl⟩ := h
  exact .comment hb .nil

theorem IsSpread.append {plain : Char → Prop} (hs : IsSpread plain s) (ht : IsSpread plain t) :
    IsSpread plain (s ++ t) := by
  induction hs with
  | nil => exact ht
  | cons hc _ ih => exact .cons hc ih
  | comment hb _ ih =>
    rw [List.cons_append, List.append_assoc]
    exact .comment hb ih

/-- **What a longer spacing has more than a shorter one is spacing.** -/
theorem IsSpread.of_append {plain : Char → Prop} (ho : ¬ plain '(') (hs : IsSpread plain s)
    (h : IsSpread plain (s ++ t)) : IsSpread plain t := by
  induction hs with
  | nil => exact h
  | @cons c rest hc _ ih =>
    generalize hw : c :: rest ++ t = whole at h
    rw [List.cons_append] at hw
    cases h with
    | nil => cases hw
    | cons _ h =>
      obtain ⟨-, rfl⟩ := List.cons.inj hw
      exact ih h
    | comment => exact absurd ((List.cons.inj hw).1 ▸ hc) ho
  | @comment body rest hb _ ih =>
    generalize hw : '(' :: (body ++ ')' :: rest) ++ t = whole at h
    rw [List.cons_append, List.append_assoc, List.cons_append] at hw
    cases h with
    | nil => cases hw
    | cons hc => exact absurd ((List.cons.inj hw).1 ▸ hc) ho
    | comment hb' h =>
      obtain ⟨-, rfl⟩ := hb.unique hb' (List.cons.inj hw).2
      exact ih h

/-! ## Where spacing ends -/

/-- A text that starts no spacing. -/
def StartsNoSpacing (t : Text) : Prop := ∀ gap, IsSpacing gap → gap <+: t → gap = []

/-- A text is spacing and what starts no more of it. -/
theorem exists_spacing_append (t : Text) : ∃ s u, t = s ++ u ∧ IsSpacing s ∧ StartsNoSpacing u := by
  by_cases h : StartsNoSpacing t
  · exact ⟨[], t, rfl, .nil, h⟩
  · obtain ⟨gap, hgap, ⟨rest, rfl⟩, hne⟩ : ∃ gap, IsSpacing gap ∧ gap <+: t ∧ gap ≠ [] := by
      simpa [StartsNoSpacing] using h
    have : rest.length < (gap ++ rest).length := by
      have := List.length_pos_of_ne_nil hne
      rw [List.length_append]
      omega
    obtain ⟨s, u, rfl, hs, hu⟩ := exists_spacing_append rest
    exact ⟨gap ++ s, u, by rw [List.append_assoc], hgap.append hs, hu⟩
termination_by t.length

/-- No spacing goes on after the longest. -/
theorem StartsNoSpacing.length_le (hu : StartsNoSpacing u) (hs : IsSpacing s) {other : Text}
    (ho : IsSpacing other) (h : other <+: s ++ u) : other.length ≤ s.length := by
  rcases List.prefix_or_prefix_of_prefix h (List.prefix_append s u) with hle | ⟨more, rfl⟩
  · exact hle.length_le
  · have hmore : IsSpacing more := hs.of_append (by decide) ho
    rw [List.prefix_append_right_inj] at h
    rw [hu more hmore h, List.append_nil]

/-- A comment that is not closed is skipped with all that comes after it. -/
theorem StartsUnclosed.skipBlanks_eq (h : StartsUnclosed t) : skipBlanks t = [] := by
  obtain ⟨hhead, hopen⟩ := h
  obtain ⟨rest, rfl⟩ := List.head?_eq_some_iff.mp hhead
  have hinside : skipBlanks ('(' :: rest) = skipBlanksAt 1 rest := by
    simp [skipBlanks, skipBlanksAt, isSpaceOrTab]
  rw [hinside]
  cases hskip : skipBlanksAt 1 rest with
  | nil => rfl
  | cons c left =>
    obtain ⟨_, ⟨body, after, hb, rfl, -⟩, rfl⟩ := exists_closesSpacing hskip
    exact absurd ⟨after ++ c :: left, by simp⟩ (hopen ('(' :: (body ++ [')'])) ⟨body, hb, rfl⟩)

/-- Where no spacing starts, nothing is skipped but a comment that is not closed. -/
theorem StartsNoSpacing.skipBlanks_eq (h : StartsNoSpacing t) (hc : ¬ StartsUnclosed t) :
    skipBlanks t = t := by
  refine skipBlanks_of_head fun c hhead => ?_
  obtain ⟨rest, rfl⟩ := List.head?_eq_some_iff.mp hhead
  constructor
  · rw [Bool.eq_false_iff]
    intro hspace
    cases h [c] (.cons hspace .nil) ⟨rest, rfl⟩
  · rintro rfl
    refine hc ⟨rfl, fun comment hcomment hprefix => ?_⟩
    obtain rfl := h comment hcomment.isSpacing hprefix
    obtain ⟨body, -, he⟩ := hcomment
    cases he

/-! ## Places -/

/-- The place up to which spaces, tabs and comments are skipped from another on. -/
def skipFrom (text : Text) (pos : Nat) : Nat := Text.placeOf text (skipBlanks (text.drop pos))

theorem drop_skipFrom (text : Text) (pos : Nat) :
    text.drop (skipFrom text pos) = skipBlanks (text.drop pos) :=
  Text.drop_placeOf ((skipBlanks_suffix _).trans (List.drop_suffix pos text))

/-- The longest spacing of a text from one place on ends at another. -/
structure IsLongestSpacing (text : Text) (pos stop : Nat) : Prop where
  le : pos ≤ stop
  le_length : stop ≤ text.length
  spacing : IsSpacing (text.extract pos stop)
  longest : ∀ later ≤ text.length, IsSpacing (text.extract pos later) → later ≤ stop

/-- From each place on there is a longest spacing, and what comes after it starts no more. -/
theorem exists_isLongestSpacing (hp : pos ≤ text.length) :
    ∃ stop, IsLongestSpacing text pos stop ∧ StartsNoSpacing (text.drop stop) ∧
      skipBlanks (text.drop pos) = skipBlanks (text.drop stop) := by
  obtain ⟨s, u, he, hs, hu⟩ := exists_spacing_append (text.drop pos)
  have hlength : text.length - pos = s.length + u.length := by
    rw [← List.length_drop, he, List.length_append]
  have hdrop : text.drop (pos + s.length) = u := by
    rw [← List.drop_drop, he, List.drop_left]
  have hextract : text.extract pos (pos + s.length) = s := by
    rw [List.extract_eq_take_drop, Nat.add_sub_cancel_left, he, List.take_left]
  refine ⟨pos + s.length, ⟨by omega, by omega, hextract.symm ▸ hs, fun later hl hg => ?_⟩,
    hdrop.symm ▸ hu, ?_⟩
  · have hle := hu.length_le hs hg (he ▸ List.take_prefix ..)
    rw [List.extract_eq_take_drop, List.length_take, List.length_drop] at hle
    omega
  · rw [hdrop, he, skipBlanks_append hs]

/-- **Skipping goes up to the end of the longest spacing**, or to the end of the text if a comment
comes next that is not closed. There is nothing more to skip there. -/
theorem skips_longest_spacing (hp : pos ≤ text.length) :
    text.drop (skipFrom text pos) = skipBlanks (text.drop pos) ∧
    (∃ stop, IsLongestSpacing text pos stop ∧
      (StartsUnclosed (text.drop stop) → skipFrom text pos = text.length) ∧
      (¬ StartsUnclosed (text.drop stop) → skipFrom text pos = stop)) ∧
    pos ≤ skipFrom text pos ∧ skipFrom text pos ≤ text.length ∧
    (skipFrom text pos = text.length ∨
      ∃ c, text[skipFrom text pos]? = some c ∧ c ∉ [' ', '\t', '(']) ∧
    skipFrom text (skipFrom text pos) = skipFrom text pos := by
  have hdrop := drop_skipFrom text pos
  refine ⟨hdrop, ?_, Text.le_placeOf hp (length_skipBlanks_le _), Text.placeOf_le_length .., ?_, ?_⟩
  · obtain ⟨stop, hstop, hno, hskip⟩ := exists_isLongestSpacing hp
    refine ⟨stop, hstop, fun hopen => ?_, fun hopen => ?_⟩
    · rw [skipFrom, hskip, hopen.skipBlanks_eq]
      rfl
    · rw [skipFrom, hskip, hno.skipBlanks_eq hopen, Text.placeOf_drop hstop.le_length]
  · cases hleft : skipBlanks (text.drop pos) with
    | nil =>
      left
      rw [skipFrom, hleft]
      rfl
    | cons c rest =>
      right
      obtain ⟨hspace, hcomment⟩ := skipBlanks_stops hleft
      refine ⟨c, ?_, ?_⟩
      · rw [← List.head?_drop, hdrop, hleft]
        rfl
      · simpa [isSpaceOrTab, hcomment] using hspace
  · rw [skipFrom, hdrop, skipBlanks_skipBlanks]
    rfl

/-- A parenthesis that a backslash stands before does not close a comment, so the spacing goes on up
to the semicolon. -/
theorem skips_longest_spacing_of_escape :
    1 ≤ "a (b(\\)c)) \t;d".toList.length ∧
      skipFrom "a (b(\\)c)) \t;d".toList 1 = 12 ∧
      IsLongestSpacing "a (b(\\)c)) \t;d".toList 1 12 := by
  have hp : 1 ≤ "a (b(\\)c)) \t;d".toList.length := by decide
  have hskip : skipFrom "a (b(\\)c)) \t;d".toList 1 = 12 := by decide
  obtain ⟨-, ⟨stop, hstop, hopen, hclosed⟩, -⟩ := skips_longest_spacing hp
  refine ⟨hp, hskip, ?_⟩
  by_cases h : StartsUnclosed ("a (b(\\)c)) \t;d".toList.drop stop)
  · exact absurd (hskip.symm.trans (hopen h)) (by decide)
  · rwa [hskip.symm.trans (hclosed h)]

end Header
end MailScreen
