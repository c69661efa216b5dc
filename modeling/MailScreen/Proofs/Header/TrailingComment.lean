import MailScreen.Proofs.Header.InComment
import MailScreen.Proofs.Header.Skipping

/-!
# Comments after bare values

Everywhere else in a header comments are skipped, but after a value without quotation marks they are
taken with the value, as far as it goes on, and then one comment without parentheses in it is cut
off its end (`Header.dropTrailingComment_cases`). A value goes on from one comment to the next, so
of comments that are all taken this is **the only one** (`Header.exists_single`). A value may also
end in a comment, of which the rest is then left.
-/
namespace MailScreen.Header

open Ascii

/-- A comment with the blanks before it. -/
structure TrailingComment where
  /-- The blanks. -/
  blanks : Text
  /-- What stands between the parentheses. -/
  body : Text
  deriving DecidableEq, Repr

namespace TrailingComment

/-- A comment as it is put down after a value. -/
def text (c : TrailingComment) : Text := c.blanks ++ '(' :: (c.body ++ [')'])

/-- A complete comment, on one line, after at least one space or tab. -/
structure IsProper (c : TrailingComment) : Prop where
  ne_nil : c.blanks ≠ []
  blanks : ∀ d ∈ c.blanks, isSpaceOrTab d = true
  body : IsCommentBody c.body
  noBreak : NoBreak c.body

end TrailingComment

/-- A value of one word in which nothing looks like a quotation or a comment. -/
structure IsWord (t : Text) : Prop where
  ne_nil : t ≠ []
  noBlank : ∀ c ∈ t, isBlank c = false
  noMark : ∀ c ∈ t, c ∉ [';', '(', ')', '"', '\\']

instance (t : Text) : Decidable (IsWord t) :=
  decidable_of_iff
    (t ≠ [] ∧ (∀ c ∈ t, isBlank c = false) ∧ ∀ c ∈ t, c ∉ [';', '(', ')', '"', '\\'])
    ⟨fun h => ⟨h.1, h.2.1, h.2.2⟩, fun h => ⟨h.ne_nil, h.noBlank, h.noMark⟩⟩

/-- A comment as it is cut off the end of a value. -/
structure TrailingComment.IsCutOff (c : TrailingComment) : Prop where
  ne_nil : c.blanks ≠ []
  blanks : ∀ d ∈ c.blanks, isSpaceOrTab d = true
  noOpening : '(' ∉ c.body
  noClosing : ')' ∉ c.body

variable {s t value : Text} {comments : List TrailingComment}

/-! ## What is left of comments -/

/-- A bare value goes on through spaces, tabs and comments, if a comment comes last. -/
theorem bareContinues_of_isSpacing (hs : IsSpacing s) (hne : s ≠ [])
    (hl : ∀ c ∈ s.getLast?, isBlank c = false) : bareContinues s = true := by
  induction hs with
  | nil => exact absurd rfl hne
  | @cons c rest hc _ ih =>
    have hrest : rest ≠ [] := by
      rintro rfl
      exact absurd (hl c rfl) (by rw [isBlank_of_isSpaceOrTab hc]; decide)
    have hd : dropSpaces (c :: rest) = dropSpaces rest := List.dropWhile_cons_of_pos hc
    rw [bareContinues, hd]
    refine ih hrest fun d hd => hl d ?_
    rwa [List.getLast?_cons_of_ne_nil hrest]
  | comment => rfl

/-- What a bare value leaves of a text that ends in no blank is not just spacing. -/
theorem takeBare_eq_nil_of_isSpacing (hl : ∀ c ∈ t.getLast?, isBlank c = false)
    (h : IsSpacing (takeBare t).2) : (takeBare t).2 = [] := by
  by_contra hne
  obtain ⟨c, rest, hrest⟩ := List.exists_cons_of_ne_nil hne
  obtain ⟨hc, hgo⟩ := takeBare_stops hrest
  have hlast : ∀ d ∈ (c :: rest).getLast?, isBlank d = false := by
    intro d hd
    refine hl d ?_
    rwa [← takeBare_append_left t, List.getLast?_append_of_ne_nil _ hne, hrest]
  rw [hrest] at h
  cases h with
  | cons hspace h =>
    have hmore : rest ≠ [] := by
      rintro rfl
      exact absurd (hlast c rfl) (by rw [isBlank_of_isSpaceOrTab hspace]; decide)
    have hgoes := bareContinues_of_isSpacing h hmore fun d hd =>
      hlast d (by rwa [List.getLast?_cons_of_ne_nil hmore])
    rw [hgo hspace] at hgoes
    cases hgoes
  | comment => exact absurd hc (by decide)

/-! ## What is cut off the end -/

/-- What is cut off the end of a bare value is one comment without parentheses in it, with the
blanks before it. -/
theorem dropTrailingComment_cases (t : Text) :
    dropTrailingComment t = t ∨
      ∃ cut : TrailingComment, t = dropTrailingComment t ++ cut.text ∧ cut.IsCutOff := by
  unfold dropTrailingComment
  split
  · rename_i body hbody
    split
    · rename_i c before hbefore
      split
      · rename_i hc
        refine .inr ⟨⟨(c :: before.takeWhile isSpaceOrTab).reverse,
          (body.takeWhile fun c => c ≠ '(' && c ≠ ')').reverse⟩, ?_, by simp, ?_, ?_, ?_⟩
        · -- the text is put together again from its end, where it has been taken apart
          have hsplit := List.takeWhile_append_dropWhile (p := fun c => c ≠ '(' && c ≠ ')')
            (l := body)
          have hblanks := List.takeWhile_append_dropWhile (p := isSpaceOrTab) (l := before)
          rw [hbefore] at hsplit
          rw [← List.reverse_inj, hbody, TrailingComment.text]
          simp only [List.reverse_append, List.reverse_cons, List.reverse_reverse,
            List.reverse_nil, List.nil_append, List.append_assoc, List.cons_append, hblanks]
          rw [hsplit]
        · intro d hd
          rcases List.mem_cons.mp (List.mem_reverse.mp hd) with rfl | hd
          · exact hc
          · exact List.mem_takeWhile_imp hd
        · intro hm
          exact absurd (List.mem_takeWhile_imp (List.mem_reverse.mp hm)) (by decide)
        · intro hm
          exact absurd (List.mem_takeWhile_imp (List.mem_reverse.mp hm)) (by decide)
      · exact .inl rfl
    · exact .inl rfl
  · exact .inl rfl

/-- A comment without parentheses in it is cut off the end of a word. -/
theorem dropTrailingComment_append {cut : TrailingComment} (hv : ∀ c ∈ value, isBareChar c = true)
    (hcut : cut.IsCutOff) : dropTrailingComment (value ++ cut.text) = value := by
  obtain ⟨blanks, body⟩ := cut
  obtain ⟨hne, hb, ho, hc⟩ := hcut
  obtain ⟨c, more, hmore⟩ := List.exists_cons_of_ne_nil (mt List.reverse_eq_nil_iff.mp hne)
  have hspaces : ∀ d ∈ c :: more, isSpaceOrTab d = true := fun d hd =>
    hb d (List.mem_reverse.mp (hmore ▸ hd))
  rw [List.forall_mem_cons] at hspaces
  have hreverse : (value ++ TrailingComment.text ⟨blanks, body⟩).reverse =
      ')' :: (body.reverse ++ '(' :: c :: (more ++ value.reverse)) := by
    have happend : '(' :: c :: (more ++ value.reverse) =
        '(' :: (blanks.reverse ++ value.reverse) := by rw [hmore, List.cons_append]
    rw [happend]
    simp [TrailingComment.text]
  have hbody : (body.reverse ++ '(' :: c :: (more ++ value.reverse)).dropWhile
      (fun c => c ≠ '(' && c ≠ ')') = '(' :: c :: (more ++ value.reverse) := by
    refine (Text.takeWhile_append_stop ?_ fun d hd => Option.some.inj hd ▸ by decide).2
    intro d hd
    have hm := List.mem_reverse.mp hd
    simp only [Bool.and_eq_true, decide_eq_true_eq]
    exact ⟨fun he => ho (he ▸ hm), fun he => hc (he ▸ hm)⟩
  have hvalue : (more ++ value.reverse).dropWhile isSpaceOrTab = value.reverse := by
    rw [List.dropWhile_append_of_pos hspaces.2]
    refine Text.dropWhile_of_head fun d hd => isSpaceOrTab_of_isBareChar (hv d ?_)
    exact List.mem_reverse.mp (List.mem_of_head? hd)
  unfold dropTrailingComment
  simp only [hreverse, hbody, hspaces.1, if_true, hvalue, List.reverse_reverse]

/-! ## Words and comments -/

namespace IsWord

theorem isBareChar (hv : IsWord value) : ∀ c ∈ value, isBareChar c = true := by
  intro c hc
  refine isBareChar_iff.mpr ⟨?_, hv.noBlank c hc⟩
  rintro rfl
  exact hv.noMark _ hc (by decide)

theorem head?_append (hv : IsWord value) (t : Text) :
    ∀ c ∈ (value ++ t).head?, Header.isBareChar c = true ∧ c ≠ '"' ∧ c ≠ '(' := by
  refine Text.forall_head?_append hv.ne_nil fun c hc => ⟨hv.isBareChar c hc, ?_, ?_⟩
  · rintro rfl; exact hv.noMark _ hc (by decide)
  · rintro rfl; exact hv.noMark _ hc (by decide)

/-- After a word a bare value goes on as it would start there. -/
theorem items_eq (hv : IsWord value) {separator name : Text} (hs : IsSeparator separator)
    (hn : IsToken name) (t : Text) :
    items (separator ++ (name ++ '=' :: (value ++ t))) =
      .parameter (Text.lower name) (dropTrailingComment (value ++ (takeBare t).1)) ::
        items (takeBare t).2 := by
  refine items_of_parameter hs hn ?_
  rw [dropSpaces_of_head fun c hc => isSpaceOrTab_of_isBareChar (hv.head?_append t c hc).1,
    takeValue_word _ (List.append_ne_nil_of_left_ne_nil hv.ne_nil t) (hv.head?_append t),
    takeBare_word hv.isBareChar]

end IsWord

namespace TrailingComment

theorem text_ne_nil (c : TrailingComment) : c.text ≠ [] := by simp [text]

theorem noBreak_flatMap_text (hp : ∀ c ∈ comments, c.IsProper) :
    NoBreak (comments.flatMap text) := by
  intro c hc
  obtain ⟨comment, hm, hc⟩ := List.mem_flatMap.mp hc
  have hb : NoBreak comment.blanks := .of_forall (by decide) (by decide) (hp comment hm).blanks
  have hbody : NoBreak ('(' :: (comment.body ++ [')'])) :=
    ((hp comment hm).noBreak.append (by decide)).cons (by decide) (by decide)
  exact hb.append hbody c hc

theorem isSpacing_flatMap_text (hp : ∀ c ∈ comments, c.IsProper) :
    IsSpacing (comments.flatMap text) := by
  induction comments with
  | nil => exact .nil
  | cons comment rest ih =>
    rw [List.forall_mem_cons] at hp
    have hblanks : IsSpacing comment.blanks := .of_forall hp.1.blanks
    exact (hblanks.append (.comment hp.1.body .nil)).append (ih hp.2)

/-- Comments end in no blank. -/
theorem getLast?_flatMap_text (comments : List TrailingComment) :
    ∀ c ∈ (comments.flatMap text).getLast?, isBlank c = false := by
  induction comments with
  | nil => simp
  | cons comment rest ih =>
    refine Text.forall_getLast?_append ?_ ih
    have ht : comment.text = (comment.blanks ++ '(' :: comment.body) ++ [')'] := by simp [text]
    intro c hc
    rw [ht, List.getLast?_concat] at hc
    obtain rfl := Option.some.inj hc
    decide

end TrailingComment

/-- A text that ends in a comment without parentheses, and is made of comments, is one comment. -/
theorem eq_singleton_of_text {cut : TrailingComment} (hc : ∀ c ∈ comments, c.IsProper)
    (hcut : cut.IsCutOff) (hne : comments ≠ []) (h : comments.flatMap (·.text) = cut.text) :
    ∃ comment, comments = [comment] ∧ comment.body = cut.body := by
  obtain ⟨-, hb, -, hclose⟩ := hcut
  have hparts : comments.flatMap (·.text) = cut.blanks ++ '(' :: (cut.body ++ [')']) := h
  obtain ⟨comment, rest, rfl⟩ := List.exists_cons_of_ne_nil hne
  rw [List.forall_mem_cons] at hc
  have htext : (comment :: rest).flatMap (·.text) = comment.blanks ++ '(' :: (comment.body ++
      ')' :: rest.flatMap (·.text)) := by simp [TrailingComment.text]
  -- both stop to be blank at the opening parenthesis
  have hopening : ∀ t, ∀ c ∈ ('(' :: t : Text).head?, isSpaceOrTab c = false :=
    fun t c hc => Option.some.inj hc ▸ by decide
  have hdrop := congrArg (List.dropWhile isSpaceOrTab) (htext.symm.trans hparts)
  rw [(Text.takeWhile_append_stop hc.1.blanks (hopening _)).2,
    (Text.takeWhile_append_stop hb (hopening _)).2] at hdrop
  obtain ⟨hbody, hrest⟩ : comment.body = cut.body ∧ rest.flatMap (·.text) = [] := by
    rcases List.append_eq_append_iff.mp (List.cons.inj hdrop).2 with
      ⟨between, hbody, hrest⟩ | ⟨between, hbody, hrest⟩
    · cases between with
      | nil => exact ⟨by rw [hbody, List.append_nil], (List.cons.inj hrest).2⟩
      | cons d between =>
        obtain ⟨rfl, -⟩ := List.cons.inj hrest
        exact absurd (by rw [hbody]; simp) hclose
    · cases between with
      | nil => exact ⟨by rw [hbody, List.append_nil], (List.cons.inj hrest).2.symm⟩
      | cons d between => exact absurd (List.cons.inj hrest).2 (by simp)
  cases rest with
  | nil => exact ⟨comment, rfl, hbody⟩
  | cons next _ => exact absurd (List.append_eq_nil_iff.mp hrest).1 next.text_ne_nil

/-- The value goes on to the end of a single comment if nothing but spacing is left of any. -/
theorem exists_single {cut : TrailingComment} {left : Text} (hne : comments ≠ [])
    (hc : ∀ c ∈ comments, c.IsProper) (hcut : cut.IsCutOff)
    (htake : takeBare (comments.flatMap (·.text)) = (cut.text, left)) (hs : IsSpacing left) :
    ∃ comment, comments = [comment] ∧ '(' ∉ comment.body ∧ ')' ∉ comment.body ∧
      IsRun comment.text := by
  have hleft : (takeBare (comments.flatMap (·.text))).2 = [] :=
    takeBare_eq_nil_of_isSpacing (TrailingComment.getLast?_flatMap_text comments)
      (by rwa [htake])
  have hall := takeBare_append_left (comments.flatMap (·.text))
  rw [hleft, List.append_nil, htake] at hall
  obtain ⟨only, rfl, hbody⟩ := eq_singleton_of_text hc hcut hne hall.symm
  refine ⟨only, rfl, hbody ▸ hcut.noOpening, hbody ▸ hcut.noClosing, ?_⟩
  have hrun := isRun_takeBare ([only].flatMap (·.text))
  rwa [htake, hall, List.flatMap_singleton] at hrun

/-- Without backslashes in the comments the one that is cut off is complete, and what is left is
spacing again. -/
theorem isSpacing_of_noEscape {cut : TrailingComment} {left : Text}
    (hc : ∀ c ∈ comments, c.IsProper) (hescape : ∀ c ∈ comments, '\\' ∉ c.body)
    (hcut : cut.IsCutOff) (htake : takeBare (comments.flatMap (·.text)) = (cut.text, left)) :
    IsSpacing left := by
  have hall := takeBare_append_left (comments.flatMap (·.text))
  rw [htake] at hall
  have hbody : '\\' ∉ cut.body := by
    intro hm
    have hmem : '\\' ∈ comments.flatMap (·.text) := hall ▸ by simp [TrailingComment.text, hm]
    obtain ⟨comment, hcm, hmark⟩ := List.mem_flatMap.mp hmem
    simp only [TrailingComment.text, List.mem_append, List.mem_cons, List.not_mem_nil,
      or_false] at hmark
    rcases hmark with hmark | hmark | hmark | hmark
    · exact absurd ((hc comment hcm).blanks _ hmark) (by decide)
    · exact absurd hmark (by decide)
    · exact hescape comment hcm hmark
    · exact absurd hmark (by decide)
  have hcomment : IsCommentBody cut.body := .of_plain fun c hm =>
    ⟨fun he => hcut.noOpening (he ▸ hm), fun he => hcut.noClosing (he ▸ hm),
      fun he => hbody (he ▸ hm)⟩
  have hspacing : IsSpacing cut.text :=
    (IsSpread.of_forall hcut.blanks).append (.comment hcomment .nil)
  refine hspacing.of_append (by decide) ?_
  rw [hall]
  exact TrailingComment.isSpacing_flatMap_text hc

end MailScreen.Header
