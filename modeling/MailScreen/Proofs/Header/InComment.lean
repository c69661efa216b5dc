import MailScreen.Proofs.Header.Stretch

/-!
# Reading that starts in a comment

A bare value may end in the middle of a comment, and what is left of the comment is then read for
parameters. The parenthesis that closes a comment is skipped only with the one that opens it, so
**what is left of comments is not skipped along with what comes after them**
(`Header.ClosesSpacing.exists_skipSeparators`). Each item leaves the end of a comment again
(`Header.ClosesSpacing.of_takeItem`), and so the items of what is left stay what they are whatever
item comes after it (`Header.items_append`). This fails only for a quotation that is not closed: it
goes on to the next quotation mark (`Header.items_append_of_unterminated`).
-/
namespace MailScreen.Header

variable {s t left tail : Text} {c : Char} {depth : Nat} {item : Item}

/-! ## Places in comments -/

/-- A character that neither opens nor closes a comment nor takes the next one with it. -/
def IsPlainInComment (c : Char) : Prop := c ≠ '(' ∧ c ≠ ')' ∧ c ≠ '\\'

instance (c : Char) : Decidable (IsPlainInComment c) :=
  inferInstanceAs (Decidable (c ≠ '(' ∧ c ≠ ')' ∧ c ≠ '\\'))

theorem IsPlainInComment.of_property {p : Char → Prop} (h : p c)
    (hp : ∀ c ∈ ['(', ')', '\\'], ¬ p c) : IsPlainInComment c := by
  refine ⟨?_, ?_, ?_⟩ <;> rintro rfl <;> exact hp _ (by decide) h

theorem IsPlainInComment.of_not_isBareChar (h : isBareChar c = false) : IsPlainInComment c :=
  of_property (p := fun c => isBareChar c = false) h (by decide)

theorem IsPlainInComment.of_isTokenChar (h : isTokenChar c = true) : IsPlainInComment c :=
  of_property (p := fun c => isTokenChar c = true) h (by decide)

/-- Such a character is skipped where comments are open, and leaves them open. -/
theorem IsPlainInComment.skipBlanksAt (hc : IsPlainInComment c) (depth : Nat) (t : Text) :
    skipBlanksAt (depth + 1) (c :: t) = skipBlanksAt (depth + 1) t :=
  skipBlanksAt_commentBody (.plain hc .nil) depth t

/-- What is skipped after some part of a text is skipped from there on, with some number of comments
open. -/
theorem exists_skipBlanksAt_after {e : Char} {rest : Text} (hc : IsPlainInComment c)
    (hlen : rest.length ≤ t.length) (depth : Nat) (s : Text)
    (h : skipBlanksAt depth (s ++ c :: t) = e :: rest) :
    ∃ depth', skipBlanksAt depth' (c :: t) = e :: rest := by
  -- the cases are those of what skips, which takes two characters after a backslash
  match depth, s with
  | depth, [] => exact ⟨depth, h⟩
  | 0, d :: s =>
    rw [List.cons_append, skipBlanksAt] at h
    split at h
    · exact exists_skipBlanksAt_after hc hlen 0 s h
    · split at h
      · exact exists_skipBlanksAt_after hc hlen 1 s h
      · -- nothing more is skipped, which would leave more than there is
        rw [← (List.cons.inj h).2, List.length_append, List.length_cons] at hlen
        omega
  | depth + 1, d :: s =>
    by_cases he : d = '\\'
    · subst he
      cases s with
      | nil => exact ⟨depth + 1, (hc.skipBlanksAt depth t).trans h⟩
      | cons d s => exact exists_skipBlanksAt_after hc hlen (depth + 1) s h
    · rw [List.cons_append, skipBlanksAt] at h
      · split at h
        · exact exists_skipBlanksAt_after hc hlen (depth + 2) s h
        · split at h
          · exact exists_skipBlanksAt_after hc hlen depth s h
          · exact exists_skipBlanksAt_after hc hlen (depth + 1) s h
      · exact fun h => absurd h he
      · exact fun _ _ h => absurd h he
termination_by s.length

namespace ClosesSpacing

/-- What closes the comments that are open is skipped. -/
theorem skipBlanksAt_append (h : ClosesSpacing depth s) (t : Text) :
    skipBlanksAt depth (s ++ t) = skipBlanks t := by
  induction depth generalizing s with
  | zero => exact skipBlanks_append h t
  | succ depth ih =>
    obtain ⟨body, after, hb, rfl, ha⟩ := h
    have hclose : skipBlanksAt (depth + 1) (')' :: (after ++ t)) =
        skipBlanksAt depth (after ++ t) := by
      simp [skipBlanksAt]
    rw [List.append_assoc, List.cons_append, skipBlanksAt_commentBody hb, hclose, ih ha]

/-- **From any place on, what closes comments closes those that are open there.** -/
theorem of_append (h : ClosesSpacing depth (s ++ c :: t)) (hc : IsPlainInComment c) :
    ∃ depth', ClosesSpacing depth' (c :: t) := by
  have hskip : skipBlanksAt depth (s ++ c :: (t ++ ['x'])) = ['x'] := by
    have happend := h.skipBlanksAt_append ['x']
    rw [List.append_assoc, List.cons_append] at happend
    exact happend
  obtain ⟨depth', hafter⟩ := exists_skipBlanksAt_after hc (Nat.zero_le _) depth s hskip
  obtain ⟨closing, hclosing, he⟩ := exists_closesSpacing hafter
  rw [← List.cons_append] at he
  exact ⟨depth', List.append_cancel_right he ▸ hclosing⟩

/-- What ends before a character of no word, or at the end, still closes comments. -/
theorem of_suffix (h : ClosesSpacing depth s) (hs : t <:+ s)
    (hc : ∀ c ∈ t.head?, IsPlainInComment c) : ∃ depth', ClosesSpacing depth' t := by
  cases t with
  | nil => exact ⟨0, IsSpread.nil⟩
  | cons c t =>
    obtain ⟨before, rfl⟩ := hs
    exact h.of_append (hc c rfl)

/-- What a bare value leaves still closes comments. -/
theorem of_takeBare (h : ClosesSpacing depth s) :
    ∃ depth', ClosesSpacing depth' (takeBare s).2 := by
  refine h.of_suffix (takeBare_suffix s) fun c hc => ?_
  obtain ⟨rest, hrest⟩ := List.head?_eq_some_iff.mp hc
  exact .of_not_isBareChar (takeBare_stops hrest).1

/-- Plain characters leave all comments open. -/
theorem drop_plain (hs : ∀ c ∈ s, IsPlainInComment c) (h : ClosesSpacing (depth + 1) (s ++ t)) :
    ClosesSpacing (depth + 1) t := by
  induction s with
  | nil => exact h
  | cons c s ih =>
    rw [List.forall_mem_cons] at hs
    obtain ⟨body, after, hb, he, ha⟩ := h
    refine ih hs.2 ?_
    cases hb with
    | nil => exact absurd (List.cons.inj he).1 hs.1.2.1
    | plain _ hb => exact ⟨_, after, hb, (List.cons.inj he).2, ha⟩
    | escaped => exact absurd (List.cons.inj he).1 hs.1.2.2
    | nested => exact absurd (List.cons.inj he).1 hs.1.1

/-- After a plain character comments are still closed. -/
theorem of_cons (hc : IsPlainInComment c) (h : ClosesSpacing depth (c :: t)) :
    ∃ depth', ClosesSpacing depth' t := by
  cases depth with
  | zero =>
    generalize he : c :: t = whole at h
    cases h with
    | nil => cases he
    | cons _ h => exact ⟨0, (List.cons.inj he).2 ▸ h⟩
    | comment => exact absurd (List.cons.inj he).1 hc.1
  | succ depth => exact ⟨depth + 1, drop_plain (s := [c]) (by simpa using hc) h⟩

end ClosesSpacing

/-! ## Skipping in comments -/

/-- What may stand in a comment starts with what is spread, as far as that goes, before the closing
parenthesis at the latest. -/
theorem IsCommentBody.exists_spread_append {plain : Char → Prop} (hclose : ¬ plain ')')
    (hescape : ¬ plain '\\') (hs : IsCommentBody s) :
    ∃ gap left, IsSpread plain gap ∧ IsCommentBody left ∧ s = gap ++ left ∧
      ∀ c ∈ (left ++ [')']).head?, ¬ plain c ∧ c ≠ '(' := by
  induction hs with
  | nil =>
    refine ⟨[], [], .nil, .nil, rfl, fun c hc => ?_⟩
    obtain rfl := Option.some.inj hc
    exact ⟨hclose, by decide⟩
  | @plain c rest hc hrest ih =>
    by_cases hp : plain c
    · obtain ⟨gap, left, hgap, hleft, rfl, hstop⟩ := ih
      exact ⟨c :: gap, left, .cons hp hgap, hleft, rfl, hstop⟩
    · refine ⟨[], c :: rest, .nil, .plain hc hrest, rfl, fun d hd => ?_⟩
      obtain rfl := Option.some.inj hd
      exact ⟨hp, hc.1⟩
  | @escaped c rest hrest _ =>
    refine ⟨[], '\\' :: c :: rest, .nil, .escaped hrest, rfl, fun d hd => ?_⟩
    obtain rfl := Option.some.inj hd
    exact ⟨hescape, by decide⟩
  | @nested inner rest hinner _ _ ih =>
    obtain ⟨gap, left, hgap, hleft, rfl, hstop⟩ := ih
    exact ⟨'(' :: (inner ++ ')' :: gap), left, .comment hinner hgap, hleft, by simp, hstop⟩

namespace ClosesSpacing

/-- Where comments are open, what is spread is followed by something that leaves them open. -/
theorem exists_spread_append (plain : Char → Prop) (hclose : ¬ plain ')') (hescape : ¬ plain '\\')
    (h : ClosesSpacing (depth + 1) s) :
    ∃ gap c left, IsSpread plain gap ∧ s = gap ++ c :: left ∧
      ClosesSpacing (depth + 1) (c :: left) ∧ ¬ plain c ∧ c ≠ '(' := by
  obtain ⟨body, after, hb, rfl, ha⟩ := h
  obtain ⟨gap, rest, hgap, hrest, rfl, hstop⟩ := hb.exists_spread_append hclose hescape
  cases rest with
  | nil => exact ⟨gap, ')', after, hgap, by simp, ⟨[], after, .nil, rfl, ha⟩, hstop _ rfl⟩
  | cons c rest =>
    exact ⟨gap, c, rest ++ ')' :: after, hgap, by simp, ⟨c :: rest, after, hrest, rfl, ha⟩,
      hstop _ rfl⟩

/-- **Where comments are open, blanks are skipped and something is left of them.** -/
theorem exists_skipBlanks (h : ClosesSpacing (depth + 1) s) :
    ∃ c left, ClosesSpacing (depth + 1) (c :: left) ∧ (isSpaceOrTab c = false ∧ c ≠ '(') ∧
      ∀ t, skipBlanks (s ++ t) = c :: (left ++ t) := by
  obtain ⟨gap, c, left, hgap, rfl, hleft, hspace, hopen⟩ :=
    h.exists_spread_append (fun c => isSpaceOrTab c = true) (by decide) (by decide)
  rw [Bool.not_eq_true] at hspace
  refine ⟨c, left, hleft, ⟨hspace, hopen⟩, fun t => ?_⟩
  rw [List.append_assoc, List.cons_append, skipBlanks_append hgap]
  exact skipBlanks_of_head fun d hd => Option.some.inj hd ▸ ⟨hspace, hopen⟩

/-- **Where comments are open, separators are skipped and something is left of them.** -/
theorem exists_skipSeparators (h : ClosesSpacing (depth + 1) s) :
    ∃ c left, ClosesSpacing (depth + 1) (c :: left) ∧ isSpaceOrTab c = false ∧
      ∀ t, skipSeparators (s ++ t) = c :: (left ++ t) := by
  obtain ⟨gap, c, left, hgap, rfl, hleft, hskip, hopen⟩ :=
    h.exists_spread_append (fun c => isSpaceOrTab c = true ∨ c = ';') (by decide) (by decide)
  rw [not_or, Bool.not_eq_true] at hskip
  refine ⟨c, left, hleft, hskip.1, fun t => ?_⟩
  rw [List.append_assoc, List.cons_append, skipSeparators_append_filler hgap]
  exact skipSeparators_append (t := []) (by simp) fun d hd =>
    Option.some.inj hd ▸ ⟨hskip.1, hopen, hskip.2⟩

end ClosesSpacing

/-! ## Items in comments -/

/-- Where a quotation is not closed, the next quotation mark closes it. -/
theorem exists_takeQuoted?_append (h : takeQuoted? s = none) (hne : t ≠ [])
    (ht : ∀ c ∈ t, c ≠ '"' ∧ c ≠ '\\') (rest : Text) :
    ∃ value, takeQuoted? (s ++ (t ++ '"' :: rest)) = some (value, rest) := by
  have hplain : ∀ {t : Text}, (∀ c ∈ t, c ≠ '"' ∧ c ≠ '\\') →
      takeQuoted? (t ++ '"' :: rest) = some (t, rest) := fun ht =>
    takeQuoted?_append (.of_forall ht) rest
  fun_induction takeQuoted? s with
  | case1 => exact ⟨t, hplain ht⟩
  | case2 c s ih =>
    obtain ⟨value, hv⟩ := ih (Option.map_eq_none_iff.mp h)
    exact ⟨c :: value, by simp [takeQuoted?, hv]⟩
  | case3 =>
    -- the backslash takes the first character after the text with it
    obtain ⟨c, t, rfl⟩ := List.exists_cons_of_ne_nil hne
    rw [List.forall_mem_cons] at ht
    exact ⟨c :: t, by simp [takeQuoted?, hplain ht.2]⟩
  | case4 => cases h
  | case5 c s h1 h2 hq ih =>
    obtain ⟨value, hv⟩ := ih (Option.map_eq_none_iff.mp h)
    have he : c ≠ '\\' := by
      rintro rfl
      cases s with
      | nil => exact h2 rfl rfl
      | cons d s => exact h1 d s rfl rfl
    refine ⟨c :: value, ?_⟩
    rw [List.cons_append, takeQuoted?]
    · rw [if_neg hq, hv]
      rfl
    · exact fun _ _ h => absurd h he
    · exact fun h => absurd h he

/-- What the value of a parameter is read from where comments are open: what is left of them. -/
theorem ClosesSpacing.exists_takeItem_eq {token rest : Text} (h : ClosesSpacing (depth + 1) s)
    (hname : takeName? s = some (token, rest)) :
    ∃ c left, ClosesSpacing (depth + 1) (c :: left) ∧ (isSpaceOrTab c = false ∧ c ≠ '(') ∧
      ∀ t, takeItem (s ++ t) = takeValue (Text.lower token) (c :: (left ++ t)) := by
  obtain ⟨hrun, gap, after, hgap, rfl, -⟩ := takeName?_eq_some_iff.mp hname
  have hafter : ClosesSpacing (depth + 1) after := by
    have hassoc : token ++ (gap ++ '=' :: after) = (token ++ (gap ++ ['='])) ++ after := by simp
    rw [hassoc] at h
    refine h.drop_plain fun c hc => ?_
    rcases List.mem_append.mp hc with hc | hc
    · exact .of_isTokenChar (hrun.chars c hc)
    · rcases List.mem_append.mp hc with hc | hc
      · exact .of_not_isBareChar (isBareChar_of_isSpaceOrTab (hgap c hc))
      · exact List.mem_singleton.mp hc ▸ by decide
  obtain ⟨c, left, hleft, hc, hskip⟩ := hafter.exists_skipBlanks
  refine ⟨c, left, hleft, hc, fun t => ?_⟩
  have happend : token ++ (gap ++ '=' :: after) ++ t = token ++ (gap ++ '=' :: (after ++ t)) := by
    simp
  rw [happend, takeItem_named hrun hgap]
  refine takeValue_of_skipBlanks ?_ _
  rw [hskip]
  exact (skipBlanks_of_head (s := c :: (left ++ t)) fun d hd => Option.some.inj hd ▸ hc).symm

/-- The value that is read where comments are open: one that what comes after the end of its item
has no say in, where what is left closes comments again; or a quotation that is not closed, which
the next quotation mark closes. -/
theorem ClosesSpacing.takeValue_cases (h : ClosesSpacing (depth + 1) (c :: s))
    (hc : isSpaceOrTab c = false ∧ c ≠ '(') (name : Text) :
    (∃ value left depth', ClosesSpacing depth' left ∧ ∀ tail, EndsItem tail →
      takeValue name (c :: (s ++ tail)) = (.parameter name value, some (left ++ tail))) ∨
    takeValue name (c :: s) = (.unterminated name, none) ∧
      ∀ t rest, t ≠ [] → (∀ c ∈ t, c ≠ '"' ∧ c ≠ '\\') →
        ∃ value, takeValue name (c :: (s ++ (t ++ '"' :: rest))) =
          (.parameter name value, some rest) := by
  have hskip (t : Text) : skipBlanks (c :: t) = c :: t :=
    skipBlanks_of_head fun d hd => Option.some.inj hd ▸ hc
  by_cases hquote : c = '"'
  · subst hquote
    cases htake : takeQuoted? s with
    | some found =>
      obtain ⟨value, left⟩ := found
      obtain ⟨body, hbody, rfl⟩ := takeQuoted?_eq_some_iff.mp htake
      obtain ⟨_, hmark⟩ := ClosesSpacing.of_append (s := '"' :: body) h (by decide)
      obtain ⟨depth', hleft⟩ := hmark.of_cons (by decide)
      refine .inl ⟨value, left, depth', hleft, fun tail _ => ?_⟩
      rw [List.append_assoc, List.cons_append, takeValue_quotes name hbody]
    | none =>
      refine .inr ⟨by simp only [takeValue, hskip, htake], fun t rest hne ht => ?_⟩
      obtain ⟨value, hv⟩ := exists_takeQuoted?_append htake hne ht rest
      exact ⟨value, by simp only [takeValue, hskip, hv]⟩
  · refine .inl ?_
    cases hb : isBareChar c with
    | true =>
      have hword (t : Text) : takeValue name (c :: (s ++ t)) =
          (.parameter name (dropTrailingComment (takeBare (c :: s ++ t)).1),
            some (takeBare (c :: s ++ t)).2) :=
        takeValue_word name (List.cons_ne_nil _ _) fun d hd =>
          Option.some.inj hd ▸ ⟨hb, hquote, hc.2⟩
      obtain ⟨depth', hleft⟩ := h.of_takeBare
      refine ⟨dropTrailingComment (takeBare (c :: s)).1, _, depth', hleft, fun tail ht => ?_⟩
      rw [hword, takeBare_append_of_endsItem _ ht]
    | false =>
      exact ⟨[], c :: s, depth + 1, h, fun tail _ =>
        takeValue_of_noWord name fun d hd => Option.some.inj hd ▸ ⟨hb, hc.1⟩⟩

/-- Where no parameter starts, what comes after the end of the item starts none and is left. -/
theorem takeItem_append_of_noName (hc : isSpaceOrTab c = false) (hname : takeName? (c :: s) = none)
    (ht : EndsItem tail) :
    takeItem (c :: s ++ tail) = (.malformed (Text.trim ((c :: s).takeWhile (· ≠ ';'))),
      some ((c :: s).dropWhile (· ≠ ';') ++ tail)) := by
  have hnone : takeName? (c :: s ++ tail) = none := by
    have hd : dropSpaces (c :: s) = c :: s :=
      dropSpaces_of_head fun d hd => Option.some.inj hd ▸ hc
    have hstart := startsParameter_append hd ht
    rw [startsParameter, startsParameter, hname] at hstart
    exact Option.isSome_eq_false_iff.mp hstart |> Option.isNone_iff_eq_none.mp
  have hend : EndsItem ((c :: s).dropWhile (· ≠ ';') ++ tail) := (endsItem_dropWhile _).append ht
  have hsplit : (c :: s).takeWhile (· ≠ ';') ++ ((c :: s).dropWhile (· ≠ ';') ++ tail) =
      c :: s ++ tail := by
    rw [← List.append_assoc, List.takeWhile_append_dropWhile]
  rw [← hsplit] at hnone ⊢
  refine takeItem_of_noName (fun hm => ?_) hend hnone
  have hsemi := List.mem_takeWhile_imp hm
  simp at hsemi

/-- **What is read where comments are open**: an item that what comes after the end of its own has
no say in, where what is left closes comments again; or a quotation that is not closed, which the
next quotation mark closes. -/
theorem ClosesSpacing.takeItem_cases (h : ClosesSpacing (depth + 1) (c :: s))
    (hc : isSpaceOrTab c = false) :
    (∃ item left depth', ClosesSpacing depth' left ∧ (∀ name, item ≠ .unterminated name) ∧
      ∀ tail, EndsItem tail → takeItem (c :: s ++ tail) = (item, some (left ++ tail))) ∨
    ∃ name, takeItem (c :: s) = (.unterminated name, none) ∧
      ∀ t rest, t ≠ [] → (∀ c ∈ t, c ≠ '"' ∧ c ≠ '\\') →
        ∃ value, takeItem (c :: s ++ (t ++ '"' :: rest)) = (.parameter name value, some rest) := by
  cases hname : takeName? (c :: s) with
  | none =>
    refine .inl ⟨.malformed (Text.trim ((c :: s).takeWhile (· ≠ ';'))),
      (c :: s).dropWhile (· ≠ ';'), ?_⟩
    obtain ⟨depth', hleft⟩ := h.of_suffix (List.dropWhile_suffix (fun c : Char => decide (c ≠ ';')))
      fun d hd => by
        rw [endsItem_dropWhile _ d hd]
        decide
    exact ⟨depth', hleft, fun _ h => (by cases h), fun tail ht =>
      takeItem_append_of_noName hc hname ht⟩
  | some found =>
    obtain ⟨d, left, hleft, hd, hitem⟩ := h.exists_takeItem_eq hname
    rcases hleft.takeValue_cases hd (Text.lower found.1) with
      ⟨value, rest, depth', hrest, hvalue⟩ | ⟨hvalue, hnext⟩
    · refine .inl ⟨.parameter (Text.lower found.1) value, rest, depth', hrest,
        fun _ h => (by cases h), fun tail ht => ?_⟩
      rw [hitem, hvalue tail ht]
    · refine .inr ⟨Text.lower found.1, ?_, fun t rest hne ht => ?_⟩
      · have halone := hitem []
        rwa [List.append_nil, List.append_nil, hvalue] at halone
      · rw [hitem]
        exact hnext t rest hne ht

/-- **One turn of the reader in comments**: it finds an item and leaves what closes comments again,
whatever item comes after it, or a quotation that is not closed, which the next quotation mark
closes. -/
theorem ClosesSpacing.exists_turn (h : ClosesSpacing (depth + 1) s) :
    (∃ item left depth', left.length < s.length ∧ ClosesSpacing depth' left ∧
      (∀ name, item ≠ .unterminated name) ∧
      ∀ tail, EndsItem tail → items (s ++ tail) = item :: items (left ++ tail)) ∨
    ∃ name, items s = [.unterminated name] ∧
      ∀ t rest, t ≠ [] → (∀ c ∈ t, c ≠ '"' ∧ c ≠ '\\') →
        ∃ value, items (s ++ (t ++ '"' :: rest)) = .parameter name value :: items rest := by
  obtain ⟨c, more, hmore, hc, hskip⟩ := h.exists_skipSeparators
  have halone := hskip []
  rw [List.append_nil, List.append_nil] at halone
  rcases hmore.takeItem_cases hc with
    ⟨item, left, depth', hleft, hitem, htake⟩ | ⟨name, hend, hnext⟩
  · refine .inl ⟨item, left, depth', ?_, hleft, hitem, fun tail ht => ?_⟩
    · have hlast := htake [] endsItem_nil
      rw [List.append_nil, List.append_nil] at hlast
      have hlt := length_takeItem_lt (List.cons_ne_nil _ _)
        (fun r => halone ▸ skipSeparators_ne_semicolon s r) hlast
      have hle := length_skipSeparators_le s
      rw [halone] at hle
      omega
    · exact items_of_item (hskip tail) (List.cons_ne_nil _ _) (htake tail ht)
  · refine .inr ⟨name, items_of_lastItem halone (List.cons_ne_nil _ _) hend, ?_⟩
    intro t rest hne ht
    obtain ⟨value, hvalue⟩ := hnext t rest hne ht
    exact ⟨value, items_of_item (hskip _) (List.cons_ne_nil _ _) hvalue⟩

/-- Spacing holds no items. -/
theorem items_eq_nil_of_isSpacing (h : IsSpacing s) : items s = [] := by
  have halone := items_append_filler h.isFiller []
  rwa [List.append_nil, items_nil] at halone

/-- Nothing but spacing holds no items, as where comments are open something is left of them. -/
theorem ClosesSpacing.isSpacing_of_items (h : ClosesSpacing depth s) (hs : items s = []) :
    IsSpacing s := by
  cases depth with
  | zero => exact h
  | succ depth =>
    rcases h.exists_turn with ⟨item, left, -, -, -, -, hturn⟩ | ⟨name, hend, -⟩
    · have halone := hturn [] endsItem_nil
      rw [List.append_nil, hs] at halone
      cases halone
    · rw [hs] at hend
      cases hend

/-- **The items of what closes comments stay what they are, whatever item comes after them**, if no
quotation in it is open. -/
theorem items_append {depth : Nat} {s : Text} (h : ClosesSpacing depth s)
    (hq : ∀ name, .unterminated name ∉ items s) (ht : EndsItem tail) :
    items (s ++ tail) = items s ++ items tail := by
  cases depth with
  | zero =>
    rw [items_append_filler (IsSpacing.isFiller h), items_eq_nil_of_isSpacing h, List.nil_append]
  | succ depth =>
    -- one turn, and then the same of what it leaves, which is shorter
    rcases h.exists_turn with ⟨item, left, depth', hlt, hleft, -, hturn⟩ | ⟨name, hs, -⟩
    · have hs := hturn [] endsItem_nil
      rw [List.append_nil, List.append_nil] at hs
      rw [hs] at hq
      have hrest := items_append hleft (fun name hm => hq name (List.mem_cons_of_mem _ hm)) ht
      rw [hturn tail ht, hs, hrest, List.cons_append]
    · exact absurd (hs ▸ List.mem_singleton_self _) (hq name)
termination_by s.length

/-- **A quotation that is open at the end of comments goes on to the next quotation mark**, and is
the value of the same parameter. -/
theorem items_append_of_unterminated {depth : Nat} {s name : Text} (h : ClosesSpacing depth s)
    (hq : .unterminated name ∈ items s) (ht : ∀ c ∈ t, c ≠ '"' ∧ c ≠ '\\') (rest : Text) :
    ∃ found value, (∀ item ∈ found, item ∈ items s) ∧
      items (s ++ ';' :: (t ++ '"' :: rest)) = found ++ .parameter name value :: items rest := by
  cases depth with
  | zero =>
    rw [items_eq_nil_of_isSpacing h] at hq
    cases hq
  | succ depth =>
    rcases h.exists_turn with ⟨item, left, depth', hlt, hleft, hitem, hturn⟩ | ⟨other, hs, hnext⟩
    · -- the quotation is not in the first item, so it is in what that leaves
      have hs := hturn [] endsItem_nil
      rw [List.append_nil, List.append_nil] at hs
      rw [hs] at hq
      obtain ⟨found, value, hfound, hread⟩ := items_append_of_unterminated hleft
        ((List.mem_cons.mp hq).resolve_left fun he => hitem name he.symm) ht rest
      refine ⟨item :: found, value, ?_, ?_⟩
      · rw [hs]
        exact List.forall_mem_cons.mpr ⟨List.mem_cons_self .., fun other ho =>
          List.mem_cons_of_mem item (hfound other ho)⟩
      · have hend : EndsItem (';' :: (t ++ '"' :: rest)) := fun c hc => (Option.some.inj hc).symm
        rw [hturn _ hend, hread, List.cons_append]
    · rw [hs] at hq
      obtain ⟨rfl⟩ : Item.unterminated name = .unterminated other := List.mem_singleton.mp hq
      obtain ⟨value, hv⟩ := hnext (';' :: t) rest (List.cons_ne_nil _ _)
        (List.forall_mem_cons.mpr ⟨by decide, ht⟩)
      exact ⟨[], value, by simp, hv⟩
termination_by s.length

end MailScreen.Header
