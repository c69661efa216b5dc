import MailScreen.Proofs.Header.Spacing

/-!
# What is left of a header

Each step of the reader of parameters leaves the end of what it was given
(`Header.suffix_of_takeItem`), so what it finds stands in the header: the names of the parameters
are words of it in lower case (`Header.exists_word_of_mem_items`).

Spaces, tabs and complete comments are skipped, and **where anything is left, nothing else has been
skipped** (`Header.skipBlanks_eq_cons_iff`). A comment that is not closed leaves nothing.
-/
namespace MailScreen.Header

variable {t s rest : Text} {c : Char}

/-! ## Spacing -/

/-- What closes comments that are open and goes on with spacing: for each of them what may still
stand in it, and its parenthesis. -/
def ClosesSpacing : Nat → Text → Prop
  | 0, s => IsSpacing s
  | depth + 1, s => ∃ body after, IsCommentBody body ∧ s = body ++ ')' :: after ∧
    ClosesSpacing depth after

/-- What is skipped where comments are open closes them, if anything is left. -/
theorem exists_closesSpacing {depth : Nat} (h : skipBlanksAt depth t = c :: rest) :
    ∃ s, ClosesSpacing depth s ∧ t = s ++ c :: rest := by
  fun_induction skipBlanksAt depth t with
  | case1 => cases h
  | case2 d t hd ih =>
    obtain ⟨s, hs, rfl⟩ := ih h
    exact ⟨d :: s, .cons hd hs, rfl⟩
  | case3 t hd ih =>
    obtain ⟨_, ⟨body, after, hb, rfl, hs⟩, rfl⟩ := ih h
    exact ⟨'(' :: (body ++ ')' :: after), .comment hb hs, by simp⟩
  | case4 d t hd ho =>
    obtain ⟨rfl, rfl⟩ := List.cons.inj h
    exact ⟨[], .nil, rfl⟩
  | case5 => cases h
  | case6 depth d t ih =>
    obtain ⟨_, ⟨body, after, hb, rfl, hs⟩, rfl⟩ := ih h
    exact ⟨'\\' :: d :: (body ++ ')' :: after), ⟨_, after, .escaped hb, rfl, hs⟩, rfl⟩
  | case7 depth t _ _ ih =>
    -- the comment that is opened here is closed before the one around it
    obtain ⟨_, ⟨inner, _, hi, rfl, body, after, hb, rfl, hs⟩, rfl⟩ := ih h
    exact ⟨'(' :: (inner ++ ')' :: (body ++ ')' :: after)),
      ⟨'(' :: (inner ++ ')' :: body), after, .nested hi hb, by simp, hs⟩, by simp⟩
  | case8 depth t _ _ _ ih =>
    obtain ⟨s, hs, rfl⟩ := ih h
    exact ⟨')' :: s, ⟨[], s, .nil, rfl, hs⟩, rfl⟩
  | case9 depth d t h1 h2 ho hcl ih =>
    have he : d ≠ '\\' := by
      rintro rfl
      cases t with
      | nil => exact h1 rfl rfl
      | cons e t => exact h2 e t rfl rfl
    obtain ⟨_, ⟨body, after, hb, rfl, hs⟩, rfl⟩ := ih h
    exact ⟨d :: (body ++ ')' :: after), ⟨d :: body, after, .plain ⟨ho, hcl, he⟩ hb, rfl, hs⟩, rfl⟩

/-- **What is skipped is spacing, if anything is left**: a text is skipped up to a character exactly
if spacing comes before it, and it starts no more of that. -/
theorem skipBlanks_eq_cons_iff :
    skipBlanks t = c :: rest ↔
      isSpaceOrTab c = false ∧ c ≠ '(' ∧ ∃ s, IsSpacing s ∧ t = s ++ c :: rest := by
  constructor
  · intro h
    obtain ⟨hb, hp⟩ := skipBlanks_stops h
    exact ⟨hb, hp, exists_closesSpacing h⟩
  · rintro ⟨hb, hp, s, hs, rfl⟩
    rw [skipBlanks_append hs, skipBlanks_of_head]
    intro d hd
    obtain rfl := Option.some.inj hd
    exact ⟨hb, hp⟩

/-! ## What is left is the end of what there was -/

theorem skipBlanksAt_suffix (depth : Nat) (t : Text) : skipBlanksAt depth t <:+ t := by
  fun_induction skipBlanksAt depth t with
  | case1 => exact List.suffix_rfl
  | case2 _ _ _ ih => exact ih.trans (List.suffix_cons ..)
  | case3 _ _ ih => exact ih.trans (List.suffix_cons ..)
  | case4 => exact List.suffix_rfl
  | case5 => exact List.nil_suffix
  | case6 _ _ _ ih => exact (ih.trans (List.suffix_cons ..)).trans (List.suffix_cons ..)
  | case7 _ _ _ _ ih => exact ih.trans (List.suffix_cons ..)
  | case8 _ _ _ _ _ ih => exact ih.trans (List.suffix_cons ..)
  | case9 _ _ _ _ _ _ _ ih => exact ih.trans (List.suffix_cons ..)

theorem skipBlanks_suffix (t : Text) : skipBlanks t <:+ t := skipBlanksAt_suffix 0 t

theorem skipSeparators_suffix (t : Text) : skipSeparators t <:+ t := by
  fun_induction skipSeparators t with
  | case1 t rest h ih =>
    exact (ih.trans (List.suffix_cons ..)).trans (h ▸ skipBlanks_suffix t)
  | case2 t => exact skipBlanks_suffix t

/-- What is read as a quotation is one, and its mark closes it. -/
theorem takeQuoted?_eq_some_iff {value : Text} :
    takeQuoted? t = some (value, rest) ↔ ∃ body, Quotes body value ∧ t = body ++ '"' :: rest := by
  refine ⟨fun h => ?_, fun ⟨body, hb, ht⟩ => ht ▸ takeQuoted?_append hb rest⟩
  fun_induction takeQuoted? t generalizing value with
  | case1 => cases h
  | case2 d t ih =>
    obtain ⟨⟨v, left⟩, hv, he⟩ := Option.map_eq_some_iff.mp h
    obtain ⟨rfl, rfl⟩ := Prod.mk.inj he
    obtain ⟨body, hb, rfl⟩ := ih hv
    exact ⟨'\\' :: d :: body, .escaped hb, rfl⟩
  | case3 => cases h
  | case4 =>
    obtain ⟨rfl, rfl⟩ := Prod.mk.inj (Option.some.inj h)
    exact ⟨[], .nil, rfl⟩
  | case5 d t h1 h2 hq ih =>
    have he : d ≠ '\\' := by
      rintro rfl
      cases t with
      | nil => exact h2 rfl rfl
      | cons e t => exact h1 e t rfl rfl
    obtain ⟨⟨v, left⟩, hv, hvalue⟩ := Option.map_eq_some_iff.mp h
    obtain ⟨rfl, rfl⟩ := Prod.mk.inj hvalue
    obtain ⟨body, hb, rfl⟩ := ih hv
    exact ⟨d :: body, .plain ⟨hq, he⟩ hb, rfl⟩

theorem suffix_of_takeQuoted? {value : Text} (h : takeQuoted? t = some (value, rest)) :
    rest <:+ t := by
  obtain ⟨body, -, rfl⟩ := takeQuoted?_eq_some_iff.mp h
  exact (List.suffix_cons ..).trans (List.suffix_append ..)

/-- A bare value and what it leaves are all there was. -/
theorem takeBare_append_left (t : Text) : (takeBare t).1 ++ (takeBare t).2 = t := by
  fun_induction takeBare t with
  | case1 => rfl
  | case2 d t _ value left h ih =>
    rw [h] at ih
    rw [List.cons_append, ih]
  | case3 => rfl

theorem takeBare_suffix (t : Text) : (takeBare t).2 <:+ t := ⟨_, takeBare_append_left t⟩

/-! ## Tokens -/

/-- A run of characters of tokens, ASCII or not. -/
structure IsTokenRun (t : Text) : Prop where
  ne_nil : t ≠ []
  chars : ∀ c ∈ t, isTokenChar c = true

/-- A token is taken as long as it goes on. -/
theorem takeToken?_eq_some_iff {token : Text} :
    takeToken? t = some (token, rest) ↔
      IsTokenRun token ∧ (∀ c ∈ rest.head?, isTokenChar c = false) ∧ t = token ++ rest := by
  constructor
  · intro h
    unfold takeToken? at h
    split at h
    · cases h
    · rename_i d more hw
      obtain ⟨rfl, rfl⟩ := Prod.mk.inj (Option.some.inj h)
      refine ⟨⟨List.cons_ne_nil _ _, fun c hc => ?_⟩, fun c hc => ?_, ?_⟩
      · exact List.mem_takeWhile_imp (hw ▸ hc)
      · have hd := List.head?_dropWhile_not isTokenChar t
        rw [Option.mem_def.mp hc] at hd
        simpa using hd
      · rw [← hw, List.takeWhile_append_dropWhile]
  · rintro ⟨ht, hr, rfl⟩
    exact takeToken?_append ht.ne_nil ht.chars hr

theorem dropSpaces_suffix (t : Text) : dropSpaces t <:+ t := List.dropWhile_suffix _

theorem exists_dropSpaces (t : Text) :
    ∃ gap, (∀ c ∈ gap, isSpaceOrTab c = true) ∧ t = gap ++ dropSpaces t :=
  ⟨t.takeWhile isSpaceOrTab, fun _ hc => List.mem_takeWhile_imp hc,
    List.takeWhile_append_dropWhile.symm⟩

theorem isTokenChar_of_isSpaceOrTab (h : isSpaceOrTab c = true) : isTokenChar c = false := by
  rw [Bool.eq_false_iff]
  intro ht
  rw [(isTokenChar_marks ht).1] at h
  cases h

/-- A gap ends a token, and so does what comes after it. -/
theorem head?_gap {gap : Text} (hg : ∀ d ∈ gap, isSpaceOrTab d = true)
    (hc : isTokenChar c = false) : ∀ d ∈ (gap ++ c :: rest).head?, isTokenChar d = false := by
  cases gap with
  | nil =>
    intro d hd
    rwa [← Option.some.inj hd]
  | cons e gap =>
    intro d hd
    obtain rfl := Option.some.inj hd
    exact isTokenChar_of_isSpaceOrTab (hg _ (List.mem_cons_self ..))

/-- Spaces and tabs are dropped before a character that is none of them. -/
theorem dropSpaces_append_cons {gap : Text} (hg : ∀ d ∈ gap, isSpaceOrTab d = true)
    (hc : isSpaceOrTab c = false) : dropSpaces (gap ++ c :: rest) = c :: rest :=
  (Text.takeWhile_append_stop hg fun d hd => by rwa [← Option.some.inj hd]).2

/-- The name of a parameter is a token, and an equals sign comes next. -/
theorem takeName?_eq_some_iff {name : Text} :
    takeName? t = some (name, rest) ↔ IsTokenRun name ∧ ∃ gap after,
      (∀ c ∈ gap, isSpaceOrTab c = true) ∧ t = name ++ (gap ++ '=' :: after) ∧
        rest = dropSpaces after := by
  constructor
  · intro h
    unfold takeName? at h
    split at h
    · cases h
    · rename_i token left ht
      obtain ⟨hrun, -, rfl⟩ := takeToken?_eq_some_iff.mp ht
      split at h
      · rename_i after hd
        obtain ⟨rfl, rfl⟩ := Prod.mk.inj (Option.some.inj h)
        obtain ⟨gap, hg, he⟩ := exists_dropSpaces left
        exact ⟨hrun, gap, after, hg, by rw [← hd, ← he], rfl⟩
      · cases h
  · rintro ⟨hrun, gap, after, hg, rfl, rfl⟩
    have hend : ∀ d ∈ (gap ++ '=' :: after).head?, isTokenChar d = false := head?_gap hg (by decide)
    have ht := takeToken?_eq_some_iff.mpr ⟨hrun, hend, rfl⟩
    simp only [takeName?, ht, dropSpaces_append_cons hg (show isSpaceOrTab '=' = false by decide)]

/-! ## Items -/

/-- A value does not depend on what is skipped before it. -/
theorem takeValue_of_skipBlanks (h : skipBlanks s = skipBlanks t) (name : Text) :
    takeValue name s = takeValue name t := by
  unfold takeValue
  rw [h]

theorem takeValue_dropSpaces (name t : Text) :
    takeValue name (dropSpaces t) = takeValue name t := by
  obtain ⟨gap, hgap, he⟩ := exists_dropSpaces t
  refine (takeValue_of_skipBlanks ?_ name).symm
  conv_lhs => rw [he, skipBlanks_append (.of_forall hgap)]

/-- A text that starts a parameter is read as the value after its equals sign. -/
theorem takeItem_named {token gap : Text} (hrun : IsTokenRun token)
    (hg : ∀ c ∈ gap, isSpaceOrTab c = true) (after : Text) :
    takeItem (token ++ (gap ++ '=' :: after)) = takeValue (Text.lower token) after := by
  have hname := takeName?_eq_some_iff.mpr ⟨hrun, gap, after, hg, rfl, rfl⟩
  rw [takeItem, hname]
  exact takeValue_dropSpaces ..

theorem suffix_of_takeValue {name : Text} {item : Item}
    (h : takeValue name t = (item, some rest)) : rest <:+ t := by
  have hs := skipBlanks_suffix t
  unfold takeValue at h
  split at h
  · rename_i left hleft
    rw [hleft] at hs
    split at h
    · rename_i value after hq
      obtain ⟨-, he⟩ := Prod.mk.inj h
      obtain rfl := Option.some.inj he
      exact ((suffix_of_takeQuoted? hq).trans (List.suffix_cons ..)).trans hs
    · cases (Prod.mk.inj h).2
  · obtain rfl := Option.some.inj (Prod.mk.inj h).2
    exact List.nil_suffix
  · rename_i d left _ hleft
    rw [hleft] at hs
    split at h
    · obtain rfl := Option.some.inj (Prod.mk.inj h).2
      exact (takeBare_suffix (d :: left)).trans hs
    · obtain rfl := Option.some.inj (Prod.mk.inj h).2
      exact hs

/-- The value that is read under a name is a parameter of that name. -/
theorem name_of_takeValue {name other value : Text} {left : Option Text}
    (h : takeValue name t = (.parameter other value, left)) : other = name := by
  unfold takeValue at h
  split at h
  · split at h
    · exact (Item.parameter.inj (Prod.mk.inj h).1).1.symm
    · cases (Prod.mk.inj h).1
  · exact (Item.parameter.inj (Prod.mk.inj h).1).1.symm
  · split at h
    · exact (Item.parameter.inj (Prod.mk.inj h).1).1.symm
    · exact (Item.parameter.inj (Prod.mk.inj h).1).1.symm

theorem suffix_of_takeItem {item : Item} (h : takeItem t = (item, some rest)) : rest <:+ t := by
  unfold takeItem at h
  split at h
  · rename_i name left hn
    obtain ⟨-, gap, after, -, rfl, rfl⟩ := takeName?_eq_some_iff.mp hn
    have ha : after <:+ name ++ (gap ++ '=' :: after) :=
      ⟨name ++ gap ++ ['='], by simp⟩
    exact ((suffix_of_takeValue h).trans (dropSpaces_suffix after)).trans ha
  · obtain rfl := Option.some.inj (Prod.mk.inj h).2
    exact List.dropWhile_suffix _

/-- The reading ends with an item if its quotation is not closed. -/
theorem unterminated_of_takeItem {t : Text} {item : Item} (h : takeItem t = (item, none)) :
    ∃ name, item = .unterminated name := by
  unfold takeItem at h
  split at h
  · rename_i name left _
    unfold takeValue at h
    split at h
    · split at h
      · cases h
      · exact ⟨_, (Prod.mk.inj h).1.symm⟩
    · cases h
    · split at h
      · cases h
      · cases h
  · cases h

/-- After such an item no more are read. -/
theorem items_of_lastItem {t s : Text} {item : Item} (hs : skipSeparators t = s) (hn : s ≠ [])
    (hi : takeItem s = (item, none)) : items t = [item] := by
  rw [items]
  split
  · rename_i hc
    exact absurd (hs ▸ hc) hn
  · rename_i c rest hc
    rw [hs] at hc
    split
    · rename_i other ho
      rw [← hc, hi] at ho
      rw [(Prod.mk.inj ho).1]
    · rename_i other left ho
      rw [← hc, hi] at ho
      cases ho

/-- A parameter is read under the token that its text starts with. -/
theorem of_takeItem_parameter {name value : Text} {left : Option Text}
    (h : takeItem t = (.parameter name value, left)) :
    ∃ token, IsTokenRun token ∧ token <+: t ∧ name = Text.lower token := by
  unfold takeItem at h
  split at h
  · rename_i token after hn
    obtain ⟨hrun, gap, after, -, rfl, -⟩ := takeName?_eq_some_iff.mp hn
    exact ⟨token, hrun, List.prefix_append .., name_of_takeValue h⟩
  · cases (Prod.mk.inj h).1

/-- **The names of parameters stand in a header**: each is a token of it in lower case. -/
theorem exists_token_of_mem_items {name value : Text} (h : .parameter name value ∈ items t) :
    ∃ token, IsTokenRun token ∧ token <:+: t ∧ name = Text.lower token := by
  fun_induction items t with
  | case1 => cases h
  | case2 t d left hskip item hitem =>
    have hsuffix : d :: left <:+ t := hskip ▸ skipSeparators_suffix t
    obtain rfl := List.mem_singleton.mp h
    obtain ⟨token, hrun, hstart, rfl⟩ := of_takeItem_parameter hitem
    exact ⟨token, hrun, hstart.isInfix.trans hsuffix.isInfix, rfl⟩
  | case3 t d left hskip item after hitem ih =>
    have hsuffix : d :: left <:+ t := hskip ▸ skipSeparators_suffix t
    rcases List.mem_cons.mp h with rfl | h
    · obtain ⟨token, hrun, hstart, rfl⟩ := of_takeItem_parameter hitem
      exact ⟨token, hrun, hstart.isInfix.trans hsuffix.isInfix, rfl⟩
    · obtain ⟨token, hrun, hpart, rfl⟩ := ih h
      exact ⟨token, hrun, hpart.trans ((suffix_of_takeItem hitem).trans hsuffix).isInfix, rfl⟩

end MailScreen.Header
