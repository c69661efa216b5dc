import MailScreen.Proofs.Header.Leftovers

/-!
# What is no parameter

Where a parameter is looked for, a text that does not start with a name and an equals sign is passed
over up to the next semicolon. **No parameter comes of it, and what follows is read as it stands**
(`Header.writtenPairs_passedOver`).
-/
namespace MailScreen.Header

variable {t tail : Text}

/-- A text that starts a parameter: after spaces and tabs come a name of the characters of tokens,
spaces and tabs again, and an equals sign. -/
def NamesParameter (t : Text) : Prop :=
  ∃ lead name gap rest, t = lead ++ (name ++ (gap ++ '=' :: rest)) ∧
    (∀ c ∈ lead, isSpaceOrTab c = true) ∧ name ≠ [] ∧ (∀ c ∈ name, isTokenChar c = true) ∧
    ∀ c ∈ gap, isSpaceOrTab c = true

/-- A text that comes to an end or to a semicolon. -/
def EndsItem (t : Text) : Prop := ∀ c ∈ t.head?, c = ';'

/-- A text that is passed over: no semicolon ends it early, and it starts neither a comment nor a
parameter. -/
structure IsPassedOver (t : Text) : Prop where
  noSemicolon : ';' ∉ t
  noComment : (dropSpaces t).head? ≠ some '('
  noName : ¬ NamesParameter t

/-! ## Names and equals signs -/

/-- **A name is taken exactly if the text starts a parameter.** -/
theorem startsParameter_iff : startsParameter (dropSpaces t) = true ↔ NamesParameter t := by
  unfold startsParameter
  constructor
  · intro h
    obtain ⟨⟨name, left⟩, hn⟩ := Option.isSome_iff_exists.mp h
    obtain ⟨hname, gap, after, hg, he, -⟩ := takeName?_eq_some_iff.mp hn
    obtain ⟨lead, hl, ht⟩ := exists_dropSpaces t
    exact ⟨lead, name, gap, after, he ▸ ht, hl, hname.ne_nil, hname.chars, hg⟩
  · rintro ⟨lead, name, gap, rest, rfl, hl, hne, hn, hg⟩
    have hd : dropSpaces (lead ++ (name ++ (gap ++ '=' :: rest))) =
        name ++ (gap ++ '=' :: rest) := by
      rw [dropSpaces, List.dropWhile_append_of_pos hl]
      exact Text.dropWhile_of_head
        (Text.forall_head?_append hne fun c hc => (isTokenChar_marks (hn c hc)).1)
    have hname := takeName?_eq_some_iff.mpr ⟨⟨hne, hn⟩, gap, rest, hg, rfl, rfl⟩
    rw [hd, hname]
    rfl

instance (t : Text) : Decidable (NamesParameter t) := decidable_of_iff _ startsParameter_iff

instance (t : Text) : Decidable (IsPassedOver t) :=
  decidable_of_iff (';' ∉ t ∧ (dropSpaces t).head? ≠ some '(' ∧ ¬ NamesParameter t)
    ⟨fun h => ⟨h.1, h.2.1, h.2.2⟩, fun h => ⟨h.noSemicolon, h.noComment, h.noName⟩⟩

theorem endsItem_nil : EndsItem [] := fun _ hc => nomatch hc

/-- What is cut off its end does not change what a text starts with. -/
theorem EndsItem.of_append (h : EndsItem (t ++ tail)) : EndsItem t := by
  cases t with
  | nil => exact endsItem_nil
  | cons c rest => exact h

theorem EndsItem.append (h : EndsItem t) (ht : EndsItem tail) : EndsItem (t ++ tail) := by
  cases t with
  | nil => exact ht
  | cons c rest => exact h

/-- After everything up to a semicolon an item ends. -/
theorem endsItem_dropWhile (t : Text) : EndsItem (t.dropWhile (· ≠ ';')) := by
  intro c hc
  have hstop := List.head?_dropWhile_not (fun c : Char => decide (c ≠ ';')) t
  rw [Option.mem_def.mp hc] at hstop
  simpa using hstop

/-- A text without equals signs starts no parameter. -/
theorem not_namesParameter (h : '=' ∉ t) : ¬ NamesParameter t := by
  rintro ⟨lead, name, gap, rest, rfl, -⟩
  exact h (by simp)

/-- The end of a text, or a semicolon after it, makes no name of it. -/
theorem NamesParameter.of_append (ht : EndsItem tail) (h : NamesParameter (t ++ tail)) :
    NamesParameter t := by
  obtain ⟨lead, name, gap, rest, he, hl, hne, hn, hg⟩ := h
  have hs : lead ++ (name ++ (gap ++ '=' :: rest)) =
      (lead ++ (name ++ (gap ++ ['=']))) ++ rest := by simp
  rw [hs] at he
  rcases List.append_eq_append_iff.mp he with ⟨between, hbetween, htail⟩ | ⟨between, rfl, -⟩
  · cases between with
    | nil =>
      rw [List.append_nil] at hbetween
      exact ⟨lead, name, gap, [], hbetween.symm, hl, hne, hn, hg⟩
    | cons c between =>
      -- the name and its equals sign would go on past a semicolon, which neither of them has
      obtain rfl : c = ';' := ht c (by rw [htail]; rfl)
      have hm : ';' ∈ lead ++ (name ++ (gap ++ ['='])) := by rw [hbetween]; simp
      simp only [List.mem_append, List.mem_singleton] at hm
      rcases hm with hm | hm | hm | hm
      · exact absurd (hl _ hm) (by decide)
      · exact absurd (hn _ hm) (by decide)
      · exact absurd (hg _ hm) (by decide)
      · exact absurd hm (by decide)
  · exact ⟨lead, name, gap, between, by simp, hl, hne, hn, hg⟩

/-- What is cut off the end of a text makes no name of it. -/
theorem NamesParameter.append (h : NamesParameter t) (tail : Text) :
    NamesParameter (t ++ tail) := by
  obtain ⟨lead, name, gap, rest, rfl, h⟩ := h
  exact ⟨lead, name, gap, rest ++ tail, by simp, h⟩

/-! ## Passing over -/

/-- The first character that is no space or tab. -/
theorem of_dropSpaces_cons {c : Char} {rest : Text} (h : dropSpaces t = c :: rest) :
    c ∈ t ∧ isSpaceOrTab c = false := by
  have hd : t.dropWhile isSpaceOrTab = c :: rest := h
  have hhead := List.head?_dropWhile_not isSpaceOrTab t
  rw [hd] at hhead
  have hm : c ∈ t.dropWhile isSpaceOrTab := by rw [hd]; exact List.mem_cons_self ..
  exact ⟨(List.dropWhile_sublist _).subset hm, hhead⟩

/-- What comes after the first character that is no space or tab is not touched. -/
theorem dropSpaces_append {c : Char} {rest : Text} (h : dropSpaces t = c :: rest) (s : Text) :
    dropSpaces (t ++ s) = c :: (rest ++ s) := by
  rw [dropSpaces, List.dropWhile_append, show t.dropWhile isSpaceOrTab = c :: rest from h]
  rfl

theorem IsPassedOver.of_append {dropped : Text} (h : IsPassedOver (t ++ dropped)) :
    IsPassedOver t where
  noSemicolon hm := h.noSemicolon (List.mem_append_left _ hm)
  noComment hc := by
    obtain ⟨rest, hd⟩ := List.head?_eq_some_iff.mp hc
    exact h.noComment (by rw [dropSpaces_append hd]; rfl)
  noName hn := h.noName (hn.append dropped)

/-- Where no name is found all is taken up to the end of the item, and it is no parameter. -/
theorem takeItem_of_noName (hs : ';' ∉ t) (ht : EndsItem tail)
    (hn : takeName? (t ++ tail) = none) :
    takeItem (t ++ tail) = (.malformed (Text.trim t), some tail) := by
  have hsplit : (t ++ tail).takeWhile (· ≠ ';') = t ∧ (t ++ tail).dropWhile (· ≠ ';') = tail := by
    refine Text.takeWhile_append_stop (fun d hd => ?_) fun d hd => by simp [ht d hd]
    rw [decide_eq_true_eq]
    rintro rfl
    exact hs hd
  simp only [takeItem, hn, hsplit.1, hsplit.2]

/-- **What is passed over holds no parameter**, and leaves what comes after it as it is. -/
theorem writtenPairs_passedOver (h : IsPassedOver t) (ht : EndsItem tail) :
    writtenPairs (items (t ++ tail)) = writtenPairs (items tail) := by
  have hspaces : IsFiller (t.takeWhile isSpaceOrTab) :=
    .of_forall fun c hc => .inl (List.mem_takeWhile_imp hc)
  have hitems : items (t ++ tail) = items (dropSpaces t ++ tail) := by
    conv_lhs => rw [← List.takeWhile_append_dropWhile (p := isSpaceOrTab) (l := t)]
    rw [List.append_assoc, items_append_filler hspaces]
    rfl
  rw [hitems]
  cases hw : dropSpaces t with
  | nil => rfl
  | cons c rest =>
    have hsemi : ';' ∉ c :: rest := by
      intro hm
      rw [← hw] at hm
      exact h.noSemicolon ((List.dropWhile_sublist isSpaceOrTab).subset hm)
    -- nothing is skipped before the first character, and no name starts there
    have hskip : skipSeparators (c :: rest ++ tail) = c :: rest ++ tail := by
      refine skipSeparators_append (t := []) (by simp) fun d hd => ?_
      obtain rfl := Option.some.inj hd
      refine ⟨(of_dropSpaces_cons hw).2, ?_, ?_⟩
      · rintro rfl
        exact h.noComment (by rw [hw]; rfl)
      · rintro rfl
        exact hsemi (List.mem_cons_self ..)
    have hname : takeName? (c :: rest ++ tail) = none := by
      rw [← Option.not_isSome_iff_eq_none]
      intro hs
      rw [List.cons_append, ← dropSpaces_append hw] at hs
      exact h.noName (.of_append ht (startsParameter_iff.mp hs))
    rw [items_of_item hskip (by simp) (takeItem_of_noName hsemi ht hname)]
    rfl

end MailScreen.Header
