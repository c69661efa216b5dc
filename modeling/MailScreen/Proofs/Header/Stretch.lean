import MailScreen.Proofs.Header.BareValue

/-!
# The text that a parameter is read from

A parameter is read from a stretch of text that begins with its name and equals sign and holds
nothing else (`Header.IsStretchOf`). What comes after it has a say in where it ends, but none in
what it holds: **cut off there and read alone, it is the same parameter** (`Header.exists_stretch`).
-/
namespace MailScreen.Header

variable {t rest left : Text} {name value : Text}

/-! ## Values -/

/-- Where a bare value goes on there is more of it. -/
theorem takeBare_ne_nil (h : bareContinues t = true) : (takeBare t).1 ≠ [] := by
  cases t with
  | nil => cases h
  | cons c rest =>
    have hc : (isBareChar c || isSpaceOrTab c && bareContinues rest) = true := by
      cases hs : isSpaceOrTab c with
      | true =>
        have hd : dropSpaces (c :: rest) = dropSpaces rest := List.dropWhile_cons_of_pos hs
        rw [bareContinues, hd] at h
        rw [bareContinues, h]
        simp
      | false =>
        have hd : dropSpaces (c :: rest) = c :: rest :=
          List.dropWhile_cons_of_neg (by rw [hs]; exact Bool.false_ne_true)
        rw [bareContinues, hd] at h
        rw [(Bool.and_eq_true_iff.mp h).1, Bool.true_or]
    rw [takeBare, if_pos hc]
    exact List.cons_ne_nil _ _

/-- No bare value goes on where a parameter starts. -/
theorem not_namesParameter_of_bareContinues (h : bareContinues t = true) : ¬ NamesParameter t := by
  intro hn
  have hs := startsParameter_iff.mpr hn
  unfold bareContinues at h
  split at h
  · cases h
  · rename_i c rest hd
    rw [hd] at hs
    rw [hs] at h
    simp at h

/-- **What a bare value takes of a text, it takes whole.** -/
theorem isRun_takeBare (t : Text) : IsRun (takeBare t).1 := by
  fun_induction takeBare t with
  | case1 => exact isRun_nil
  | case2 c t hc value left hv ih =>
    rw [hv] at ih
    refine isRun_cons_iff.mpr ⟨?_, ih⟩
    rcases Bool.or_eq_true_iff.mp hc with hc | hc
    · exact .inl hc
    · obtain ⟨hspace, hgo⟩ := Bool.and_eq_true_iff.mp hc
      have hmore := takeBare_ne_nil hgo
      rw [hv] at hmore
      refine .inr ⟨hspace, hmore, fun hn => not_namesParameter_of_bareContinues hgo ?_⟩
      -- a name in the value is one with what is left after it, too
      have hall := takeBare_append_left t
      rw [hv] at hall
      exact hall ▸ hn.append left
  | case3 => exact isRun_nil

theorem takeBare_alone (t : Text) : takeBare (takeBare t).1 = ((takeBare t).1, []) := by
  have h := (takeBare_eq_iff endsItem_nil).mpr (isRun_takeBare t)
  rwa [List.append_nil] at h

/-- After spacing a word starts a bare value. -/
theorem takeValue_bareStart {gap : Text} {c : Char} (hgap : IsSpacing gap)
    (hc : isBareChar c = true ∧ c ≠ '"' ∧ c ≠ '(') (name rest : Text) :
    takeValue name (gap ++ c :: rest) =
      (.parameter name (dropTrailingComment (takeBare (c :: rest)).1),
        some (takeBare (c :: rest)).2) := by
  rw [takeValue_of_skipBlanks (skipBlanks_append hgap _)]
  refine takeValue_word name (List.cons_ne_nil _ _) fun d hd => ?_
  obtain rfl := Option.some.inj hd
  exact hc

/-- A value is read from a text of its own, and alone it is the same. -/
theorem exists_takeValue_alone {other : Text}
    (h : takeValue name t = (.parameter other value, some left)) :
    ∃ s, t = s ++ left ∧ takeValue name s = (.parameter other value, some []) := by
  have hvalue := h
  unfold takeValue at h
  split at h
  · rename_i after hskip
    obtain ⟨-, -, gap, hgap, rfl⟩ := skipBlanks_eq_cons_iff.mp hskip
    split at h
    · rename_i hq
      obtain ⟨rfl, rfl⟩ := Item.parameter.inj (Prod.mk.inj h).1
      obtain rfl := Option.some.inj (Prod.mk.inj h).2
      obtain ⟨body, hb, rfl⟩ := takeQuoted?_eq_some_iff.mp hq
      refine ⟨gap ++ '"' :: (body ++ ['"']), by simp, ?_⟩
      rw [takeValue_of_skipBlanks (skipBlanks_append hgap _)]
      exact takeValue_quotes _ hb []
    · cases (Prod.mk.inj h).1
  · obtain rfl := Option.some.inj (Prod.mk.inj h).2
    exact ⟨t, (List.append_nil t).symm, hvalue⟩
  · rename_i c after hquote hskip
    obtain ⟨-, hcomment, gap, hgap, rfl⟩ := skipBlanks_eq_cons_iff.mp hskip
    split at h
    · rename_i hc
      obtain ⟨word, hword⟩ : ∃ word, (takeBare (c :: after)).1 = c :: word :=
        ⟨_, congrArg Prod.fst (takeBare_word (t := [c]) (List.forall_mem_singleton.mpr hc) after)⟩
      rw [takeValue_bareStart hgap ⟨hc, hquote, hcomment⟩] at hvalue
      obtain ⟨rfl, rfl⟩ := Item.parameter.inj (Prod.mk.inj hvalue).1
      obtain rfl := Option.some.inj (Prod.mk.inj hvalue).2
      refine ⟨gap ++ c :: word, ?_, ?_⟩
      · rw [List.append_assoc, ← hword, takeBare_append_left]
      · rw [takeValue_bareStart hgap ⟨hc, hquote, hcomment⟩, ← hword, takeBare_alone]
    · obtain ⟨rfl, rfl⟩ := Item.parameter.inj (Prod.mk.inj h).1
      obtain rfl := Option.some.inj (Prod.mk.inj h).2
      refine ⟨gap, rfl, ?_⟩
      rw [takeValue, skipBlanks_eq_nil hgap]

/-! ## Parameters -/

/-- A stretch of text that a parameter is read from: it begins with the name, an equals sign after
it, and it holds that parameter and nothing else. -/
structure IsStretchOf (s name value : Text) : Prop where
  named : ∃ token gap after, IsTokenRun token ∧ name = Text.lower token ∧
    (∀ c ∈ gap, isSpaceOrTab c = true) ∧ s = token ++ (gap ++ '=' :: after)
  alone : items s = [.parameter name value]

theorem IsStretchOf.equals_mem {s : Text} (h : IsStretchOf s name value) : '=' ∈ s := by
  obtain ⟨token, gap, after, -, -, -, rfl⟩ := h.named
  simp

/-- **A parameter is read from a stretch of text**, and what comes after it is left. -/
theorem exists_stretch (h : takeItem t = (.parameter name value, some left)) :
    ∃ s, t = s ++ left ∧ IsStretchOf s name value := by
  unfold takeItem at h
  split at h
  · rename_i token after hname
    obtain ⟨hrun, gap, after, hgap, rfl, rfl⟩ := takeName?_eq_some_iff.mp hname
    obtain rfl := name_of_takeValue h
    obtain ⟨written, hwritten, hvalue⟩ := exists_takeValue_alone h
    obtain ⟨spaces, hspaces, he⟩ := exists_dropSpaces after
    rw [hwritten] at he
    refine ⟨token ++ (gap ++ '=' :: (spaces ++ written)), by simp [he],
      ⟨token, gap, spaces ++ written, hrun, rfl, hgap, rfl⟩, ?_⟩
    have hitem : takeItem (token ++ (gap ++ '=' :: (spaces ++ written))) =
        (.parameter (Text.lower token) value, some []) := by
      rw [takeItem_named hrun hgap, ← hvalue]
      exact takeValue_of_skipBlanks (skipBlanks_append (.of_forall hspaces) written) _
    have hstart : skipSeparators (token ++ (gap ++ '=' :: (spaces ++ written))) =
        token ++ (gap ++ '=' :: (spaces ++ written)) := by
      refine skipSeparators_append (t := []) (by simp) ?_
      refine Text.forall_head?_append hrun.ne_nil fun c hc => ?_
      obtain ⟨hspace, hcomment, hsemicolon, -⟩ := isTokenChar_marks (hrun.chars c hc)
      exact ⟨hspace, hcomment, hsemicolon⟩
    rw [items_of_item hstart (by simp) hitem, items_nil]
  · cases (Prod.mk.inj h).1

end MailScreen.Header
