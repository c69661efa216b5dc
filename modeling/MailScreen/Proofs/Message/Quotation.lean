import MailScreen.Message.Lexeme
import MailScreen.Message.Outlook
import MailScreen.Proofs.Text.Trim

/-!
# Quotations in type headers

A name in quotation marks is read once more when the structure of the message is made out, by a
reader that looks for encoded words inside the marks. What it takes the name to be is of no
consequence, but where it stops is: a quotation that ended early would leave the rest of the name to
be read as parameters. **It never does** (`Lexeme.quotation_closing`). What is left at any time is
a quoted text and its closing mark, or nothing: no word, blank or run of characters ends between a
backslash and the mark after it.
-/
namespace MailScreen.Lexeme

open OutlookMessage

/-- A text in quotation marks from after the opening mark. -/
def closing (t : Text) : Text := t.flatMap quoteChar ++ ['"']

theorem closing_nil : closing [] = ['"'] := rfl

/-- A mark in a quoted text stands after a backslash. -/
theorem closing_cons_mark {c : Char} (hc : c = '\\' ∨ c = '"') (t : Text) :
    closing (c :: t) = '\\' :: c :: closing t := by
  simp [closing, quoteChar, hc]

theorem closing_cons {c : Char} (h1 : c ≠ '\\') (h2 : c ≠ '"') (t : Text) :
    closing (c :: t) = c :: closing t := by
  simp [closing, quoteChar, h1, h2]

/-- A quoted text that starts with a character that is not escaped is that of a text which does. -/
theorem closing_eq_cons {t rest : Text} {d : Char} (h1 : d ≠ '\\') (h2 : d ≠ '"')
    (h : closing t = d :: rest) : ∃ t', t = d :: t' ∧ rest = closing t' := by
  cases t with
  | nil => exact absurd (List.cons.inj h).1.symm h2
  | cons c t' =>
    by_cases hc : c = '\\' ∨ c = '"'
    · rw [closing_cons_mark hc] at h
      exact absurd (List.cons.inj h).1.symm h1
    · rw [not_or] at hc
      rw [closing_cons hc.1 hc.2] at h
      obtain ⟨rfl, rfl⟩ := List.cons.inj h
      exact ⟨t', rfl, rfl⟩

/-- A text in quotation marks is one that is closed. -/
theorem showQuoted_eq (t : Text) : showQuoted t = '"' :: closing t := by
  have hq : (fun c => if c = '"' || c = '\\' then ['\\', c] else [c]) = quoteChar := by
    funext c
    rw [quoteChar, Bool.or_comm]
  rw [showQuoted, hq]
  rfl

/-! ## Where the pieces end -/

theorem dropWhile_isBlank_closing (t : Text) :
    (closing t).dropWhile isBlank = closing (t.dropWhile isBlank) := by
  induction t with
  | nil => rfl
  | cons c rest ih =>
    by_cases hc : c = '\\' ∨ c = '"'
    · have hb : isBlank c = false := by rcases hc with rfl | rfl <;> decide
      rw [List.dropWhile_cons_of_neg (by simp [hb]), closing_cons_mark hc]
      rfl
    · rw [not_or] at hc
      rw [closing_cons hc.1 hc.2]
      by_cases hb : isBlank c = true
      · rw [List.dropWhile_cons_of_pos hb, List.dropWhile_cons_of_pos hb, ih]
      · rw [List.dropWhile_cons_of_neg hb, List.dropWhile_cons_of_neg hb, closing_cons hc.1 hc.2]

theorem quotedRun_cons {c : Char} (hc : c ≠ '\\') (rest : Text) :
    quotedRun (c :: rest) =
      if isSpaceOrTab c || c = '"' then ([], c :: rest)
      else (c :: (quotedRun rest).1, (quotedRun rest).2) := by
  rw [quotedRun]
  · exact fun h _ => absurd h hc
  · exact fun _ _ h => absurd h hc

/-- A run of quoted characters ends before a space, a tab or the closing mark. -/
theorem quotedRun_closing (t : Text) :
    ∃ rest, (quotedRun (closing t)).2 = closing rest ∧ rest.length ≤ t.length ∧
      ∀ c ∈ t.head?, isSpaceOrTab c = false → rest.length < t.length := by
  induction t with
  | nil => exact ⟨[], by simp [closing_nil, quotedRun_cons], Nat.le_refl _, by simp⟩
  | cons c t ih =>
    obtain ⟨rest, hr, hl, -⟩ := ih
    have hlt : rest.length < (c :: t).length := Nat.lt_succ_of_le hl
    by_cases hc : c = '\\' ∨ c = '"'
    · have hs : isSpaceOrTab c = false := by rcases hc with rfl | rfl <;> decide
      refine ⟨rest, ?_, Nat.le_of_lt hlt, fun _ _ _ => hlt⟩
      rw [closing_cons_mark hc, quotedRun, if_neg (by simp [hs])]
      exact hr
    · rw [not_or] at hc
      by_cases hs : isSpaceOrTab c = true
      · refine ⟨c :: t, ?_, Nat.le_refl _, ?_⟩
        · rw [closing_cons hc.1 hc.2, quotedRun_cons hc.1, if_pos (by simp [hs])]
        · intro d hd hds
          obtain rfl := Option.some.inj hd
          rw [hs] at hds
          cases hds
      · refine ⟨rest, ?_, Nat.le_of_lt hlt, fun _ _ _ => hlt⟩
        rw [closing_cons hc.1 hc.2, quotedRun_cons hc.1, if_neg (by simp [hs, hc.2])]
        exact hr

theorem cutAtClose?_cons {c : Char} {rest : Text} (h : ∀ r, c :: rest ≠ '?' :: '=' :: r) :
    cutAtClose? (c :: rest) =
      (cutAtClose? rest).map fun (before, after) => (c :: before, after) := by
  rw [cutAtClose?]
  rintro r rfl hr
  exact h r (by rw [hr])

/-- What closes an encoded word is not escaped, so a quoted text is left after it. -/
theorem cutAtClose?_closing {t inner left : Text}
    (h : cutAtClose? (closing t) = some (inner, left)) :
    ∃ rest, left = closing rest ∧ rest.length < t.length := by
  induction t generalizing inner with
  | nil => simp [closing_nil, cutAtClose?] at h
  | cons c t ih =>
    by_cases hc : c = '\\' ∨ c = '"'
    · -- neither the backslash nor the mark after it is part of what closes a word
      have hq : c ≠ '?' := by rcases hc with rfl | rfl <;> decide
      rw [closing_cons_mark hc, cutAtClose?_cons (by simp), cutAtClose?_cons (by simp [hq]),
        Option.map_map] at h
      obtain ⟨⟨before, after⟩, hcut, he⟩ := Option.map_eq_some_iff.mp h
      obtain ⟨-, rfl⟩ := Prod.mk.inj he
      obtain ⟨rest, hr, hl⟩ := ih hcut
      exact ⟨rest, hr, Nat.lt_succ_of_lt hl⟩
    · rw [not_or] at hc
      rw [closing_cons hc.1 hc.2] at h
      by_cases hclose : ∃ r, c :: closing t = '?' :: '=' :: r
      · obtain ⟨r, hr⟩ := hclose
        obtain ⟨rfl, ht⟩ := List.cons.inj hr
        obtain ⟨t', rfl, rfl⟩ := closing_eq_cons (by decide) (by decide) ht
        rw [hr, cutAtClose?] at h
        obtain ⟨-, rfl⟩ := Prod.mk.inj (Option.some.inj h)
        exact ⟨t', rfl, by simp only [List.length_cons]; omega⟩
      · rw [cutAtClose?_cons fun r hr => hclose ⟨r, hr⟩] at h
        obtain ⟨⟨before, after⟩, hcut, he⟩ := Option.map_eq_some_iff.mp h
        obtain ⟨-, rfl⟩ := Prod.mk.inj he
        obtain ⟨rest, hr, hl⟩ := ih hcut
        exact ⟨rest, hr, Nat.lt_succ_of_lt hl⟩

/-- **After an encoded word a quoted text is left, or nothing at all.** -/
theorem encodedWord?_closing {t word left : Text}
    (h : encodedWord? (closing t) = some (word, left)) :
    left = [] ∨ ∃ rest, left = closing rest ∧ rest.length < t.length := by
  unfold encodedWord? at h
  split at h
  · rename_i rest hr
    obtain ⟨t1, rfl, ht⟩ := closing_eq_cons (by decide) (by decide) hr
    obtain ⟨t2, rfl, rfl⟩ := closing_eq_cons (by decide) (by decide) ht.symm
    split at h
    · cases h
    · rename_i inner after hc
      obtain ⟨rest, rfl, hl⟩ := cutAtClose?_closing hc
      have hleft : ∀ {body after : Text},
          (decodeWord? body).map (fun shown => (shown, after)) = some (word, left) →
            after = left := by
        intro body after hb
        obtain ⟨shown, -, he⟩ := Option.map_eq_some_iff.mp hb
        exact (Prod.mk.inj he).2
      simp only at h
      -- a word that goes on past its first end may find no other one, and then takes everything
      split at h
      · split at h
        · rename_i more after hm
          obtain ⟨rest', rfl, hl'⟩ := cutAtClose?_closing hm
          obtain rfl := hleft h
          exact .inr ⟨rest', rfl, by simp only [List.length_cons]; omega⟩
        · obtain rfl := hleft h
          exact .inl rfl
      · obtain rfl := hleft h
        exact .inr ⟨rest, rfl, by simp only [List.length_cons]; omega⟩
  · cases h

theorem quotedPieces_nil (steps : Nat) (last : LastQuoted) :
    (quotedPieces steps last []).2 = [] := by
  cases steps <;> rfl

/-- A quoted text that is not empty does not start with its closing mark, and with a space or
tab exactly if the text does. -/
theorem closing_cons_head (c : Char) (t : Text) :
    ∃ d rest, closing (c :: t) = d :: rest ∧ d ≠ '"' ∧ isSpaceOrTab d = isSpaceOrTab c := by
  by_cases hc : c = '\\' ∨ c = '"'
  · refine ⟨_, _, closing_cons_mark hc t, by decide, ?_⟩
    rcases hc with rfl | rfl <;> decide
  · rw [not_or] at hc
    exact ⟨_, _, closing_cons hc.1 hc.2 t, hc.2, rfl⟩

/-- **The pieces of a quoted text run up to its closing mark.** -/
theorem quotedPieces_closing (steps : Nat) (last : LastQuoted) {t : Text}
    (h : t.length < steps) : (quotedPieces steps last (closing t)).2 = [] := by
  -- on the bound and not on the text: a piece may take any number of characters of it
  induction steps generalizing last t with
  | zero => exact absurd h (Nat.not_lt_zero _)
  | succ steps ih =>
    cases t with
    | nil => simp [closing_nil, quotedPieces]
    | cons c t =>
      have hlen : t.length < steps := Nat.lt_of_succ_lt_succ h
      obtain ⟨d, u, hd, hq, hcd⟩ := closing_cons_head c t
      rw [hd, quotedPieces, if_neg hq, ← hd]
      rw [hcd]
      by_cases hs : isSpaceOrTab c = true
      · -- blanks that are passed over are those of the text
        have hl : ((c :: t).dropWhile isBlank).length < steps := by
          rw [List.dropWhile_cons_of_pos (isBlank_of_isSpaceOrTab hs)]
          exact Nat.lt_of_le_of_lt (List.dropWhile_sublist _).length_le hlen
        rw [if_pos hs]
        simp only [dropWhile_isBlank_closing]
        split
        · exact ih _ hl
        · exact ih _ hl
      · rw [if_neg hs]
        split
        · rename_i word left he
          rcases encodedWord?_closing he with rfl | ⟨rest, rfl, hr⟩
          · exact quotedPieces_nil _ _
          · exact ih _ (Nat.lt_of_lt_of_le hr (Nat.le_of_lt_succ h))
        · obtain ⟨rest, hr, -, hlt⟩ := quotedRun_closing (c :: t)
          have hlt' : rest.length < (c :: t).length := hlt c rfl (Bool.eq_false_iff.mpr hs)
          simp only [hr]
          exact ih _ (Nat.lt_of_lt_of_le hlt' (Nat.le_of_lt_succ h))

/-- **A quotation takes all of a quoted text**, whatever stands in it. -/
theorem quotation_closing (t : Text) : (quotation (closing t)).2 = [] := by
  refine quotedPieces_closing _ .other ?_
  have hl : t.length ≤ (t.flatMap quoteChar).length := by
    induction t with
    | nil => simp
    | cons c t ih =>
      rw [List.flatMap_cons, List.length_append, List.length_cons, quoteChar]
      split
      · simp only [List.length_cons, List.length_nil]
        omega
      · simp only [List.length_cons, List.length_nil]
        omega
  simp only [closing, List.length_append, List.length_singleton]
  omega

end MailScreen.Lexeme
