import MailScreen.Proofs.Text.Trim
import MailScreen.Rule.Delimiter

/-!
# How patterns are delimited

A pattern stands between slashes, or after an `m` between brackets that belong together or two times
the same character, with letters after it; or it stands between two quotation marks
(`IsDelimited`). A value is taken apart from its end, by trying one form after the other. **It comes
to the body and the letters that it is made of** (`WrittenValue.splitPattern?_of_isDelimited`), and
to nothing if it is made in none of these ways (`WrittenValue.isDelimited_of_splitPattern?`): as no
delimiter is a letter that may follow one, there is only one place at which a value can be split.
-/
namespace MailScreen

open WrittenClause

/-- What a pattern may stand between. -/
inductive Delimiters : Text → Char → Prop
  | slashes : Delimiters ['/'] '/'
  | braces : Delimiters ['m', '\x7b'] '\x7d'
  | parentheses : Delimiters ['m', '('] ')'
  | brackets : Delimiters ['m', '['] ']'
  | angles : Delimiters ['m', '<'] '>'
  | same {c : Char} (hc : isWord c = false) : Delimiters ['m', c] c

/-- A value that stands for a pattern, by the body of the pattern and the letters after it. -/
inductive IsDelimited : Text → Text → Text → Prop
  | pattern {opening body letters : Text} {closing : Char} (hd : Delimiters opening closing)
      (hl : ∀ c ∈ letters, isOptionLetter c = true) :
      IsDelimited (opening ++ body ++ closing :: letters) body letters
  | quoted {mark : Char} {body : Text} (hm : isQuotationMark mark = true) :
      IsDelimited (mark :: body ++ [mark]) body []

/-! ## Letters -/

namespace WrittenClause

theorem isOptionLetter_iff (c : Char) :
    isOptionLetter c = true ↔ c = 'i' ∨ c = 'm' ∨ c = 's' ∨ c = 'x' := by
  simp [isOptionLetter, or_assoc]

theorem isWord_of_isOptionLetter {c : Char} (h : isOptionLetter c = true) : isWord c = true := by
  rcases (isOptionLetter_iff c).mp h with rfl | rfl | rfl | rfl <;> decide

theorem isOptionLetter_of_not_isWord {c : Char} (h : isWord c = false) :
    isOptionLetter c = false := by
  rw [Bool.eq_false_iff]
  intro hl
  rw [isWord_of_isOptionLetter hl] at h
  cases h

theorem isOptionLetter_of_isBlank {c : Char} (h : isBlank c = true) : isOptionLetter c = false := by
  rw [Bool.eq_false_iff, Ne, isOptionLetter_iff]
  rintro (rfl | rfl | rfl | rfl)
  · exact absurd h (by decide)
  · exact absurd h (by decide)
  · exact absurd h (by decide)
  · exact absurd h (by decide)

theorem closingBracket?_eq_some_iff {c closing : Char} :
    closingBracket? c = some closing ↔
      (c = '\x7b' ∧ closing = '\x7d') ∨ (c = '(' ∧ closing = ')') ∨ (c = '[' ∧ closing = ']') ∨
        (c = '<' ∧ closing = '>') := by
  grind [closingBracket?]

end WrittenClause

/-- What closes a pattern is none of the letters that may follow it. -/
theorem Delimiters.isOptionLetter_closing {opening : Text} {closing : Char}
    (h : Delimiters opening closing) : isOptionLetter closing = false := by
  cases h with
  | same hc => exact isOptionLetter_of_not_isWord hc
  | _ => decide

theorem IsDelimited.isOptionLetter {value body letters : Text}
    (h : IsDelimited value body letters) : ∀ c ∈ letters, isOptionLetter c = true := by
  cases h with
  | pattern _ hl => exact hl
  | quoted _ => exact fun _ hc => absurd hc List.not_mem_nil

namespace WrittenValue

variable {closes : Char → Bool} {closing : Char} {body letters t : Text}

/-! ## The last delimiter -/

/-- What is at its end holds nothing but line feeds. -/
theorem eq_lineFeed_of_isAtEnd (h : isAtEnd t = true) : ∀ c ∈ t, c = '\n' := by
  unfold isAtEnd at h
  split at h
  · exact fun c hc => absurd hc List.not_mem_nil
  · intro c hc
    rw [List.mem_singleton.mp hc]
    exact beq_iff_eq.mp h
  · cases h

/-- No delimiter is found among letters. -/
theorem splitAtLast?_letters (hc : ∀ c, closes c = true → isOptionLetter c = false)
    (hl : ∀ c ∈ letters, isOptionLetter c = true) : splitAtLast? closes letters = none := by
  induction letters with
  | nil => rfl
  | cons c rest ih =>
    rw [List.forall_mem_cons] at hl
    have hn : closes c = false := by
      rw [Bool.eq_false_iff]
      intro h
      rw [hc c h] at hl
      cases hl.1
    simp only [splitAtLast?, ih hl.2, hn, Bool.false_and, Bool.false_eq_true, if_false]

/-- **A text is split at the delimiter before the letters at its end**, whatever stands before
it. -/
theorem splitAtLast?_append (hc : ∀ c, closes c = true → isOptionLetter c = false)
    (hclosing : closes closing = true) (hl : ∀ c ∈ letters, isOptionLetter c = true) (body : Text) :
    splitAtLast? closes (body ++ closing :: letters) = some (body, closing, letters) := by
  induction body with
  | nil =>
    obtain ⟨ht, hd⟩ := Text.takeWhile_append_stop (s := []) hl (by simp)
    rw [List.append_nil] at ht hd
    rw [List.nil_append, splitAtLast?, splitAtLast?_letters hc hl, ht, hd, hclosing]
    rfl
  | cons c body ih => rw [List.cons_append, splitAtLast?, ih]

/-- No delimiter is found before another character that letters follow. -/
theorem splitAtLast?_eq_none {mark : Char} (hc : ∀ c, closes c = true → isOptionLetter c = false)
    (hm : closes mark = false) (hletter : isOptionLetter mark = false) (hfeed : mark ≠ '\n')
    (hl : ∀ c ∈ letters, isOptionLetter c = true) (body : Text) :
    splitAtLast? closes (body ++ mark :: letters) = none := by
  induction body with
  | nil =>
    simp only [List.nil_append, splitAtLast?, splitAtLast?_letters hc hl, hm, Bool.false_and,
      Bool.false_eq_true, if_false]
  | cons c body ih =>
    -- the other character is still there when the letters have been passed over
    have hin : mark ∈ (body ++ mark :: letters).dropWhile isOptionLetter := by
      have hall : mark ∈ body ++ mark :: letters := by simp
      rw [← List.takeWhile_append_dropWhile (p := isOptionLetter) (l := body ++ mark :: letters)]
        at hall
      refine (List.mem_append.mp hall).resolve_left fun h => ?_
      rw [List.mem_takeWhile_imp h] at hletter
      cases hletter
    have hend : isAtEnd ((body ++ mark :: letters).dropWhile isOptionLetter) = false := by
      rw [Bool.eq_false_iff]
      exact fun h => hfeed (eq_lineFeed_of_isAtEnd h mark hin)
    simp only [List.cons_append, splitAtLast?, ih, hend, Bool.and_false, Bool.false_eq_true,
      if_false]

/-- What is found is a delimiter with letters after it, and after them at most a line feed. -/
theorem of_splitAtLast? (h : splitAtLast? closes t = some (body, closing, letters)) :
    ∃ left, t = body ++ closing :: (letters ++ left) ∧ closes closing = true ∧
      (∀ c ∈ letters, isOptionLetter c = true) ∧ ∀ c ∈ left, c = '\n' := by
  induction t generalizing body with
  | nil => cases h
  | cons c rest ih =>
    rw [splitAtLast?] at h
    split at h
    · rename_i hsplit
      simp only [Option.some.injEq, Prod.mk.injEq] at h
      obtain ⟨rfl, rfl, rfl⟩ := h
      obtain ⟨left, rfl, hleft⟩ := ih hsplit
      exact ⟨left, rfl, hleft⟩
    · split at h
      · rename_i hfound
        rw [Bool.and_eq_true] at hfound
        simp only [Option.some.injEq, Prod.mk.injEq] at h
        obtain ⟨rfl, rfl, rfl⟩ := h
        refine ⟨rest.dropWhile isOptionLetter, ?_, hfound.1, fun c hc => List.mem_takeWhile_imp hc,
          eq_lineFeed_of_isAtEnd hfound.2⟩
        rw [List.takeWhile_append_dropWhile]
        rfl
      · cases h

/-! ## Quotation marks -/

theorem unquote_quoted {mark : Char} (hm : isQuotationMark mark = true) (body : Text) :
    unquote (mark :: body ++ [mark]) = body := by
  rw [List.cons_append, unquote, List.getLast?_concat, hm, List.dropLast_concat]
  simp

/-- What loses quotation marks had them. -/
theorem eq_quoted_of_unquote_ne (h : unquote t ≠ t) :
    ∃ mark, isQuotationMark mark = true ∧ t = mark :: unquote t ++ [mark] := by
  cases t with
  | nil => exact absurd rfl h
  | cons mark rest =>
    by_cases hc : (isQuotationMark mark && rest.getLast? == some mark) = true
    · rw [Bool.and_eq_true, beq_iff_eq] at hc
      obtain ⟨before, hrest⟩ := List.getLast?_eq_some_iff.mp hc.2
      refine ⟨mark, hc.1, ?_⟩
      rw [hrest, ← List.cons_append, unquote_quoted hc.1]
    · exact absurd (by rw [unquote, if_neg hc]) h

/-! ## Values -/

theorem isOptionLetter_of_isClosingBracket (c : Char) (h : isClosingBracket c = true) :
    isOptionLetter c = false := by
  simp only [isClosingBracket, Bool.or_eq_true, beq_iff_eq] at h
  rcases h with ((rfl | rfl) | rfl) | rfl <;> decide

/-- A pattern between brackets is found by them. -/
theorem splitBrackets?_append {c : Char} (hb : closingBracket? c = some closing)
    (hl : ∀ c ∈ letters, isOptionLetter c = true) (body : Text) :
    splitBrackets? ('m' :: c :: (body ++ closing :: letters)) = some (body, letters) := by
  have hclosing : isClosingBracket closing = true := by
    rcases closingBracket?_eq_some_iff.mp hb with ⟨-, rfl⟩ | ⟨-, rfl⟩ | ⟨-, rfl⟩ | ⟨-, rfl⟩ <;> rfl
  simp only [splitBrackets?, hb, Option.bind_some,
    splitAtLast?_append isOptionLetter_of_isClosingBracket hclosing hl, if_true]

/-- A pattern between two times the same opening bracket is not taken to be one between brackets,
whatever closing brackets stand in it. -/
theorem splitBrackets?_same {c : Char} (hl : ∀ c ∈ letters, isOptionLetter c = true)
    (body : Text) : splitBrackets? ('m' :: c :: (body ++ c :: letters)) = none := by
  cases hb : closingBracket? c with
  | none => simp only [splitBrackets?, hb, Option.bind_none]
  | some closing =>
    have hc : isClosingBracket c = false ∧ isOptionLetter c = false ∧ c ≠ '\n' := by
      rcases closingBracket?_eq_some_iff.mp hb with ⟨rfl, -⟩ | ⟨rfl, -⟩ | ⟨rfl, -⟩ | ⟨rfl, -⟩ <;>
        decide
    simp only [splitBrackets?, hb, Option.bind_some, Option.bind_none,
      splitAtLast?_eq_none isOptionLetter_of_isClosingBracket hc.1 hc.2.1 hc.2.2 hl]

/-- **A value comes to the body and the letters that it is made of.** -/
theorem splitPattern?_of_isDelimited (h : IsDelimited t body letters) :
    splitPattern? t = some (body, letters) := by
  have hsame {c : Char} (hc : isOptionLetter c = false) :
      ∀ d, (d == c) = true → isOptionLetter d = false := fun d hd => by rwa [beq_iff_eq.mp hd]
  cases h with
  | @pattern opening body letters closing hd hl =>
    have hletter := hd.isOptionLetter_closing
    -- between brackets the form with slashes is out of the question, and theirs comes next
    have hbrackets {c : Char} (hb : closingBracket? c = some closing) :
        splitPattern? (['m', c] ++ body ++ closing :: letters) = some (body, letters) := by
      show (none : Option (Text × Text)).or
        ((splitBrackets? ('m' :: c :: (body ++ closing :: letters))).or _) = _
      rw [splitBrackets?_append hb hl]
      rfl
    cases hd with
    | slashes =>
      show (Option.map _ (splitAtLast? (· == '/') (body ++ '/' :: letters))).or _ = _
      rw [splitAtLast?_append (hsame hletter) (beq_self_eq_true _) hl]
      rfl
    | braces => exact hbrackets rfl
    | parentheses => exact hbrackets rfl
    | brackets => exact hbrackets rfl
    | angles => exact hbrackets rfl
    | same hw =>
      show (none : Option (Text × Text)).or
        ((splitBrackets? ('m' :: closing :: (body ++ closing :: letters))).or
          ((splitMarks? ('m' :: closing :: (body ++ closing :: letters))).or _)) = _
      rw [splitBrackets?_same hl, splitMarks?, hw,
        splitAtLast?_append (hsame hletter) (beq_self_eq_true _) hl]
      rfl
  | @quoted mark body hm =>
    have hne : unquote (mark :: body ++ [mark]) ≠ mark :: body ++ [mark] := by
      rw [unquote_quoted hm]
      intro he
      have hlen := congrArg List.length he
      simp only [List.cons_append, List.length_cons, List.length_append, List.length_nil] at hlen
      omega
    have hmark : mark = '"' ∨ mark = '\'' := by simpa [isQuotationMark] using hm
    have hnone : splitSlashes? (mark :: body ++ [mark]) = none ∧
        splitBrackets? (mark :: body ++ [mark]) = none ∧
        splitMarks? (mark :: body ++ [mark]) = none := by
      rcases hmark with rfl | rfl <;> exact ⟨rfl, rfl, rfl⟩
    rw [splitPattern?, hnone.1, hnone.2.1, hnone.2.2, if_neg hne, unquote_quoted hm]
    rfl

/-- Where there are no line feeds, a text that is split ends in the letters. -/
theorem eq_append_of_splitAtLast? (hn : '\n' ∉ t)
    (h : splitAtLast? closes t = some (body, closing, letters)) :
    t = body ++ closing :: letters ∧ closes closing = true ∧
      ∀ c ∈ letters, isOptionLetter c = true := by
  obtain ⟨left, rfl, hclosing, hl, hleft⟩ := of_splitAtLast? h
  cases left with
  | nil => exact ⟨by rw [List.append_nil], hclosing, hl⟩
  | cons c left =>
    obtain rfl := hleft c (List.mem_cons_self ..)
    exact absurd (by simp) hn

theorem isDelimited_of_splitSlashes? (hn : '\n' ∉ t)
    (h : splitSlashes? t = some (body, letters)) : IsDelimited t body letters := by
  unfold splitSlashes? at h
  split at h
  · obtain ⟨⟨b, closing, l⟩, hs, he⟩ := Option.map_eq_some_iff.mp h
    obtain ⟨rfl, rfl⟩ := Prod.mk.inj he
    obtain ⟨rfl, hc, hl⟩ := eq_append_of_splitAtLast? (fun hm => hn (.tail _ hm)) hs
    obtain rfl := beq_iff_eq.mp hc
    exact .pattern .slashes hl
  · cases h

theorem isDelimited_of_splitBrackets? (hn : '\n' ∉ t)
    (h : splitBrackets? t = some (body, letters)) : IsDelimited t body letters := by
  unfold splitBrackets? at h
  split at h
  · rename_i c rest
    obtain ⟨wanted, hb, h⟩ := Option.bind_eq_some_iff.mp h
    obtain ⟨⟨b, closing, l⟩, hs, h⟩ := Option.bind_eq_some_iff.mp h
    dsimp only at h
    split at h
    · rename_i hw
      obtain ⟨rfl, rfl⟩ := Prod.mk.inj (Option.some.inj h)
      obtain ⟨rfl, -, hl⟩ := eq_append_of_splitAtLast? (fun hm => hn (.tail _ (.tail _ hm))) hs
      rw [← hw] at hb
      rcases closingBracket?_eq_some_iff.mp hb with
        ⟨rfl, rfl⟩ | ⟨rfl, rfl⟩ | ⟨rfl, rfl⟩ | ⟨rfl, rfl⟩
      · exact .pattern .braces hl
      · exact .pattern .parentheses hl
      · exact .pattern .brackets hl
      · exact .pattern .angles hl
    · cases h
  · cases h

theorem isDelimited_of_splitMarks? (hn : '\n' ∉ t)
    (h : splitMarks? t = some (body, letters)) : IsDelimited t body letters := by
  unfold splitMarks? at h
  split at h
  · split at h
    · cases h
    · rename_i hw
      obtain ⟨⟨b, closing, l⟩, hs, he⟩ := Option.map_eq_some_iff.mp h
      obtain ⟨rfl, rfl⟩ := Prod.mk.inj he
      obtain ⟨rfl, hc, hl⟩ := eq_append_of_splitAtLast? (fun hm => hn (.tail _ (.tail _ hm))) hs
      obtain rfl := beq_iff_eq.mp hc
      exact .pattern (.same (Bool.eq_false_iff.mpr hw)) hl
  · cases h

/-- **What a value is taken apart into makes it up**, if no line feed is in it. -/
theorem isDelimited_of_splitPattern? (hn : '\n' ∉ t)
    (h : splitPattern? t = some (body, letters)) : IsDelimited t body letters := by
  rcases Option.or_eq_some_iff.mp h with h | ⟨-, h⟩
  · exact isDelimited_of_splitSlashes? hn h
  rcases Option.or_eq_some_iff.mp h with h | ⟨-, h⟩
  · exact isDelimited_of_splitBrackets? hn h
  rcases Option.or_eq_some_iff.mp h with h | ⟨-, h⟩
  · exact isDelimited_of_splitMarks? hn h
  split at h
  · cases h
  · rename_i hne
    obtain ⟨rfl, rfl⟩ := Prod.mk.inj (Option.some.inj h)
    obtain ⟨mark, hm, ht⟩ := eq_quoted_of_unquote_ne hne
    rw [ht, unquote_quoted hm]
    exact .quoted hm

end WrittenValue
end MailScreen
