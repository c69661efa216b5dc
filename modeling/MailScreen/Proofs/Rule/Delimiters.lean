import MailScreen.Proofs.Rule.Compiled
import MailScreen.Proofs.Rule.Printing

/-!
# Patterns are taken apart as they were found

The value of a clause is found from its start: the first closing delimiter counts that a value may
end after. When it is asked for a pattern it is taken apart from its end: the last closing delimiter
counts that nothing but letters follow. **Both come to the same**
(`WrittenClause.splitPattern?_of_takeValue?`), however many delimiters there are in it, and what was
found to be no pattern is not taken for one. So the patterns of a rule that is compiled are those
that its clauses were written with (`AttachmentRule.splitsAsFound`).
-/
namespace MailScreen

open WrittenClause WrittenValue

/-- The pattern that a value was found to be, by its body and the letters after it. -/
def WrittenValue.found? : WrittenValue → Option (Text × Text)
  | pattern _ body _ letters => some (body, letters)
  | quoted _ text => some (text, [])
  | bare _ => none

namespace WrittenClause

variable {t rest body letters opening : Text} {closing : Char} {value : WrittenValue}

/-! ## What is found -/

theorem of_takeBody? (h : takeBody? closing t = some (body, letters, rest)) :
    (∀ c ∈ letters, isOptionLetter c = true) ∧ endsValue rest = true := by
  fun_induction takeBody? closing t generalizing body with
  | case1 => cases h
  | case2 c t hc =>
    simp only [Option.some.injEq, Prod.mk.injEq, Bool.and_eq_true] at h hc
    obtain ⟨-, rfl, rfl⟩ := h
    exact ⟨fun c hm => List.mem_takeWhile_imp hm, hc.2⟩
  | case3 => cases h
  | case4 c t _ _ ih =>
    obtain ⟨⟨b, l, r⟩, hfound, he⟩ := Option.map_eq_some_iff.mp h
    simp only [Prod.mk.injEq] at he
    obtain ⟨-, rfl, rfl⟩ := he
    exact ih hfound

/-- A pattern that is found after an opening. -/
theorem of_takePatternAfter? (hd : Delimiters opening closing)
    (h : takePatternAfter? opening closing t = some (value, rest)) :
    ∃ body letters, value = .pattern opening body closing letters ∧
      IsDelimited value.text body letters := by
  obtain ⟨⟨body, letters, left⟩, hfound, he⟩ := Option.map_eq_some_iff.mp h
  obtain ⟨rfl, -⟩ := Prod.mk.inj he
  exact ⟨body, letters, rfl, .pattern hd (of_takeBody? hfound).1⟩

/-- A pattern is found between delimiters. -/
theorem of_takePattern? (h : takePattern? t = some (value, rest)) :
    ∃ body letters, value.found? = some (body, letters) ∧ IsDelimited value.text body letters := by
  suffices ∃ opening closing, Delimiters opening closing ∧
      ∃ s, takePatternAfter? opening closing s = some (value, rest) by
    obtain ⟨opening, closing, hd, s, h⟩ := this
    obtain ⟨body, letters, rfl, hdelimited⟩ := of_takePatternAfter? hd h
    exact ⟨body, letters, rfl, hdelimited⟩
  unfold takePattern? at h
  split at h
  · exact ⟨_, _, .slashes, _, h⟩
  · rcases Option.or_eq_some_iff.mp h with h | ⟨-, h⟩
    · obtain ⟨closing, hb, h⟩ := Option.bind_eq_some_iff.mp h
      rcases closingBracket?_eq_some_iff.mp hb with
        ⟨rfl, rfl⟩ | ⟨rfl, rfl⟩ | ⟨rfl, rfl⟩ | ⟨rfl, rfl⟩
      · exact ⟨_, _, .braces, _, h⟩
      · exact ⟨_, _, .parentheses, _, h⟩
      · exact ⟨_, _, .brackets, _, h⟩
      · exact ⟨_, _, .angles, _, h⟩
    · split at h
      · cases h
      · rename_i hw
        exact ⟨_, _, .same (Bool.eq_false_iff.mpr hw), _, h⟩
  · cases h

theorem of_takeQuoted? (h : takeQuoted? t = some (value, rest)) :
    ∃ mark text, value = .quoted mark text ∧ isQuotationMark mark = true := by
  unfold takeQuoted? at h
  split at h
  · cases h
  · split at h
    · rename_i mark _ hm
      obtain ⟨⟨text, left⟩, -, he⟩ := Option.map_eq_some_iff.mp h
      exact ⟨mark, text, (Prod.mk.inj he).1.symm, hm⟩
    · cases h

theorem of_takeBare? (h : takeBare? t = some (value, rest)) :
    ∃ text, value = .bare text ∧ t = text ++ rest ∧ (∀ c ∈ text, isBareChar c = true) ∧
      endsValue rest = true := by
  simp only [takeBare?] at h
  split at h
  · cases h
  · rename_i hc
    obtain ⟨rfl, rfl⟩ := Prod.mk.inj (Option.some.inj h)
    refine ⟨_, rfl, List.takeWhile_append_dropWhile.symm, fun c hm => List.mem_takeWhile_imp hm, ?_⟩
    rw [Bool.or_eq_true, not_or, Bool.not_eq_true', Bool.not_eq_false] at hc
    exact hc.2

/-! ## What is not found -/

/-- **A delimiter that a value may end after is not missed**: there may only be an earlier one. -/
theorem takeBody?_ne_none (hn : '\n' ∉ body) (hl : ∀ c ∈ letters, isOptionLetter c = true)
    (hr : endsValue rest = true) :
    takeBody? closing (body ++ closing :: (letters ++ rest)) ≠ none := by
  induction body with
  | nil =>
    obtain ⟨-, hd⟩ := Text.takeWhile_append_stop hl (head?_of_endsValue hr)
    rw [List.nil_append, takeBody?, hd, hr]
    simp
  | cons c body ih =>
    rw [List.mem_cons, not_or] at hn
    rw [List.cons_append, takeBody?]
    split
    · exact Option.some_ne_none _
    · rw [if_neg (Ne.symm hn.1), Ne, Option.map_eq_none_iff]
      exact ih hn.2

/-- A pattern between delimiters is not overlooked. -/
theorem takePattern?_ne_none (hd : Delimiters opening closing) (hn : '\n' ∉ body)
    (hl : ∀ c ∈ letters, isOptionLetter c = true) (hr : endsValue rest = true) :
    takePattern? (opening ++ (body ++ closing :: (letters ++ rest))) ≠ none := by
  have hafter (opening : Text) :
      takePatternAfter? opening closing (body ++ closing :: (letters ++ rest)) ≠ none := by
    rw [takePatternAfter?, Ne, Option.map_eq_none_iff]
    exact takeBody?_ne_none hn hl hr
  have hbracket {c : Char} (hb : closingBracket? c = some closing) :
      takePattern? ('m' :: c :: (body ++ closing :: (letters ++ rest))) ≠ none := by
    rw [takePattern?, hb, Option.bind_some, Ne, Option.or_eq_none_iff]
    exact fun h => hafter _ h.1
  cases hd with
  | slashes => exact hafter ['/']
  | braces => exact hbracket rfl
  | parentheses => exact hbracket rfl
  | brackets => exact hbracket rfl
  | angles => exact hbracket rfl
  | same hw =>
    show takePattern? ('m' :: closing :: _) ≠ none
    rw [takePattern?, hw, Ne, Option.or_eq_none_iff]
    exact fun h => hafter _ h.2

/-- What is found to be a bare value stands between no delimiters. -/
theorem not_isDelimited_of_takeBare? (hp : takePattern? t = none)
    (h : takeBare? t = some (value, rest)) (body letters : Text) :
    ¬ IsDelimited value.text body letters := by
  obtain ⟨text, rfl, rfl, hbare, hr⟩ := of_takeBare? h
  intro hd
  change IsDelimited text body letters at hd
  cases hd with
  | @pattern opening _ _ closing hd hl =>
    have hn : '\n' ∉ body := fun hm => absurd (hbare '\n' (by simp [hm])) (by decide)
    simp only [List.append_assoc, List.cons_append] at hp
    exact takePattern?_ne_none hd hn hl hr hp
  | @quoted mark _ hm =>
    have hb := hbare mark (by simp)
    rw [isBareChar, hm] at hb
    simp at hb

/-! ## Both together -/

/-- A value is found to be the pattern that it is made of, or it is made of none. -/
theorem of_takeValue? (h : takeValue? t = some (value, rest)) :
    (∃ body letters, value.found? = some (body, letters) ∧ IsDelimited value.text body letters) ∨
      value.found? = none ∧ '\n' ∉ value.text ∧
        ∀ body letters, ¬ IsDelimited value.text body letters := by
  rcases Option.or_eq_some_iff.mp h with h | ⟨hp, h⟩
  · exact .inl (of_takePattern? h)
  rcases Option.or_eq_some_iff.mp h with h | ⟨-, h⟩
  · obtain ⟨mark, text, rfl, hm⟩ := of_takeQuoted? h
    exact .inl ⟨text, [], rfl, .quoted hm⟩
  · have hnot := not_isDelimited_of_takeBare? hp h
    obtain ⟨text, rfl, -, hbare, -⟩ := of_takeBare? h
    exact .inr ⟨rfl, fun hm => absurd (hbare '\n' hm) (by decide), hnot⟩

/-- **A value is taken apart into what it was found to be**: the same body and the same letters, or
nothing. -/
theorem splitPattern?_of_takeValue? (h : takeValue? t = some (value, rest)) :
    splitPattern? value.text = value.found? := by
  rcases of_takeValue? h with ⟨body, letters, hf, hd⟩ | ⟨hf, hn, hnot⟩
  · rw [hf, splitPattern?_of_isDelimited hd]
  · rw [hf, Option.eq_none_iff_forall_not_mem]
    exact fun found hs => hnot _ _ (isDelimited_of_splitPattern? hn hs)

/-- What a value was found to be makes it up. -/
theorem found?_eq_some_iff (h : takeValue? t = some (value, rest)) {body letters : Text} :
    value.found? = some (body, letters) ↔ IsDelimited value.text body letters := by
  refine ⟨fun hs => ?_, fun hd => ?_⟩
  · rcases of_takeValue? h with ⟨_, _, hf, hd⟩ | ⟨hf, -, -⟩
    · obtain ⟨rfl, rfl⟩ := Prod.mk.inj (Option.some.inj (hf.symm.trans hs))
      exact hd
    · rw [hf] at hs
      cases hs
  · rw [← splitPattern?_of_takeValue? h]
    exact splitPattern?_of_isDelimited hd

/-- The pattern that a clause asks for is what its value is made of. -/
theorem IsRead.of_pattern? {clause : WrittenClause} (h : clause.IsRead rest)
    {options : Pattern.Options} (hp : clause.value.pattern? = some (body, options)) :
    ∃ letters, IsDelimited clause.value.text body letters ∧ options = .named letters := by
  obtain ⟨t, ht, -⟩ := h.takesValue
  obtain ⟨⟨found, letters⟩, hs, he⟩ := Option.map_eq_some_iff.mp hp
  obtain ⟨rfl, rfl⟩ := Prod.mk.inj he
  rw [splitPattern?_of_takeValue? ht, found?_eq_some_iff ht] at hs
  exact ⟨letters, hs, AttachmentRule.optionsOfLetters_eq hs.isOptionLetter⟩

end WrittenClause

/-! ## Rules -/

/-- What stands in the source of a clause after its operator and the blanks that follow it. -/
def Clause.HasValue (clause : Clause) (value : Text) : Prop :=
  ∃ before after, (∀ c ∈ before, isBlank c = true) ∧ (∀ c ∈ after, isBlank c = true) ∧
    (∀ c ∈ value.head?, isBlank c = false) ∧
    clause.source =
      clause.target.key.toList ++ before ++ clause.operator.symbol ++ after ++ value

namespace AttachmentRule

/-- **Patterns are split as they were found**, by a strict reader or a lenient one. -/
structure SplitsAsFound (strict : Bool) (name definition : Text) : Prop where
  /-- The text of a value is taken apart into what was found in it. -/
  split : ∀ entry ∈ (Cut.ofText definition).clauses,
    splitPattern? entry.2.value.text = entry.2.value.found?
  /-- A clause that looks for a pattern has the body that its value is made of, compiled under the
  options that the letters of its value name. -/
  compiled : ∀ rule, (compile strict name definition).result = .ok rule →
    ∀ clause ∈ rule.clauses, clause.operator.takesPattern = true →
      ∃ value compiled letters, clause.HasValue value ∧ clause.operand = .pattern compiled ∧
        IsDelimited value compiled.body letters ∧
        CompiledPattern.ofText (.named letters) compiled.body = .ok compiled
  /-- Where a pattern is asked for and the value is made of none, nothing is compiled. The rule is
  found to be malformed, if no clause before fails for another reason. -/
  undelimited : ∀ entry ∈ (Cut.ofText definition).clauses,
    (Operator.ofSymbol [entry.2.operator.1, entry.2.operator.2]).takesPattern = true →
    (∀ body letters, ¬ IsDelimited entry.2.value.text body letters) →
    (∀ rule, (compile strict name definition).result ≠ .ok rule) ∧
      ((∃ error, (compile strict name definition).result = .error (.malformed error)) ↔
        ¬ Uncompilable name definition)

variable {rule : Text} {written : WrittenClause} {rest : Text}

theorem hasValue_of_compileClause {clause : Clause} (hr : written.IsRead rest)
    (h : compileClause rule written = .ok clause) : clause.HasValue written.value.text := by
  obtain ⟨target, operand, hk, -, rfl⟩ := compileClause_eq_ok h
  obtain ⟨t, ht, hhead⟩ := hr.takesValue
  refine ⟨written.before, written.after, hr.before_blank, hr.after_blank, fun c hc => ?_, ?_⟩
  · rw [takeValue?_append ht] at hhead
    cases hv : written.value.text with
    | nil => rw [hv] at hc; cases hc
    | cons d more => rw [hv] at hc hhead; exact hhead c hc
  · simp [WrittenClause.text, Target.key_of_ofKey? hk, Operator.symbol_ofSymbol]

/-- **A clause that looks for a pattern has the one that its value is made of.** -/
theorem pattern_of_compileClause {clause : Clause} (hr : written.IsRead rest)
    (h : compileClause rule written = .ok clause) (ht : clause.operator.takesPattern = true) :
    ∃ compiled letters, clause.operand = .pattern compiled ∧
      IsDelimited written.value.text compiled.body letters ∧
      CompiledPattern.ofText (.named letters) compiled.body = .ok compiled := by
  obtain ⟨target, operand, -, ho, rfl⟩ := compileClause_eq_ok h
  rw [compileOperand, if_pos ht] at ho
  obtain ⟨compiled, hc, rfl⟩ := map_eq_ok_iff.mp ho
  obtain ⟨body, options, hp, hcompiled⟩ := compilePattern_eq_ok_iff.mp hc
  obtain ⟨letters, hd, rfl⟩ := hr.of_pattern? hp
  have hbody := body_of_ofText hcompiled
  exact ⟨compiled, letters, rfl, hbody ▸ hd, hbody ▸ hcompiled⟩

/-- A clause that asks for a pattern and has none is refused. -/
theorem compileClause_undelimited (hr : written.IsRead rest)
    (ht : (Operator.ofSymbol [written.operator.1, written.operator.2]).takesPattern = true)
    (hn : ∀ body letters, ¬ IsDelimited written.value.text body letters) (clause : Clause) :
    compileClause rule written ≠ .ok clause := by
  intro h
  obtain ⟨target, operand, -, ho, rfl⟩ := compileClause_eq_ok h
  obtain ⟨compiled, letters, -, hd, -⟩ := pattern_of_compileClause hr h ht
  exact hn _ _ hd

/-- **The patterns of a rule are split as they were found**, whatever the definition and however
many delimiters there are in it. -/
theorem splitsAsFound (strict : Bool) (name definition : Text) :
    SplitsAsFound strict name definition := by
  refine ⟨fun entry hm => ?_, fun rule h clause hm ht => ?_, fun entry hm ht hn => ?_⟩
  · obtain ⟨rest, hr⟩ := Cut.isRead_of_mem_after entry hm
    obtain ⟨t, hv, -⟩ := hr.takesValue
    exact splitPattern?_of_takeValue? hv
  · obtain ⟨clauses, hc, -, -, rfl⟩ := compile_eq_ok_iff.mp h
    obtain ⟨written, hw, hclause⟩ := exists_of_mem_mapM hc ((lastClauses_sublist clauses).subset hm)
    obtain ⟨entry, he, rfl⟩ := List.mem_map.mp hw
    obtain ⟨rest, hr⟩ := Cut.isRead_of_mem_after entry he
    obtain ⟨compiled, letters, ho, hd, hcompiled⟩ := pattern_of_compileClause hr hclause ht
    exact ⟨_, compiled, letters, hasValue_of_compileClause hr hclause, ho, hd, hcompiled⟩
  · obtain ⟨rest, hr⟩ := Cut.isRead_of_mem_after entry hm
    have hnot : ∀ rule, (compile strict name definition).result ≠ .ok rule := by
      intro rule h
      obtain ⟨clauses, hc, -⟩ := compile_eq_ok_iff.mp h
      obtain ⟨clause, hclause⟩ := exists_mapM_eq_ok_iff.mp ⟨clauses, hc⟩ entry.2
        (List.mem_map_of_mem hm)
      exact compileClause_undelimited hr ht hn clause hclause
    refine ⟨hnot, ?_⟩
    rw [← compile_fault_iff strict]
    cases hr : (compile strict name definition).result with
    | ok rule => exact absurd hr (hnot rule)
    | error fault => cases fault <;> simp [RuleFault.isMalformed]

/-- A value that is no pattern, after a clause whose pattern asks for a number of repetitions that
does not fit: the definition is not found to be malformed. -/
theorem compile_of_hugeRepeat_undelimited :
    (compile false "R".toList "name =~ /a\x7b99999999999\x7d/ ext =~ abc".toList).result =
      .error (.pattern "a\x7b99999999999\x7d".toList .hugeRepeat) := by
  decide +kernel

end AttachmentRule
end MailScreen
