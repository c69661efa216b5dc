import MailScreen.Proofs.Header.QuotedParameter

/-!
# Where bare values end

A value without quotation marks may have spaces and tabs in it. It ends at a semicolon, at a blank
of any other kind, and before a word that is the name of a parameter. A text without any of these is
taken whole (`Header.takeBare_eq_iff`); of any other text a part is taken and the rest is left
(`Header.takeBare_stops`).

So **a file name that is put down bare is read in full exactly if it has no blanks in it but spaces
and tabs** (`Header.parseDisposition_bare_iff`). At a blank of another kind, such as a no-break
space or a vertical tab, it is cut, and what comes after that is no parameter.
-/
namespace MailScreen.Header

open Ascii

variable {s t tail : Text}

/-! ## Texts that bare values take whole -/

/-- A text that a bare value takes whole: it holds no semicolon and no blanks but spaces and tabs,
no parameter starts after any of these, and no blank ends it. -/
structure IsRun (t : Text) : Prop where
  chars : ∀ c ∈ t, c ≠ ';' ∧ (isBlank c = true → isSpaceOrTab c = true)
  words : ∀ before c after, t = before ++ c :: after → isSpaceOrTab c = true →
    ¬ NamesParameter after
  last : ∀ c ∈ t.getLast?, isBlank c = false

theorem isBareChar_iff {c : Char} : isBareChar c = true ↔ c ≠ ';' ∧ isBlank c = false := by
  simp [isBareChar]

theorem isRun_nil : IsRun [] := ⟨by simp, by simp, by simp⟩

/-- A text is taken whole if its first character is taken and the rest is taken whole. -/
theorem isRun_cons_iff {c : Char} :
    IsRun (c :: t) ↔
      (isBareChar c = true ∨ isSpaceOrTab c = true ∧ t ≠ [] ∧ ¬ NamesParameter t) ∧ IsRun t := by
  constructor
  · intro h
    have hrest : IsRun t := by
      refine ⟨fun d hd => h.chars d (List.mem_cons_of_mem c hd), ?_, ?_⟩
      · rintro before d after rfl hd
        exact h.words (c :: before) d after rfl hd
      · intro d hd
        refine h.last d ?_
        obtain ⟨left, rfl⟩ := List.getLast?_eq_some_iff.mp hd
        rw [← List.cons_append, List.getLast?_concat]
        rfl
    refine ⟨?_, hrest⟩
    obtain ⟨hsemi, hspace⟩ := h.chars c (List.mem_cons_self ..)
    cases hb : isBlank c with
    | false => exact .inl (isBareChar_iff.mpr ⟨hsemi, hb⟩)
    | true =>
      refine .inr ⟨hspace hb, ?_, h.words [] c t rfl (hspace hb)⟩
      rintro rfl
      have hlast := h.last c rfl
      rw [hb] at hlast
      cases hlast
  · rintro ⟨hc, hrest⟩
    -- only the first character is new, so each field is that of the rest but for it
    refine ⟨List.forall_mem_cons.mpr ⟨?_, hrest.chars⟩, ?_, ?_⟩
    · rcases hc with hc | ⟨hc, -, -⟩
      · obtain ⟨h1, h2⟩ := isBareChar_iff.mp hc
        exact ⟨h1, fun h => by rw [h2] at h; cases h⟩
      · exact ⟨by rintro rfl; exact absurd hc (by decide), fun _ => hc⟩
    · intro before d after he hd
      cases before with
      | nil =>
        obtain ⟨rfl, rfl⟩ := List.cons.inj he
        rcases hc with hc | ⟨-, -, hn⟩
        · rw [isSpaceOrTab_of_isBareChar hc] at hd
          cases hd
        · exact hn
      | cons e before =>
        obtain ⟨rfl, rfl⟩ := List.cons.inj he
        exact hrest.words before d after rfl hd
    · intro d hd
      cases t with
      | nil =>
        obtain rfl := Option.some.inj hd
        rcases hc with hc | ⟨-, hne, -⟩
        · exact (isBareChar_iff.mp hc).2
        · exact absurd rfl hne
      | cons e rest => exact hrest.last d (by rwa [List.getLast?_cons_cons] at hd)

/-- After a space a bare value goes on if there is more of it and no parameter starts there. -/
theorem bareContinues_iff (hs : IsRun s) (ht : EndsItem tail) :
    bareContinues (s ++ tail) = true ↔ s ≠ [] ∧ ¬ NamesParameter s := by
  cases hd : dropSpaces s with
  | nil =>
    -- nothing but spaces, and none of them at the end
    have hnil : s = [] := by
      rw [← List.getLast?_eq_none_iff, Option.eq_none_iff_forall_ne_some]
      intro c hc
      have hspace := List.dropWhile_eq_nil_iff.mp hd c (List.mem_of_getLast? hc)
      have hlast := hs.last c hc
      rw [isBlank_of_isSpaceOrTab hspace] at hlast
      cases hlast
    subst hnil
    cases tail with
    | nil => simp [bareContinues, dropSpaces]
    | cons c rest =>
      obtain rfl := ht c rfl
      simp [bareContinues, dropSpaces, isSpaceOrTab, isBareChar]
  | cons c rest =>
    have hc : isBareChar c = true := by
      obtain ⟨hm, hspace⟩ := of_dropSpaces_cons hd
      obtain ⟨hsemi, hblank⟩ := hs.chars c hm
      refine isBareChar_iff.mpr ⟨hsemi, ?_⟩
      rw [Bool.eq_false_iff]
      intro hb
      rw [hblank hb] at hspace
      cases hspace
    have hname : startsParameter (c :: (rest ++ tail)) = true ↔ NamesParameter s := by
      rw [← dropSpaces_append hd, startsParameter_iff]
      exact ⟨.of_append ht, fun h => h.append tail⟩
    have hne : s ≠ [] := by
      rintro rfl
      cases hd
    rw [bareContinues, dropSpaces_append hd]
    simp only [hc, Bool.true_and, Bool.not_eq_true', hne, ne_eq, not_false_eq_true, true_and,
      ← hname, Bool.not_eq_true]

theorem takeBare_of_endsItem (ht : EndsItem tail) : takeBare tail = ([], tail) := by
  cases tail with
  | nil => rfl
  | cons c rest =>
    obtain rfl := ht c rfl
    rfl

/-- **What a bare value takes whole.** Before the end of an item it is all of a text exactly if the
text is a run. -/
theorem takeBare_eq_iff (ht : EndsItem tail) : takeBare (s ++ tail) = (s, tail) ↔ IsRun s := by
  induction s with
  | nil => exact ⟨fun _ => isRun_nil, fun _ => takeBare_of_endsItem ht⟩
  | cons c s ih =>
    rw [isRun_cons_iff, ← ih, List.cons_append, takeBare]
    constructor
    · intro h
      split at h
      · rename_i hc
        obtain ⟨htaken, hleft⟩ := Prod.mk.inj h
        have hs : takeBare (s ++ tail) = (s, tail) := Prod.ext (List.cons.inj htaken).2 hleft
        refine ⟨?_, hs⟩
        rcases Bool.or_eq_true_iff.mp hc with hc | hc
        · exact .inl hc
        · obtain ⟨hspace, hgo⟩ := Bool.and_eq_true_iff.mp hc
          exact .inr ⟨hspace, (bareContinues_iff (ih.mp hs) ht).mp hgo⟩
      · cases h
    · rintro ⟨hc, hs⟩
      rw [if_pos, hs]
      rcases hc with hc | ⟨hspace, hgo⟩
      · rw [hc, Bool.true_or]
      · rw [hspace, (bareContinues_iff (ih.mp hs) ht).mpr hgo]
        simp

instance (t : Text) : Decidable (IsRun t) :=
  decidable_of_iff (takeBare (t ++ []) = (t, [])) (takeBare_eq_iff endsItem_nil)

/-- Where a bare value ends there is a character of no word, and after a space no more words. -/
theorem takeBare_stops {c : Char} {rest : Text} (h : (takeBare s).2 = c :: rest) :
    isBareChar c = false ∧ (isSpaceOrTab c = true → bareContinues rest = false) := by
  fun_induction takeBare s with
  | case1 => cases h
  | case2 d s _ value left hv ih =>
    rw [hv] at ih
    exact ih h
  | case3 d s hd =>
    obtain ⟨rfl, rfl⟩ := List.cons.inj h
    rw [Bool.not_eq_true, Bool.or_eq_false_iff] at hd
    refine ⟨hd.1, fun hs => ?_⟩
    have hgo := hd.2
    rwa [hs, Bool.true_and] at hgo

/-- What comes after the end of an item makes no name of a text and takes none from it. -/
theorem startsParameter_append {c : Char} {rest : Text} (hd : dropSpaces s = c :: rest)
    (ht : EndsItem tail) : startsParameter (c :: (rest ++ tail)) = startsParameter (c :: rest) := by
  rw [Bool.eq_iff_iff, ← dropSpaces_append hd, ← hd, startsParameter_iff, startsParameter_iff]
  exact ⟨.of_append ht, fun h => h.append tail⟩

/-- What comes after the end of an item has no say in whether a bare value goes on. -/
theorem bareContinues_append (s : Text) (ht : EndsItem tail) :
    bareContinues (s ++ tail) = bareContinues s := by
  cases hd : dropSpaces s with
  | nil =>
    have hspaces : dropSpaces (s ++ tail) = dropSpaces tail :=
      List.dropWhile_append_of_pos (List.dropWhile_eq_nil_iff.mp hd)
    cases tail with
    | nil => rw [List.append_nil]
    | cons c rest =>
      obtain rfl := ht c rfl
      have hstop : dropSpaces (';' :: rest) = ';' :: rest := dropSpaces_of_head (by simp; decide)
      rw [bareContinues, bareContinues, hspaces, hstop, hd]
      rfl
  | cons c rest =>
    rw [bareContinues, bareContinues, dropSpaces_append hd, hd]
    dsimp only
    rw [startsParameter_append hd ht]

/-- **A bare value does not depend on what comes after the end of its item.** -/
theorem takeBare_append_of_endsItem (s : Text) (ht : EndsItem tail) :
    takeBare (s ++ tail) = ((takeBare s).1, (takeBare s).2 ++ tail) := by
  induction s with
  | nil => exact takeBare_of_endsItem ht
  | cons c s ih =>
    rw [List.cons_append, takeBare, takeBare, bareContinues_append s ht, ih]
    split
    · rfl
    · rfl

/-- Before the end of an item a bare value is the first part of a text. -/
theorem exists_takeBare (s : Text) (ht : EndsItem tail) :
    ∃ value left, s = value ++ left ∧ takeBare (s ++ tail) = (value, left ++ tail) :=
  ⟨_, _, (takeBare_append_left s).symm, takeBare_append_of_endsItem s ht⟩

/-- A value without a closing parenthesis has no comment at its end. -/
theorem dropTrailingComment_of_notMem (h : ')' ∉ t) : dropTrailingComment t = t := by
  unfold dropTrailingComment
  split
  · rename_i body hb
    have hm : ')' ∈ t := List.mem_reverse.mp (by rw [hb]; exact List.mem_cons_self ..)
    exact absurd hm h
  · rfl

/-! ## Decoding encoded words -/

theorem take?_of_notMem (h : '=' ∉ t) : EncodedWord.take? t = none := by
  unfold EncodedWord.take?
  split
  · exact absurd (List.mem_cons_self ..) h
  · rfl

/-- An encoded word starts with an equals sign. -/
theorem occursIn_of_notMem (h : '=' ∉ t) : EncodedWord.occursIn t = false := by
  have key (plain t : Text) (ht : '=' ∉ t) :
      ∃ piece, EncodedWord.piecesFrom plain t = [.plain piece] := by
    induction t generalizing plain with
    | nil => exact ⟨plain.reverse, by rw [EncodedWord.piecesFrom]⟩
    | cons c rest ih =>
      obtain ⟨piece, hp⟩ := ih (c :: plain) fun hm => ht (List.mem_cons_of_mem c hm)
      refine ⟨piece, ?_⟩
      rw [EncodedWord.piecesFrom]
      split
      · rename_i hw
        rw [take?_of_notMem ht] at hw
        cases hw
      · exact hp
  obtain ⟨piece, hp⟩ := key [] t h
  rw [EncodedWord.occursIn, EncodedWord.pieces, hp]
  rfl

/-- Each value of a table is decoded on its own if it holds an encoded word. -/
theorem find?_of_decodeValues {values decoded : Table Text} {name value text : Text}
    (hd : (decodeValues values).result = .ok decoded) (hf : values.find? name = some value)
    (ht : (if EncodedWord.occursIn value then EncodedWord.decodeAll value else pure value :
      Noted HeaderFault Text).result = .ok text) : decoded.find? name = some text := by
  rw [decodeValues, Noted.result_mapM, mapM_eq_ok_iff] at hd
  induction hd with
  | nil => cases hf
  | @cons entry entry' rest rest' he _ ih =>
    -- decoding leaves the name
    have hdecoded : entry'.1 = entry.1 ∧ (if EncodedWord.occursIn entry.2 then
        EncodedWord.decodeAll entry.2 else pure entry.2 : Noted HeaderFault Text).result =
          .ok entry'.2 := by
      dsimp only at he
      split at he
      · rename_i hw
        rw [Noted.result_bind] at he
        obtain ⟨found, hfound, he⟩ := bind_eq_ok_iff.mp he
        rw [if_pos hw, ← Except.ok.inj he]
        exact ⟨rfl, hfound⟩
      · rename_i hw
        rw [if_neg hw, ← Except.ok.inj he]
        exact ⟨rfl, rfl⟩
    rw [Table.find?, List.find?_cons, hdecoded.1]
    rw [Table.find?, List.find?_cons] at hf
    cases hn : entry.1 == name with
    | false =>
      rw [hn] at hf
      exact ih hf
    | true =>
      rw [hn] at hf
      obtain rfl : entry.2 = value := Option.some.inj hf
      exact congrArg some (Except.ok.inj (hdecoded.2.symm.trans ht))

/-- A value without encoded words is what it was when all values of a table have been decoded. -/
theorem find?_decodeValues {values decoded : Table Text} {name value : Text}
    (hd : (decodeValues values).result = .ok decoded) (hf : values.find? name = some value)
    (hv : EncodedWord.occursIn value = false) : decoded.find? name = some value :=
  find?_of_decodeValues hd hf (by rw [hv]; rfl)

/-- Plain parameters come to their table, of which the values are decoded if this is asked for. -/
theorem combine_result_of_plain (settings : Settings) {written : List (Text × Text)}
    (h : ∀ entry ∈ written, entry.1 ≠ [] ∧ '*' ∉ entry.1) :
    (combine settings written).result = (if settings.decodeEncodedWords then
      decodeValues (.ofList written) else pure (.ofList written)).result := by
  rw [combine_result, readForms_plain h]
  rfl

/-- Plain parameters are always read, and a value that holds no encoded word is found under its name
if there is no other value under it. -/
theorem exists_combine_plain (settings : Settings) {written : List (Text × Text)}
    (h : ∀ entry ∈ written, entry.1 ≠ [] ∧ '*' ∉ entry.1) :
    ∃ params, (combine settings written).result = .ok params ∧
      ∀ entry ∈ written, (∀ other ∈ written, other.1 = entry.1 → other.2 = entry.2) →
        EncodedWord.occursIn entry.2 = false → params.find? entry.1 = some entry.2 := by
  obtain ⟨params, hparams⟩ := decodeIfAsked_result settings (.ofList written)
  refine ⟨params, (combine_result_of_plain settings h).trans hparams, ?_⟩
  intro entry hm hu hw
  have hf := Table.find?_ofList_of_mem hm hu
  split at hparams
  · exact find?_decodeValues hparams hf hw
  · exact Except.ok.inj hparams ▸ hf

/-! ## File names -/

/-- A value that is put down without quotation marks: it has no blanks at its ends, none of the
marks of a header in it, and does not look like a quotation. -/
structure IsBareValue (t : Text) : Prop where
  ne_nil : t ≠ []
  trimmed : Text.trim t = t
  chars : ∀ c ∈ t, c ∉ [';', '=', '(', ')', '\r', '\n']
  noQuotation : t.head? ≠ some '"'

instance (t : Text) : Decidable (IsBareValue t) :=
  decidable_of_iff (t ≠ [] ∧ Text.trim t = t ∧
      (∀ c ∈ t, c ∉ [';', '=', '(', ')', '\r', '\n']) ∧ t.head? ≠ some '"')
    ⟨fun h => ⟨h.1, h.2.1, h.2.2.1, h.2.2.2⟩,
      fun h => ⟨h.ne_nil, h.trimmed, h.chars, h.noQuotation⟩⟩

namespace IsBareValue

variable {value : Text}

theorem notMem (hv : IsBareValue value) {c : Char}
    (hc : c ∈ [';', '=', '(', ')', '\r', '\n']) : c ∉ value := fun hm => hv.chars c hm hc

theorem noBreak (hv : IsBareValue value) : NoBreak value := fun c hc =>
  ⟨fun h => hv.chars c hc (by simp [h]), fun h => hv.chars c hc (by simp [h])⟩

/-- Only blanks can end such a value early. -/
theorem isRun_iff (hv : IsBareValue value) :
    IsRun value ↔ ∀ c ∈ value, isBlank c = true → isSpaceOrTab c = true := by
  constructor
  · intro h c hc
    exact (h.chars c hc).2
  · intro h
    refine ⟨fun c hc => ⟨?_, h c hc⟩, ?_, (Text.ends_of_trim hv.trimmed).2⟩
    · rintro rfl
      exact hv.notMem (by decide) hc
    · rintro before c after rfl -
      exact not_namesParameter fun hm => hv.notMem (c := '=') (by decide) (by simp [hm])

/-- Such a value is read as the part that a bare value takes of it. The part that is left is no
parameter. -/
theorem writtenPairs_eq (hv : IsBareValue value) {separator name : Text}
    (hs : IsSeparator separator) (hn : IsToken name) (ht : EndsItem tail) :
    ∃ taken left, value = taken ++ left ∧
      takeBare (value ++ tail) = (taken, left ++ tail) ∧
      writtenPairs (items (separator ++ (name ++ '=' :: (value ++ tail)))) =
        (Text.lower name, taken) :: writtenPairs (items tail) := by
  have hstart : ∀ c ∈ (value ++ tail).head?, isBareChar c = true ∧ c ≠ '"' ∧ c ≠ '(' := by
    intro c hc
    rw [List.head?_append_of_ne_nil _ hv.ne_nil] at hc
    have hm := List.mem_of_head? hc
    refine ⟨isBareChar_iff.mpr ⟨?_, (Text.ends_of_trim hv.trimmed).1 c hc⟩, ?_, ?_⟩
    · rintro rfl; exact hv.notMem (by decide) hm
    · rintro rfl; exact hv.noQuotation hc
    · rintro rfl; exact hv.notMem (by decide) hm
  have hspaces : dropSpaces (value ++ tail) = value ++ tail :=
    dropSpaces_of_head fun c hc => isSpaceOrTab_of_isBareChar (hstart c hc).1
  obtain ⟨taken, left, rfl, htake⟩ := exists_takeBare value ht
  have hcomment : dropTrailingComment taken = taken :=
    dropTrailingComment_of_notMem fun hm => hv.notMem (c := ')') (by decide) (by simp [hm])
  have hvalue : takeValue (Text.lower name) (dropSpaces (taken ++ left ++ tail)) =
      (.parameter (Text.lower name) taken, some (left ++ tail)) := by
    rw [hspaces, takeValue_word _ (List.append_ne_nil_of_left_ne_nil hv.ne_nil _) hstart, htake]
    simp only [hcomment]
  have hpassed : IsPassedOver left := by
    refine ⟨fun hm => hv.notMem (c := ';') (by decide) (by simp [hm]), ?_,
      not_namesParameter fun hm => hv.notMem (c := '=') (by decide) (by simp [hm])⟩
    intro hc
    obtain ⟨rest, hd⟩ := List.head?_eq_some_iff.mp hc
    exact hv.notMem (c := '(') (by decide) (by simp [(of_dropSpaces_cons hd).1])
  refine ⟨taken, left, rfl, htake, ?_⟩
  rw [items_of_parameter hs hn hvalue, ← writtenPairs_passedOver hpassed ht]
  rfl

/-- A header with such a value as its file name sends the name to the part of it that a bare value
takes. -/
theorem exists_parseDisposition (hv : IsBareValue value) {settings : Settings}
    {ps : List QuotedParameter} (hp : ∀ p ∈ ps, p.IsProper)
    (hn : ∀ p ∈ ps, Text.lower p.name ≠ "filename".toList) (ht : EndsItem (ps.flatMap (·.text))) :
    ∃ taken left params, value = taken ++ left ∧
      takeBare (value ++ ps.flatMap (·.text)) = (taken, left ++ ps.flatMap (·.text)) ∧
      (parseDisposition settings
          ("attachment; filename=".toList ++ (value ++ ps.flatMap (·.text)))).result =
        .ok ⟨"attachment".toList, params⟩ ∧
      params.find? "filename".toList = some taken := by
  have hfilename : Text.lower "filename".toList = "filename".toList := by decide +kernel
  have hattachment : Text.lower "attachment".toList = "attachment".toList := by decide +kernel
  have hprimary : IsToken "attachment".toList := by decide
  have htoken : IsToken "filename".toList := by decide
  obtain ⟨taken, left, hsplit, htake, hpairs⟩ := hv.writtenPairs_eq isSeparator_semicolon htoken ht
  rw [QuotedParameter.writtenPairs_flatMap_text hp, hfilename] at hpairs
  have hplain : ∀ entry ∈ ("filename".toList, taken) :: ps.map (·.pair),
      entry.1 ≠ [] ∧ '*' ∉ entry.1 :=
    List.forall_mem_cons.mpr ⟨by simp, QuotedParameter.plain_of_mem_map_pair hp⟩
  obtain ⟨params, hcombine, hfound⟩ := exists_combine_plain settings hplain
  refine ⟨taken, left, params, hsplit, htake, ?_, ?_⟩
  · have hbreak : NoBreak (value ++ ps.flatMap (·.text)) :=
      hv.noBreak.append (QuotedParameter.noBreak_flatMap_text hp)
    have hlast := Text.forall_getLast?_append (Text.ends_of_trim hv.trimmed).2
      (QuotedParameter.getLast?_flatMap_text ps)
    rw [← hattachment]
    refine (congrArg Noted.result
      (parseDisposition_parameter hprimary isSeparator_semicolon htoken hbreak hlast)).trans ?_
    rw [Noted.result_bind, parameters_result, hpairs, hcombine]
    rfl
  · -- no other parameter has the name, and decoding does not touch the value
    have hword : '=' ∉ taken := fun hm =>
      hv.notMem (c := '=') (by decide) (by rw [hsplit]; exact List.mem_append_left _ hm)
    refine hfound _ (List.mem_cons_self ..) ?_ (occursIn_of_notMem hword)
    intro other hm hname
    rcases List.mem_cons.mp hm with rfl | hm
    · rfl
    · obtain ⟨p, hps, rfl⟩ := List.mem_map.mp hm
      exact absurd hname (hn p hps)

end IsBareValue

/-- **Where file names are cut.** A file name that is put down bare, with any parameters in
quotation marks after it, is read in full exactly if it has no blanks in it but spaces and tabs. -/
theorem parseDisposition_bare_iff {settings : Settings} {value : Text} {ps : List QuotedParameter}
    (hv : IsBareValue value) (hp : ∀ p ∈ ps, p.IsProper)
    (hn : ∀ p ∈ ps, Text.lower p.name ≠ "filename".toList) (ht : EndsItem (ps.flatMap (·.text))) :
    (∃ params,
      (parseDisposition settings
          ("attachment; filename=".toList ++ (value ++ ps.flatMap (·.text)))).result =
        .ok ⟨"attachment".toList, params⟩ ∧
      params.find? "filename".toList = some value) ↔
      ∀ c ∈ value, isBlank c = true → isSpaceOrTab c = true := by
  obtain ⟨taken, left, params, hsplit, htake, hread, hfile⟩ := hv.exists_parseDisposition hp hn ht
  rw [← hv.isRun_iff, ← takeBare_eq_iff ht, htake]
  constructor
  · rintro ⟨other, hother, hall⟩
    rw [hread] at hother
    obtain rfl := (StructuredHeader.mk.inj (Except.ok.inj hother)).2
    rw [hfile] at hall
    obtain rfl := Option.some.inj hall
    rw [List.self_eq_append_right.mp hsplit, List.nil_append]
  · intro h
    exact ⟨params, hread, hfile.trans (congrArg some (Prod.mk.inj h).1)⟩

/-- A file name with a tab, quotation marks and backslashes in it, and a parameter after it that
needs its quotation marks. -/
theorem parseDisposition_bare_iff_of_spaces :
    ∃ params,
      (parseDisposition {} ("attachment; filename=".toList ++ ("Q1 \t\"a\\b\" @é.pdf".toList ++
          "; Name=\"\\x;\\\"y\"".toList))).result = .ok ⟨"attachment".toList, params⟩ ∧
        params.find? "filename".toList = some "Q1 \t\"a\\b\" @é.pdf".toList := by
  have hn : Text.lower "Name".toList ≠ "filename".toList := by decide +kernel
  have hq : Quotes "\\x;\\\"y".toList "x;\"y".toList :=
    .escaped (.plain (by decide) (.escaped (.plain (by decide) .nil)))
  have ht : [QuotedParameter.mk "; ".toList "Name".toList "\\x;\\\"y".toList
      "x;\"y".toList].flatMap (·.text) = "; Name=\"\\x;\\\"y\"".toList := by decide
  have h := @parseDisposition_bare_iff {} "Q1 \t\"a\\b\" @é.pdf".toList
    [⟨"; ".toList, "Name".toList, "\\x;\\\"y".toList, "x;\"y".toList⟩] (by decide)
    (List.forall_mem_singleton.mpr ⟨by decide, by decide, by decide, hq, by decide⟩)
    (List.forall_mem_singleton.mpr hn) (by rw [ht]; exact fun c hc => Option.some.inj hc ▸ rfl)
  rw [ht] at h
  exact h.mpr (by decide)

/-- A no-break space cuts a file name, and its extension is lost. -/
theorem parseDisposition_bare_of_noBreakSpace :
    IsBareValue "a\u00a0b.txt".toList ∧
      (parseDisposition { decodeEncodedWords := false }
        ("attachment; filename=".toList ++ "a\u00a0b.txt".toList)).result =
          .ok ⟨"attachment".toList, [("filename".toList, "a".toList)]⟩ := by
  decide +kernel

end MailScreen.Header
