import MailScreen.Proofs.Header.OneParameter
import MailScreen.Proofs.Table

/-!
# Headers that are printed and read

A header is put down as a primary value and parameters. **Reading what is put down gives the
primary value back in lower case, and sends each name to the last value under it**
(`Header.parse_flatMap_text`), if no name has an asterisk and no value is changed by decoding
encoded words.
-/
namespace MailScreen.Header

open Ascii OutlookMessage

namespace WrittenParameter

variable {p : WrittenParameter} {ps : List WrittenParameter}

/-! ## Unfolding -/

theorem noBreak_text (hp : p.IsReadable) : NoBreak p.text := by
  have hv : NoBreak p.valueText := by
    unfold valueText
    split
    · exact ((noBreak_quoteChar hp.value).append (by decide)).cons (by decide) (by decide)
    · exact hp.value
  exact hp.separator.noBreak.append
    ((NoBreak.of_isToken hp.name).append (hv.cons (by decide) (by decide)))

/-- A parameter ends in no blank. -/
theorem getLast?_text (hp : p.IsReadable) : ∀ c ∈ p.text.getLast?, isBlank c = false := by
  have hv : ∀ c ∈ ('=' :: p.valueText).getLast?, isBlank c = false := by
    cases hq : p.quoted with
    | true =>
      have ht : '=' :: p.valueText = ('=' :: '"' :: p.value.flatMap quoteChar) ++ ['"'] := by
        simp [valueText, hq]
      intro c hc
      rw [ht, List.getLast?_concat] at hc
      obtain rfl := Option.some.inj hc
      decide
    | false =>
      intro c hc
      rcases List.mem_cons.mp (List.mem_of_getLast? hc) with rfl | hc
      · decide
      · have hb : isBareChar c = true := (hp.bare hq).1 c (by simpa [valueText, hq] using hc)
        simpa using (Bool.and_eq_true_iff.mp hb).2
  intro c hc
  rw [text, ← List.append_assoc, List.getLast?_append_of_ne_nil _ (List.cons_ne_nil _ _)] at hc
  exact hv c hc

/-- **A header that is put down is on one line and is not trimmed.** -/
theorem unfold_append_flatMap_text {primary : Text} (hn : primary ≠ [])
    (hb : ∀ c ∈ primary, isBlank c = false) (hp : ∀ p ∈ ps, p.IsReadable) :
    unfold (primary ++ ps.flatMap text) = primary ++ ps.flatMap text := by
  refine unfold_of_noBreak ((NoBreak.of_noBlank hb).append ?_)
    (Text.forall_head?_append hn hb)
    (Text.forall_getLast?_append (fun c hc => hb c (List.mem_of_getLast? hc)) ?_)
  · intro c hc
    obtain ⟨p, hm, hc⟩ := List.mem_flatMap.mp hc
    exact noBreak_text (hp p hm) c hc
  · induction ps with
    | nil => simp
    | cons p ps ih =>
      exact Text.forall_getLast?_append (getLast?_text (hp p (List.mem_cons_self ..)))
        (ih fun q hq => hp q (List.mem_cons_of_mem p hq))

/-- What comes after separators is no equals sign if a name comes next. -/
theorem head?_skipBlanks_separator {t name : Text} (ht : ∀ c ∈ t, isSpaceOrTab c = true ∨ c = ';')
    (hn : IsToken name) (s : Text) : (skipBlanks (t ++ (name ++ s))).head? ≠ some '=' := by
  induction t with
  | nil =>
    rw [List.nil_append, skipBlanks_token hn]
    intro h
    exact (head?_token hn s '=' h).2.2.2 rfl
  | cons c t ih =>
    rcases ht c (List.mem_cons_self ..) with hc | rfl
    · rw [List.cons_append, skipBlanks_cons hc]
      exact ih fun d hd => ht d (List.mem_cons_of_mem c hd)
    · rw [List.cons_append, skipBlanks_of_head (by simp; decide)]
      simp

/-- Separators and a name end the primary value before them. -/
theorem endsPrimary_separator {separator name : Text} (hs : IsSeparator separator)
    (hn : IsToken name) (s : Text) : EndsPrimary (separator ++ (name ++ s)) := by
  refine ⟨Text.forall_head?_append hs.ne_nil fun c hc => ?_,
    head?_skipBlanks_separator hs.chars hn _⟩
  rw [Bool.eq_false_iff]
  intro ht
  obtain ⟨hspace, -, hsemi, -⟩ := isTokenChar_marks ht
  rcases hs.chars c hc with h | h
  · rw [hspace] at h
    cases h
  · exact hsemi h

theorem endsPrimary_flatMap_text (hp : ∀ p ∈ ps, p.IsReadable) :
    EndsPrimary (ps.flatMap text) := by
  cases ps with
  | nil => exact ⟨by simp, by simp [skipBlanks, skipBlanksAt]⟩
  | cons p ps =>
    have hp := hp p (List.mem_cons_self ..)
    rw [List.flatMap_cons, text, List.append_assoc, List.append_assoc]
    exact endsPrimary_separator hp.separator hp.name _

/-! ## Reading -/

variable {settings : Settings} {params : Table Text}

theorem parameters_flatMap_text (hp : ∀ p ∈ ps, p.IsReadable)
    (hb : ∀ p ∈ ps, p.IsEmptyBare → ∀ q ∈ ps, q.separator.head? = some ';') :
    (parameters settings (ps.flatMap text)).result = (combine settings (ps.map pair)).result := by
  have hw : writtenPairs (ps.map fun p => .parameter (Text.lower p.name) p.value) =
      ps.map pair := by
    rw [writtenPairs, List.filterMap_map, ← List.filterMap_eq_map]
    rfl
  rw [parameters_result, items_flatMap_text hp hb, hw]

/-- A disposition with parameters that are put down has those that they make. -/
theorem parseDisposition_flatMap_text (hp : ∀ p ∈ ps, p.IsReadable)
    (hb : ∀ p ∈ ps, p.IsEmptyBare → ∀ q ∈ ps, q.separator.head? = some ';')
    (hc : (combine settings (ps.map pair)).result = .ok params) {primary : Text}
    (ht : IsToken primary) :
    (parseDisposition settings (primary ++ ps.flatMap text)).result =
      .ok ⟨Text.lower primary, params⟩ :=
  parseDisposition_of_unfold (unfold_append_flatMap_text ht.ne_nil (isBlank_of_isToken ht) hp) ht
    (endsPrimary_flatMap_text hp) ((parameters_flatMap_text hp hb).trans hc)

/-- A content type with parameters that are put down has those that they make. -/
theorem parseContentType_flatMap_text (hp : ∀ p ∈ ps, p.IsReadable)
    (hb : ∀ p ∈ ps, p.IsEmptyBare → ∀ q ∈ ps, q.separator.head? = some ';')
    (hc : (combine settings (ps.map pair)).result = .ok params) {kind subtype : Text}
    (hk : IsToken kind) (hs : IsToken subtype) :
    (parseContentType settings ((kind ++ '/' :: subtype) ++ ps.flatMap text)).result =
      .ok ⟨Text.lower (kind ++ '/' :: subtype), params⟩ := by
  have ht : ∀ c ∈ kind ++ '/' :: subtype, isBlank c = false :=
    List.forall_mem_append.mpr ⟨isBlank_of_isToken hk,
      List.forall_mem_cons.mpr ⟨by decide, isBlank_of_isToken hs⟩⟩
  exact parseContentType_of_unfold
    (unfold_append_flatMap_text (List.append_ne_nil_of_left_ne_nil hk.ne_nil _) ht hp) hk hs
    (endsPrimary_flatMap_text hp) ((parameters_flatMap_text hp hb).trans hc)

/-- Parameters that are put down come to a table after any primary value. -/
structure ComeTo (settings : Settings) (ps : List WrittenParameter) (params : Table Text) :
    Prop where
  /-- So it is in a disposition. -/
  disposition : ∀ primary, IsToken primary →
    (parseDisposition settings (primary ++ ps.flatMap text)).result =
      .ok ⟨Text.lower primary, params⟩
  /-- So it is in a content type. -/
  contentType : ∀ kind subtype, IsToken kind → IsToken subtype →
    (parseContentType settings ((kind ++ '/' :: subtype) ++ ps.flatMap text)).result =
      .ok ⟨Text.lower (kind ++ '/' :: subtype), params⟩

/-- **Parameters that are put down come to what they make.** -/
theorem comeTo_of_combine (hp : ∀ p ∈ ps, p.IsReadable)
    (hb : ∀ p ∈ ps, p.IsEmptyBare → ∀ q ∈ ps, q.separator.head? = some ';')
    (hc : (combine settings (ps.map pair)).result = .ok params) : ComeTo settings ps params where
  disposition _ ht := parseDisposition_flatMap_text hp hb hc ht
  contentType _ _ hk hs := parseContentType_flatMap_text hp hb hc hk hs

end WrittenParameter

/-- **A header that is put down on one line is read as what it says after its primary value**, and
nothing else is noted. -/
theorem parseDisposition_parameter {settings : Settings} {primary separator name rest : Text}
    (hp : IsToken primary) (hs : IsSeparator separator) (hn : IsToken name) (hb : NoBreak rest)
    (hl : ∀ c ∈ rest.getLast?, isBlank c = false) :
    parseDisposition settings (primary ++ (separator ++ (name ++ '=' :: rest))) =
      parameters settings (separator ++ (name ++ '=' :: rest)) >>= fun params =>
        pure ⟨Text.lower primary, params⟩ := by
  have hend : ∀ c ∈ ('=' :: rest).getLast?, isBlank c = false := by
    cases rest with
    | nil => exact fun c hc => Option.some.inj hc ▸ by decide
    | cons d left => rwa [List.getLast?_cons_cons]
  have hlast : ∀ c ∈ (primary ++ (separator ++ (name ++ '=' :: rest))).getLast?,
      isBlank c = false := by
    rw [← List.append_assoc, ← List.append_assoc,
      List.getLast?_append_of_ne_nil _ (List.cons_ne_nil _ _)]
    exact hend
  have hu : unfold (primary ++ (separator ++ (name ++ '=' :: rest))) =
      primary ++ (separator ++ (name ++ '=' :: rest)) :=
    unfold_of_noBreak ((NoBreak.of_isToken hp).append (hs.noBreak.append
      ((NoBreak.of_isToken hn).append (hb.cons (by decide) (by decide)))))
      (Text.forall_head?_append hp.ne_nil (isBlank_of_isToken hp)) hlast
  exact parseDisposition_eq (by rw [hu, skipBlanks_token hp]) hp
    (WrittenParameter.endsPrimary_separator hs hn _)

/-! ## Plain parameters -/

/-- Values without encoded words are not changed by decoding them. -/
theorem decodeValues_of_not_occursIn {values : Table Text}
    (h : ∀ entry ∈ values, EncodedWord.occursIn entry.2 = false) :
    (decodeValues values).result = .ok values := by
  rw [decodeValues, Noted.result_mapM, mapM_eq_ok_iff]
  refine List.forall₂_same.mpr fun entry hm => ?_
  simp only [h entry hm, Bool.false_eq_true, if_false]
  rfl

/-- Settings under which values are as they are put down: encoded words are not decoded, or there
are none. -/
def KeepsValues (settings : Settings) (values : List Text) : Prop :=
  settings.decodeEncodedWords = true → ∀ value ∈ values, EncodedWord.occursIn value = false

theorem lower_ne_nil {name : Text} (hn : IsToken name) : Text.lower name ≠ [] :=
  Text.lower_ne_nil hn.ne_nil

theorem star_notMem_lower {name : Text} (hn : IsToken name) (hs : '*' ∉ name) :
    '*' ∉ Text.lower name := by
  rw [lower_of_isAscii hn.ascii, List.mem_map]
  rintro ⟨c, hc, h⟩
  rw [lowerChar_eq_iff (hn.ascii c hc) (by decide)] at h
  exact hs (h ▸ hc)

/-- A plain parameter is written under its name, and nothing is noted. -/
theorem add_plain (forms : Forms) {name : Text} (hn : name ≠ []) (hs : '*' ∉ name) (value : Text) :
    forms.add name value = pure { forms with plain := forms.plain.insert name value } := by
  simp only [Forms.add, splitName?_plain hn hs]

instance (settings : Settings) (values : List Text) : Decidable (KeepsValues settings values) :=
  inferInstanceAs (Decidable (settings.decodeEncodedWords = true →
    ∀ value ∈ values, EncodedWord.occursIn value = false))

/-- Plain parameters are written one by one over those before them. -/
theorem foldlM_add_plain (forms : Forms) {written : List (Text × Text)}
    (h : ∀ entry ∈ written, entry.1 ≠ [] ∧ '*' ∉ entry.1) :
    written.foldlM (fun (forms : Forms) (name, value) => forms.add name value) forms =
      (pure { forms with plain := forms.plain.insertAll written } : Noted HeaderFault Forms) := by
  induction written generalizing forms with
  | nil => rfl
  | cons entry rest ih =>
    rw [List.forall_mem_cons] at h
    rw [List.foldlM_cons]
    exact Noted.bind_eq_pure_iff.mpr ⟨_, add_plain forms h.1.1 h.1.2 entry.2, ih _ h.2⟩

/-- Plain parameters are the table of their names and values. -/
theorem readForms_plain {written : List (Text × Text)}
    (h : ∀ entry ∈ written, entry.1 ≠ [] ∧ '*' ∉ entry.1) :
    readForms written = .ok { plain := .ofList written } :=
  congrArg Noted.result (foldlM_add_plain {} h)

/-- Parameters come to the values of their forms if no value is changed by decoding encoded
words. -/
theorem combine_of_values {settings : Settings} {written : List (Text × Text)} {forms : Forms}
    {values : Table Text} (hf : readForms written = .ok forms) (hv : forms.values = .ok values)
    (hk : KeepsValues settings (values.map (·.2))) :
    (combine settings written).result = .ok values := by
  rw [combine_result, hf]
  show (forms.values >>= _) = _
  rw [hv]
  show (if settings.decodeEncodedWords = true then decodeValues values else pure values :
    Noted HeaderFault (Table Text)).result = _
  split
  · rename_i hd
    exact decodeValues_of_not_occursIn fun entry hm => hk hd _ (List.mem_map_of_mem hm)
  · rfl

/-- **Plain parameters come to the table of their names and values.** -/
theorem combine_plain {settings : Settings} {written : List (Text × Text)}
    (h : ∀ entry ∈ written, entry.1 ≠ [] ∧ '*' ∉ entry.1)
    (hk : KeepsValues settings (written.map (·.2))) :
    (combine settings written).result = .ok (.ofList written) := by
  refine combine_of_values (readForms_plain h) rfl fun hd value hm => hk hd value ?_
  obtain ⟨entry, he, rfl⟩ := List.mem_map.mp hm
  exact List.mem_map_of_mem (Table.mem_of_mem_ofList he)

namespace WrittenParameter

/-- **What is printed is read back.** A header with parameters whose names have no asterisks has
its primary value in lower case, be it a token or two with a slash between them, and sends each
name in lower case to the last value under it. -/
theorem parse_flatMap_text {settings : Settings} {ps : List WrittenParameter}
    (hp : ∀ p ∈ ps, p.IsReadable) (hn : ∀ p ∈ ps, '*' ∉ p.name)
    (hb : ∀ p ∈ ps, p.quoted = false → p.value ≠ [])
    (hk : KeepsValues settings (ps.map (·.value))) :
    ∃ params : Table Text, params.IsLastOf (ps.map fun p => (Text.lower p.name, p.value)) ∧
      (∀ primary, IsToken primary →
        (parseDisposition settings (primary ++ ps.flatMap text)).result =
          .ok ⟨Text.lower primary, params⟩) ∧
      ∀ kind subtype, IsToken kind → IsToken subtype →
        (parseContentType settings (kind ++ '/' :: subtype ++ ps.flatMap text)).result =
          .ok ⟨Text.lower (kind ++ '/' :: subtype), params⟩ := by
  have hb' : ∀ p ∈ ps, p.IsEmptyBare → ∀ q ∈ ps, q.separator.head? = some ';' :=
    fun p hm he => absurd he.2 (hb p hm he.1)
  have hc : (combine settings (ps.map pair)).result = .ok (.ofList (ps.map pair)) := by
    refine combine_plain ?_ ?_
    · intro entry hm
      obtain ⟨p, hps, rfl⟩ := List.mem_map.mp hm
      exact ⟨lower_ne_nil (hp p hps).name, star_notMem_lower (hp p hps).name (hn p hps)⟩
    · rwa [List.map_map]
  exact ⟨.ofList (ps.map pair), Table.isLastOf_ofList _,
    fun primary ht => parseDisposition_flatMap_text hp hb' hc ht,
    fun kind subtype hk hs => parseContentType_flatMap_text hp hb' hc hk hs⟩

/-- **A quoted parameter is read as it was before it was quoted.** -/
theorem parseDisposition_quoted {settings : Settings} {primary name t : Text}
    (hp : IsToken primary) (hn : IsName name) (ht : NoBreak t) (hk : KeepsValues settings [t]) :
    (parseDisposition settings
        (primary ++ (WrittenParameter.mk "; ".toList name t true).text)).result =
      .ok ⟨Text.lower primary, [(name, t)]⟩ := by
  have hr : (WrittenParameter.mk "; ".toList name t true).IsReadable :=
    ⟨isSeparator_semicolon, hn.toIsToken, ht, fun h => by cases h⟩
  have hc : (combine settings [(Text.lower name, t)]).result = .ok [(Text.lower name, t)] := by
    rw [hn.lower]
    exact combine_plain (List.forall_mem_singleton.mpr ⟨hn.ne_nil, hn.plain⟩) hk
  have h := parseDisposition_flatMap_text (List.forall_mem_singleton.mpr hr)
    (List.forall_mem_singleton.mpr fun he => by cases he.1) hc hp
  rwa [List.flatMap_cons, List.flatMap_nil, List.append_nil, hn.lower] at h

/-- A quoted value that holds all that separates parameters, a bare one that holds an equals sign
and has a tab before it, and a name that comes twice. -/
theorem parse_flatMap_text_of_marks :
    ∃ params : Table Text,
      params.IsLastOf [("name".toList, "a\"b\\; c=(d)".toList), ("x".toList, "y=z".toList),
        ("name".toList, "".toList)] ∧
      (parseDisposition {} ("Inline ; Name=\"a\\\"b\\\\; c=(d)\"".toList ++
        "\t x=y=z;NAME=\"\"".toList)).result = .ok ⟨"inline".toList, params⟩ := by
  obtain ⟨params, hl, hd, -⟩ := @parse_flatMap_text {}
    [⟨" ; ".toList, "Name".toList, "a\"b\\; c=(d)".toList, true⟩,
      ⟨"\t ".toList, "x".toList, "y=z".toList, false⟩,
      ⟨";".toList, "NAME".toList, "".toList, true⟩]
    (by decide) (by decide) (by decide) (by decide +kernel)
  have hv : Text.lower "Inline".toList = "inline".toList := by decide +kernel
  have hn : Text.lower "Name".toList = "name".toList := by decide +kernel
  have hm : Text.lower "NAME".toList = "name".toList := by decide +kernel
  have hx : Text.lower "x".toList = "x".toList := by decide +kernel
  simp only [List.map_cons, List.map_nil, hn, hm, hx] at hl
  refine ⟨params, hl, ?_⟩
  rw [← hv]
  exact hd "Inline".toList (by decide)

end WrittenParameter
end MailScreen.Header
