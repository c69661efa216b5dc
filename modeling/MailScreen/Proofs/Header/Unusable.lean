import MailScreen.Proofs.Charset.Refusal
import MailScreen.Proofs.Header.Primary

/-!
# Headers whose parameters cannot be used

Reading a structured header fails in one of two ways. Either it is malformed, which is what readers
of headers expect; or it asks for something that cannot be used at all. This module says in terms of
the header when the second happens. A charset cannot be used if its name holds a NUL or if it is
known but refuses what it is to read or write, and the number of a section cannot if it has too many
digits. As reading stops at the first thing that is wrong, only what is reached counts.

The results are `parseContentType_fault_iff` and `parseDisposition_fault_iff`. In particular nothing
that encoded words hold makes a header unusable, and neither do the settings.
-/
namespace MailScreen.Header

/-- Whether a fault is that of a malformed header. -/
def HeaderFault.isMalformed : HeaderFault → Bool
  | malformed _ => true
  | _ => false

/-- A failure that readers of headers do not expect. -/
def FailsUnexpectedly {α : Type} (x : Except HeaderFault α) : Prop :=
  ∃ fault, x = .error fault ∧ fault.isMalformed = false

/-! ## Charsets and numbers -/

/-- A charset is stated that cannot be used: its name holds a NUL, or it is known, with the label
that messages show, and refuses. -/
def StatesUnusable (stated : Option Text) (refuses : Text → Charset → Prop) : Prop :=
  ∃ name, stated = some name ∧
    ('\x00' ∈ name ∨
      ∃ entry, findCharset? name = some entry ∧ refuses entry.label.toList entry.charset)

/-- An extended value whose charset cannot be used for it. -/
def UnusableExtended (value : Text) : Prop :=
  StatesUnusable (splitCharset value).1 fun _ charset =>
    charset.Refuses (Percent.decode (splitCharset value).2)

/-- A parameter that cannot be used as written: an extended one with such a value, or a section
whose number has too many digits. -/
def UnusableParameter (name value : Text) : Prop :=
  match splitName? name with
  | some (_, .extended) => UnusableExtended value
  | some (_, .numbered digits _) => maxIntegerDigits < digits.length
  | _ => False

/-- Sections in order. -/
def inOrder (sections : List Section) : List Section :=
  sections.mergeSort fun a b => a.index ≤ b.index

/-- Sections of one parameter that cannot be used: they are complete, one of them is extended, and
the charset of section 0 cannot write a section that is not, or cannot read the octets of all. -/
def UnusableSections (sections : List Section) : Prop :=
  (inOrder sections).map (·.index) = List.range (inOrder sections).length ∧
  (∃ s ∈ inOrder sections, s.extended = true) ∧
  let (stated, rest) := firstCharset (inOrder sections)
  StatesUnusable stated fun label charset =>
    charset.isNominal = true ∧ (∃ s ∈ rest, s.extended = false) ∨
      ∃ chunks, rest.mapM (Section.octets label charset) = .ok chunks ∧
        charset.Refuses chunks.flatten

/-- What the parameters of a header come to before those in sections are joined. -/
def readForms (written : List (Text × Text)) : Except HeaderFault Forms :=
  (written.foldlM (fun (forms : Forms) (name, value) => forms.add name value)
    {} : Noted HeaderFault Forms).result

/-- Parameters as written of which one that is reached cannot be used. -/
def UnusableParameters (written : List (Text × Text)) : Prop :=
  (∃ before name value after forms, written = before ++ (name, value) :: after ∧
    readForms before = .ok forms ∧ UnusableParameter name value) ∨
  ∃ forms, readForms written = .ok forms ∧
    ∃ before name sections after, forms.sections = before ++ (name, sections) :: after ∧
      (∀ entry ∈ before, ∃ text, joinSections entry.1 entry.2 = .ok text) ∧
      UnusableSections sections

/-! ## When a value cannot be decoded -/

theorem not_failsUnexpectedly_ok {α : Type} (a : α) :
    ¬ FailsUnexpectedly (.ok a : Except HeaderFault α) := by
  rintro ⟨fault, h, -⟩
  cases h

theorem not_failsUnexpectedly_malformed {α : Type} (error : HeaderError) :
    ¬ FailsUnexpectedly (.error (.malformed error) : Except HeaderFault α) := by
  rintro ⟨fault, h, hm⟩
  obtain rfl := Except.error.inj h
  cases hm

/-- Two steps fail unexpectedly as the first does, or as the second does after it. -/
theorem failsUnexpectedly_bind {α β : Type} {x : Except HeaderFault α}
    {f : α → Except HeaderFault β} :
    FailsUnexpectedly (x >>= f) ↔
      FailsUnexpectedly x ∨ ∃ a, x = .ok a ∧ FailsUnexpectedly (f a) := by
  constructor
  · rintro ⟨fault, h, hm⟩
    rcases bind_eq_error_iff.mp h with h | ⟨a, ha, h⟩
    · exact .inl ⟨fault, h, hm⟩
    · exact .inr ⟨a, ha, fault, h, hm⟩
  · rintro (⟨fault, h, hm⟩ | ⟨a, ha, fault, h, hm⟩)
    · exact ⟨fault, bind_eq_error_iff.mpr (.inl h), hm⟩
    · exact ⟨fault, bind_eq_error_iff.mpr (.inr ⟨a, ha, h⟩), hm⟩

/-- A second step that does not fail leaves it to the first. -/
theorem failsUnexpectedly_bind_of_ok {α β : Type} {x : Except HeaderFault α}
    {f : α → Except HeaderFault β} (h : ∀ a, ∃ b, f a = .ok b) :
    FailsUnexpectedly (x >>= f) ↔ FailsUnexpectedly x := by
  rw [failsUnexpectedly_bind, or_iff_left]
  rintro ⟨a, -, ha⟩
  obtain ⟨b, hb⟩ := h a
  exact absurd (hb ▸ ha) (not_failsUnexpectedly_ok b)

/-- A failure of a charset is not expected. -/
theorem failsUnexpectedly_mapError {α : Type} {x : Except CharsetFault α} :
    FailsUnexpectedly (x.mapError .charset) ↔ ∃ fault, x = .error fault := by
  cases x with
  | ok a => exact ⟨fun h => absurd h (not_failsUnexpectedly_ok a), fun ⟨_, h⟩ => nomatch h⟩
  | error fault => exact ⟨fun _ => ⟨fault, rfl⟩, fun _ => ⟨_, rfl, rfl⟩⟩

/-- What is done with a charset that is stated fails unexpectedly exactly if the charset cannot be
used. Latin 1, which is taken if none is stated, always can. -/
theorem failsUnexpectedly_charsetOf {α : Type} {stated : Option Text}
    {f : Text × Charset → Except HeaderFault α} {refuses : Text → Charset → Prop}
    (hf : ∀ label charset, FailsUnexpectedly (f (label, charset)) ↔ refuses label charset)
    (hl : ¬ refuses "latin-1".toList .latin1) :
    FailsUnexpectedly (charsetOf stated >>= f) ↔ StatesUnusable stated refuses := by
  cases stated with
  | none =>
    show FailsUnexpectedly (f _) ↔ _
    rw [hf]
    exact ⟨fun h => absurd h hl, fun ⟨_, h, _⟩ => nomatch h⟩
  | some name =>
    by_cases hn : '\x00' ∈ name
    · have hc : charsetOf (some name) = .error (.charset .nulInName) := by simp [charsetOf, hn]
      rw [hc]
      exact ⟨fun _ => ⟨name, rfl, .inl hn⟩, fun _ => ⟨_, rfl, rfl⟩⟩
    · cases he : findCharset? name with
      | none =>
        have hc : charsetOf (some name) = .error (.malformed (.unknownCharset name)) := by
          simp [charsetOf, hn, he]
        rw [hc]
        constructor
        · intro h
          exact absurd h (not_failsUnexpectedly_malformed _)
        · rintro ⟨other, h, hs⟩
          obtain rfl := Option.some.inj h
          rcases hs with hs | ⟨entry, hs, -⟩
          · exact absurd hs hn
          · rw [he] at hs
            cases hs
      | some entry =>
        have hc : charsetOf (some name) = .ok (entry.label.toList, entry.charset) := by
          simp [charsetOf, hn, he]
        rw [hc]
        show FailsUnexpectedly (f _) ↔ _
        rw [hf]
        constructor
        · intro h
          exact ⟨name, rfl, .inr ⟨entry, he, h⟩⟩
        · rintro ⟨other, h, hs⟩
          obtain rfl := Option.some.inj h
          rcases hs with hs | ⟨entry', hs, h⟩
          · exact absurd hs hn
          · rw [he] at hs
            obtain rfl := Option.some.inj hs
            exact h

theorem latin1_reads (bytes : Octets) : ¬ Charset.latin1.Refuses bytes := by
  simp [Charset.Refuses, Charset.isNominal]

theorem decodeExtended_fault_iff (value : Text) :
    FailsUnexpectedly (decodeExtended value) ↔ UnusableExtended value := by
  refine failsUnexpectedly_charsetOf (f := fun found =>
    (found.2.decode found.1 (Percent.decode (splitCharset value).2)).mapError .charset) ?_
    (latin1_reads _)
  intro label charset
  rw [failsUnexpectedly_mapError, Charset.decode_eq_error_iff]

/-- Adding a parameter fails unexpectedly by what the parameter is, whatever has been read before
it. -/
theorem add_fault_iff (forms : Forms) (name value : Text) :
    FailsUnexpectedly (forms.add name value).result ↔ UnusableParameter name value := by
  unfold Forms.add UnusableParameter
  cases splitName? name with
  | none => exact iff_of_false (not_failsUnexpectedly_ok _) not_false
  | some found =>
    obtain ⟨base, form⟩ := found
    cases form with
    | plain => exact iff_of_false (not_failsUnexpectedly_ok _) not_false
    | extended =>
      rw [Noted.result_bind]
      exact (failsUnexpectedly_bind_of_ok fun _ => ⟨_, rfl⟩).trans (decodeExtended_fault_iff value)
    | numbered digits extended =>
      by_cases hd : maxIntegerDigits < digits.length
      · have hv : digitsValue? digits = .error (.tooLong digits.length) := by
          simp [digitsValue?, hd]
        simp only [Noted.result_bind, Noted.result_ofExcept, hv]
        exact iff_of_true ⟨_, rfl, rfl⟩ hd
      · obtain ⟨n, hv⟩ : ∃ n, digitsValue? digits = .ok n := by
          simp [digitsValue?, hd]
        simp only [Noted.result_bind, Noted.result_ofExcept, hv]
        refine iff_of_false ?_ hd
        show ¬ FailsUnexpectedly (Noted.result (if _ then _ else _))
        split
        · exact not_failsUnexpectedly_malformed _
        · exact not_failsUnexpectedly_ok _

/-! ## When sections cannot be joined -/

/-- Sections are written in a charset as the charset writes those that are not extended. -/
theorem octets_fault_iff (label : Text) (charset : Charset) (s : Section) :
    FailsUnexpectedly (s.octets label charset) ↔
      charset.isNominal = true ∧ s.extended = false := by
  unfold Section.octets
  cases s.extended with
  | true => exact iff_of_false (not_failsUnexpectedly_ok _) (by simp)
  | false =>
    rw [if_neg (by simp), failsUnexpectedly_mapError, Charset.encode_eq_error_iff]
    simp

/-- The first section that fails is the one that counts, and a charset by name only fails on each
that is not extended. -/
theorem mapM_octets_fault_iff (label : Text) (charset : Charset) (sections : List Section) :
    FailsUnexpectedly (sections.mapM (Section.octets label charset)) ↔
      charset.isNominal = true ∧ ∃ s ∈ sections, s.extended = false := by
  constructor
  · rintro ⟨fault, h, hm⟩
    obtain ⟨before, s, after, rfl, -, hs⟩ := mapM_eq_error_iff.mp h
    obtain ⟨hn, he⟩ := (octets_fault_iff label charset s).mp ⟨fault, hs, hm⟩
    exact ⟨hn, s, by simp, he⟩
  · rintro ⟨hn, s, hs, he⟩
    cases h : sections.mapM (Section.octets label charset) with
    | ok chunks =>
      obtain ⟨bytes, hb⟩ := exists_mapM_eq_ok_iff.mp ⟨chunks, h⟩ s hs
      obtain ⟨fault, hf, -⟩ := (octets_fault_iff label charset s).mpr ⟨hn, he⟩
      rw [hb] at hf
      cases hf
    | error fault =>
      -- the section that fails first need not be `s`, but all of them fail by the charset
      obtain ⟨before, other, after, rfl, -, ho⟩ := mapM_eq_error_iff.mp h
      refine ⟨fault, rfl, ?_⟩
      unfold Section.octets at ho
      split at ho
      · cases ho
      · obtain ⟨cause, -, rfl⟩ := mapError_eq_error_iff.mp ho
        rfl

/-- The text of sections in a stated charset. -/
def decodeSections (stated : Option Text) (sections : List Section) : Except HeaderFault Text :=
  charsetOf stated >>= fun (label, charset) =>
    sections.mapM (Section.octets label charset) >>= fun chunks =>
      (charset.decode label chunks.flatten).mapError .charset

theorem joinSections_eq (name : Text) (sections : List Section) :
    joinSections name sections =
      if (inOrder sections).map (·.index) ≠ List.range (inOrder sections).length then
        .error (.malformed (.brokenContinuation name ((inOrder sections).map (·.index))))
      else if (inOrder sections).all fun s => !s.extended then
        .ok ((inOrder sections).flatMap (·.value))
      else
        decodeSections (firstCharset (inOrder sections)).1 (firstCharset (inOrder sections)).2 := by
  unfold joinSections
  simp only [List.length_map]
  rfl

/-- Sections in a stated charset fail unexpectedly as they are written, or as they are read. -/
theorem decodeSections_fault_iff (stated : Option Text) (sections : List Section) :
    FailsUnexpectedly (decodeSections stated sections) ↔
      StatesUnusable stated fun label charset =>
        charset.isNominal = true ∧ (∃ s ∈ sections, s.extended = false) ∨
          ∃ chunks, sections.mapM (Section.octets label charset) = .ok chunks ∧
            charset.Refuses chunks.flatten := by
  refine failsUnexpectedly_charsetOf ?_ ?_
  · intro label charset
    show FailsUnexpectedly (sections.mapM (Section.octets label charset) >>= _) ↔ _
    rw [failsUnexpectedly_bind, mapM_octets_fault_iff]
    simp only [failsUnexpectedly_mapError, Charset.decode_eq_error_iff]
  · rintro (⟨h, -⟩ | ⟨chunks, -, h⟩)
    · cases h
    · exact latin1_reads _ h

/-- **Joining the sections of a parameter fails unexpectedly exactly if they cannot be used.** -/
theorem joinSections_fault_iff (name : Text) (sections : List Section) :
    FailsUnexpectedly (joinSections name sections) ↔ UnusableSections sections := by
  rw [joinSections_eq, UnusableSections]
  by_cases hi : (inOrder sections).map (·.index) = List.range (inOrder sections).length
  · rw [if_neg (not_not_intro hi), and_iff_right hi]
    by_cases he : ∃ s ∈ inOrder sections, s.extended = true
    · rw [if_neg (by simpa using he), and_iff_right he]
      exact decodeSections_fault_iff ..
    · rw [if_pos (by simpa using he)]
      exact iff_of_false (not_failsUnexpectedly_ok _) fun h => he h.1
  · rw [if_pos hi]
    exact iff_of_false (not_failsUnexpectedly_malformed _) fun h => hi h.1

/-! ## When the parameters of a header cannot be read -/

/-- Parameters are read up to the first that fails. -/
theorem readForms_fault_iff (written : List (Text × Text)) :
    FailsUnexpectedly (readForms written) ↔
      ∃ before name value after forms, written = before ++ (name, value) :: after ∧
        readForms before = .ok forms ∧ UnusableParameter name value := by
  unfold readForms
  simp only [Noted.result_foldlM]
  constructor
  · rintro ⟨fault, h, hm⟩
    obtain ⟨before, ⟨name, value⟩, after, forms, hw, hb, hf⟩ := foldlM_eq_error_iff.mp h
    exact ⟨before, name, value, after, forms, hw, hb,
      (add_fault_iff forms name value).mp ⟨fault, hf, hm⟩⟩
  · rintro ⟨before, name, value, after, forms, hw, hb, hu⟩
    obtain ⟨fault, hf, hm⟩ := (add_fault_iff forms name value).mpr hu
    exact ⟨fault, foldlM_eq_error_iff.mpr ⟨before, (name, value), after, forms, hw, hb, hf⟩, hm⟩

/-- Parameters in sections are joined one after the other up to the first that fails. -/
theorem values_fault_iff (forms : Forms) :
    FailsUnexpectedly forms.values ↔
      ∃ before name sections after, forms.sections = before ++ (name, sections) :: after ∧
        (∀ entry ∈ before, ∃ text, joinSections entry.1 entry.2 = .ok text) ∧
        UnusableSections sections := by
  have hv : ∀ fault, forms.values = .error fault ↔
      FailsFirst (fun entry => joinSections entry.1 entry.2) forms.sections fault := fun fault =>
    foldlM_eq_error_iff_failsFirst
      (f := fun (entry : Text × List Section) => joinSections entry.1 entry.2)
      (g := fun (values : Table Text) entry text => values.insert entry.1 text)
  constructor
  · rintro ⟨fault, h, hm⟩
    obtain ⟨before, ⟨name, sections⟩, after, hs, hb, hf⟩ := (hv fault).mp h
    exact ⟨before, name, sections, after, hs, hb,
      (joinSections_fault_iff name sections).mp ⟨fault, hf, hm⟩⟩
  · rintro ⟨before, name, sections, after, hs, hb, hu⟩
    obtain ⟨fault, hf, hm⟩ := (joinSections_fault_iff name sections).mpr hu
    exact ⟨fault, (hv fault).mpr ⟨before, (name, sections), after, hs, hb, hf⟩, hm⟩

theorem decodeAfterWord_result {ε : Type} (pieces : List EncodedWord.Piece) :
    ∃ t, (EncodedWord.decodeAfterWord pieces : Noted ε Text).result = .ok t := by
  fun_induction EncodedWord.decodeAfterWord (ε := ε) pieces with
  | case1 => exact ⟨_, rfl⟩
  | case2 t => exact ⟨t, rfl⟩
  | case3 t rest _ ih =>
    obtain ⟨left, hl⟩ := ih
    rw [Noted.result_bind, hl]
    exact ⟨_, rfl⟩
  | case4 word rest ih =>
    obtain ⟨left, hl⟩ := ih
    have hw : ∃ t, (word.text : Noted ε Text).result = .ok t := by
      unfold EncodedWord.text
      split
      · exact ⟨_, rfl⟩
      · exact ⟨_, rfl⟩
    obtain ⟨t, ht⟩ := hw
    simp only [Noted.result_bind, ht, hl]
    exact ⟨_, rfl⟩

/-- An encoded word that cannot be decoded is left as it is. -/
theorem decodeAll_result {ε : Type} (t : Text) :
    ∃ decoded, (EncodedWord.decodeAll t : Noted ε Text).result = .ok decoded := by
  unfold EncodedWord.decodeAll
  split
  · rename_i rest _
    obtain ⟨left, hl⟩ := decodeAfterWord_result (ε := ε) rest
    rw [Noted.result_bind, hl]
    exact ⟨_, rfl⟩
  · exact decodeAfterWord_result _

theorem decodeValues_result (values : Table Text) :
    ∃ decoded, (decodeValues values).result = .ok decoded := by
  unfold decodeValues
  rw [Noted.result_mapM, exists_mapM_eq_ok_iff]
  intro entry _
  show ∃ y, (Noted.result (if EncodedWord.occursIn entry.2 then _ else _)) = .ok y
  split
  · obtain ⟨decoded, hd⟩ := decodeAll_result (ε := HeaderFault) entry.2
    rw [Noted.result_bind, hd]
    exact ⟨_, rfl⟩
  · exact ⟨_, rfl⟩

theorem combine_result (settings : Settings) (written : List (Text × Text)) :
    (combine settings written).result =
      readForms written >>= fun forms => forms.values >>= fun values =>
        (if settings.decodeEncodedWords then decodeValues values else pure values).result := by
  unfold combine readForms
  simp only [Noted.result_bind, Noted.result_ofExcept]

/-- Encoded words are decoded or left, and neither fails. -/
theorem decodeIfAsked_result (settings : Settings) (values : Table Text) :
    ∃ decoded, (if settings.decodeEncodedWords then decodeValues values
      else pure values : Noted HeaderFault (Table Text)).result = .ok decoded := by
  split
  · exact decodeValues_result values
  · exact ⟨values, rfl⟩

/-- **Parameters fail unexpectedly exactly if one that is reached cannot be used.** -/
theorem combine_fault_iff (settings : Settings) (written : List (Text × Text)) :
    FailsUnexpectedly (combine settings written).result ↔ UnusableParameters written := by
  rw [combine_result, failsUnexpectedly_bind, UnusableParameters, readForms_fault_iff]
  simp only [failsUnexpectedly_bind_of_ok (decodeIfAsked_result settings), values_fault_iff]

/-- Parameters are read if their forms are and their values can be made. No setting matters. -/
theorem combine_reads_iff (settings : Settings) (written : List (Text × Text)) :
    (∃ params, (combine settings written).result = .ok params) ↔
      ∃ forms values, readForms written = .ok forms ∧ forms.values = .ok values := by
  rw [combine_result]
  constructor
  · rintro ⟨params, h⟩
    obtain ⟨forms, hf, h⟩ := bind_eq_ok_iff.mp h
    obtain ⟨values, hv, -⟩ := bind_eq_ok_iff.mp h
    exact ⟨forms, values, hf, hv⟩
  · rintro ⟨forms, values, hf, hv⟩
    obtain ⟨decoded, hd⟩ := decodeIfAsked_result settings values
    exact ⟨decoded, bind_eq_ok_iff.mpr ⟨forms, hf, bind_eq_ok_iff.mpr ⟨values, hv, hd⟩⟩⟩

/-! ## When a header cannot be read -/

/-- A header whose parameters cannot be used, by its primary value and what follows it. -/
def UnusableAfter (taken : Option (Text × Text)) : Prop :=
  ∃ value rest, taken = some (value, rest) ∧ (∀ left, skipBlanks rest ≠ '=' :: left) ∧
    UnusableParameters (writtenPairs (items rest))

/-- A Content-Type value that cannot be used. -/
def UnusableContentType (raw : Text) : Prop :=
  UnusableAfter (takeContentType? (skipBlanks (unfold raw)))

/-- A Content-Disposition value that cannot be used. -/
def UnusableDisposition (raw : Text) : Prop :=
  UnusableAfter (takeToken? (skipBlanks (unfold raw)))

theorem not_unusableAfter_none : ¬ UnusableAfter none := fun ⟨_, _, h, _⟩ => nomatch h

/-- A header of blanks only has no primary value, so it is not unusable. -/
theorem UnusableContentType.isAllBlank_eq_false {raw : Text} (h : UnusableContentType raw) :
    Text.isAllBlank raw = false := by
  rw [Bool.eq_false_iff]
  intro hb
  rw [UnusableContentType, unfold_of_isAllBlank hb] at h
  exact not_unusableAfter_none h

theorem UnusableDisposition.isAllBlank_eq_false {raw : Text} (h : UnusableDisposition raw) :
    Text.isAllBlank raw = false := by
  rw [Bool.eq_false_iff]
  intro hb
  rw [UnusableDisposition, unfold_of_isAllBlank hb] at h
  exact not_unusableAfter_none h

theorem parameters_result (settings : Settings) (t : Text) :
    (parameters settings t).result = (combine settings (writtenPairs (items t))).result := by
  have hn : ∀ found : List Item, (found.forM noteItem).result = .ok () := by
    intro found
    induction found with
    | nil => rfl
    | cons item rest ih =>
      show (noteItem item >>= fun _ => rest.forM noteItem).result = _
      rw [Noted.result_bind, ih]
      cases item <;> rfl
  simp only [parameters, Noted.result_bind, hn]
  rfl

theorem finish_fault_iff (settings : Settings) (header : String) (value rest : Text) :
    FailsUnexpectedly (finish settings header value rest).result ↔
      (∀ left, skipBlanks rest ≠ '=' :: left) ∧
        UnusableParameters (writtenPairs (items rest)) := by
  unfold finish
  split
  · rename_i left hl
    exact iff_of_false (not_failsUnexpectedly_malformed _) fun h => h.1 left hl
  · rename_i hl
    rw [and_iff_right hl, ← combine_fault_iff settings, ← parameters_result, Noted.result_bind]
    exact failsUnexpectedly_bind_of_ok fun _ => ⟨_, rfl⟩

/-- A header fails unexpectedly by its parameters, once its primary value has been taken. -/
theorem taken_fault_iff (settings : Settings) (header : String) (error : HeaderError)
    (taken : Option (Text × Text)) :
    FailsUnexpectedly
        (match taken with
          | none => Noted.fail (HeaderFault.malformed error)
          | some (value, rest) => finish settings header value rest).result ↔
      UnusableAfter taken := by
  cases taken with
  | none =>
    exact iff_of_false (not_failsUnexpectedly_malformed _) not_unusableAfter_none
  | some taken =>
    rw [finish_fault_iff]
    constructor
    · intro h
      exact ⟨taken.1, taken.2, rfl, h⟩
    · rintro ⟨value, rest, h, hu⟩
      obtain rfl := Option.some.inj h
      exact hu

/-- A header is read if its primary value is there and its parameters can be read. -/
theorem taken_reads_iff (settings : Settings) (header : String) (error : HeaderError)
    (taken : Option (Text × Text)) :
    (∃ read : StructuredHeader, (match taken with
        | none => Noted.fail (HeaderFault.malformed error)
        | some (value, rest) => finish settings header value rest).result = .ok read) ↔
      ∃ value rest, taken = some (value, rest) ∧ (∀ left, skipBlanks rest ≠ '=' :: left) ∧
        ∃ forms values, readForms (writtenPairs (items rest)) = .ok forms ∧
          forms.values = .ok values := by
  constructor
  · rintro ⟨read, h⟩
    cases taken with
    | none => cases h
    | some taken =>
      obtain ⟨value, rest⟩ := taken
      obtain ⟨hs, hp, -⟩ := finish_eq_ok_iff.mp h
      rw [parameters_result] at hp
      refine ⟨value, rest, rfl, ?_, (combine_reads_iff settings _).mp ⟨_, hp⟩⟩
      intro left hl
      rw [hl] at hs
      exact hs rfl
  · rintro ⟨value, rest, rfl, hl, hr⟩
    obtain ⟨params, hp⟩ := (combine_reads_iff settings _).mpr hr
    rw [← parameters_result] at hp
    refine ⟨⟨Text.lower value, params⟩, finish_eq_ok_iff.mpr ⟨?_, hp, rfl⟩⟩
    intro hs
    obtain ⟨left, hs⟩ := List.head?_eq_some_iff.mp hs
    exact hl left hs

/-- Whether a Content-Type is read does not depend on the settings. -/
theorem parseContentType_reads_iff (settings other : Settings) (raw : Text) :
    (∃ header, (parseContentType settings raw).result = .ok header) ↔
      ∃ header, (parseContentType other raw).result = .ok header :=
  (taken_reads_iff settings ..).trans (taken_reads_iff other ..).symm

/-- Whether a Content-Disposition is read does not depend on the settings. -/
theorem parseDisposition_reads_iff (settings other : Settings) (raw : Text) :
    (∃ header, (parseDisposition settings raw).result = .ok header) ↔
      ∃ header, (parseDisposition other raw).result = .ok header :=
  (taken_reads_iff settings ..).trans (taken_reads_iff other ..).symm

/-- Blanks are no Content-Type. -/
theorem isAllBlank_eq_false_of_parseContentType {settings : Settings} {raw : Text}
    {header : StructuredHeader} (h : (parseContentType settings raw).result = .ok header) :
    Text.isAllBlank raw = false := by
  rw [Bool.eq_false_iff]
  intro hb
  rw [parseContentType, unfold_of_isAllBlank hb] at h
  cases h

/-- Blanks are no Content-Disposition. -/
theorem isAllBlank_eq_false_of_parseDisposition {settings : Settings} {raw : Text}
    {header : StructuredHeader} (h : (parseDisposition settings raw).result = .ok header) :
    Text.isAllBlank raw = false := by
  rw [Bool.eq_false_iff]
  intro hb
  rw [parseDisposition, unfold_of_isAllBlank hb] at h
  cases h

/-- **Reading a Content-Type fails unexpectedly exactly if it is unusable**, under any settings. -/
theorem parseContentType_fault_iff (settings : Settings) (raw : Text) :
    FailsUnexpectedly (parseContentType settings raw).result ↔ UnusableContentType raw :=
  taken_fault_iff settings ..

/-- **Reading a Content-Disposition fails unexpectedly exactly if it is unusable**, under any
settings. -/
theorem parseDisposition_fault_iff (settings : Settings) (raw : Text) :
    FailsUnexpectedly (parseDisposition settings raw).result ↔ UnusableDisposition raw :=
  taken_fault_iff settings ..

end MailScreen.Header
