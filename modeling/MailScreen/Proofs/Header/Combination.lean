import MailScreen.Proofs.Header.Gathering
import MailScreen.Proofs.Header.Joining

/-!
# How parameters are combined

Three kinds of things are wrong with parameters as written: a number that comes twice, a number that
is missing, and a charset that is not known. They may come up at different moments, the first and
the last while parameters are gathered and the others while their sections are joined. **Parameters
are refused exactly if one of them is there, and otherwise each name has the value of its sections,
of its last extended value or of its last plain value** (`Header.combine_by_form`).
-/
namespace MailScreen.Header

variable {written : List (Text × Text)} {name base value : Text} {form : Form}
variable {stated : Option Text}

/-! ## Refusals -/

/-- A value that can be read in a form unless it states a charset that is not known. Only extended
values state charsets, and of sections only the one with the number 0; and the number of a section
has no more digits than are read. -/
def Form.CanHold (value : Text) : Form → Prop
  | .plain => True
  | .extended => StatesBasic (splitCharset value).1
  | .numbered digits starred => digits.length ≤ maxIntegerDigits ∧
      (starred = true → numberOf digits = 0 → StatesBasic (splitCharset value).1)

instance (form : Form) (value : Text) : Decidable (form.CanHold value) :=
  match form with
  | .plain => inferInstanceAs (Decidable True)
  | .extended => inferInstanceAs (Decidable (StatesBasic (splitCharset value).1))
  | .numbered digits starred => inferInstanceAs (Decidable (digits.length ≤ maxIntegerDigits ∧
      (starred = true → numberOf digits = 0 → StatesBasic (splitCharset value).1)))

/-- Parameters of which each can be read, in the form that its name tells, if its charset is
known. -/
def IsCombinable (written : List (Text × Text)) : Prop :=
  ∀ entry ∈ written, ∀ base form, IsNamed entry.1 base form → form.CanHold entry.2

instance (written : List (Text × Text)) : Decidable (IsCombinable written) :=
  decidable_of_iff
    (∀ entry ∈ written, ∀ found ∈ splitName? entry.1, Form.CanHold entry.2 found.2)
    (forall₂_congr fun _ _ => ⟨fun h base form hn => h (base, form) (splitName?_eq_some_iff.mpr hn),
      fun h found hf => h found.1 found.2 (splitName?_eq_some_iff.mp hf)⟩)

/-- Two sections of one name have one number. -/
def RepeatsNumber (written : List (Text × Text)) : Prop :=
  ∃ base, ¬ ((sectionsUnder base written).map (·.index)).Nodup

/-- The numbers of the sections of some name are not all the numbers below some number. -/
def LacksNumber (written : List (Text × Text)) : Prop :=
  ∃ base, ¬ ∃ k, ∀ i, i ∈ (sectionsUnder base written).map (·.index) ↔ i < k

/-- A charset that is not known is stated in an extended value, or in an extended section with the
number 0. -/
def StatesUnknownCharset (written : List (Text × Text)) : Prop :=
  ∃ base, (∃ value ∈ valuesUnder base .extended written, StatesUnknown (splitCharset value).1) ∨
    ∃ s ∈ sectionsUnder base written, s.index = 0 ∧ s.extended = true ∧
      StatesUnknown (splitCharset s.value).1

/-- The names proper of parameters. -/
def basesOf (written : List (Text × Text)) : List Text :=
  written.filterMap fun entry => (splitName? entry.1).map (·.1)

theorem mem_basesOf (hn : IsNamed name base form) (hm : (name, value) ∈ written) :
    base ∈ basesOf written :=
  List.mem_filterMap.mpr ⟨(name, value), hm, by rw [splitName?_eq_some_iff.mpr hn]; rfl⟩

/-- Only names proper of parameters have sections. -/
theorem mem_basesOf_of_section {s : Section} (hs : s ∈ sectionsUnder base written) :
    base ∈ basesOf written := by
  obtain ⟨name, digits, hn, -, hm⟩ := mem_sectionsUnder_iff.mp hs
  exact mem_basesOf hn hm

/-- All the numbers below some number are those of which no smaller one is missing. -/
theorem exists_forall_mem_iff_lt {l : List Nat} :
    (∃ k, ∀ i, i ∈ l ↔ i < k) ↔ ∀ i ∈ l, ∀ j < i, j ∈ l := by
  constructor
  · rintro ⟨k, hk⟩ i hi j hj
    exact (hk j).mpr (Nat.lt_trans hj ((hk i).mp hi))
  · intro h
    cases hl : l.max? with
    | none =>
      rw [List.max?_eq_none_iff] at hl
      exact ⟨0, by simp [hl]⟩
    | some m =>
      rw [List.max?_eq_some_iff] at hl
      exact ⟨m + 1, fun i => ⟨fun hi => Nat.lt_succ_of_le (hl.2 i hi), fun hi =>
        (Nat.lt_succ_iff_lt_or_eq.mp hi).elim (h m hl.1 i) (fun he => he ▸ hl.1)⟩⟩

theorem repeatsNumber_iff : RepeatsNumber written ↔
    ∃ base ∈ basesOf written, ¬ ((sectionsUnder base written).map (·.index)).Nodup := by
  refine exists_congr fun base => (and_iff_right_of_imp fun h => ?_).symm
  cases hs : sectionsUnder base written with
  | nil =>
    rw [hs] at h
    exact absurd List.nodup_nil h
  | cons s rest => exact mem_basesOf_of_section (hs ▸ List.mem_cons_self ..)

theorem lacksNumber_iff : LacksNumber written ↔
    ∃ base ∈ basesOf written, ¬ ∀ i ∈ (sectionsUnder base written).map (·.index), ∀ j < i,
      j ∈ (sectionsUnder base written).map (·.index) := by
  simp only [LacksNumber, exists_forall_mem_iff_lt]
  refine exists_congr fun base => (and_iff_right_of_imp fun h => ?_).symm
  cases hs : sectionsUnder base written with
  | nil => exact absurd (by simp [hs]) h
  | cons s rest => exact mem_basesOf_of_section (hs ▸ List.mem_cons_self ..)

theorem statesUnknownCharset_iff : StatesUnknownCharset written ↔
    ∃ base ∈ basesOf written,
      (∃ value ∈ valuesUnder base .extended written, StatesUnknown (splitCharset value).1) ∨
      ∃ s ∈ sectionsUnder base written, s.index = 0 ∧ s.extended = true ∧
        StatesUnknown (splitCharset s.value).1 := by
  refine exists_congr fun base => (and_iff_right_of_imp ?_).symm
  rintro (⟨value, hv, -⟩ | ⟨s, hs, -⟩)
  · obtain ⟨name, hn, hm⟩ := mem_valuesUnder_iff.mp hv
    exact mem_basesOf hn hm
  · exact mem_basesOf_of_section hs

instance (written : List (Text × Text)) : Decidable (RepeatsNumber written) :=
  decidable_of_iff _ repeatsNumber_iff.symm

instance (written : List (Text × Text)) : Decidable (LacksNumber written) :=
  decidable_of_iff _ lacksNumber_iff.symm

instance (written : List (Text × Text)) : Decidable (StatesUnknownCharset written) :=
  decidable_of_iff _ statesUnknownCharset_iff.symm

namespace IsCombinable

theorem statesBasic (h : IsCombinable written) (hm : value ∈ valuesUnder base .extended written) :
    StatesBasic (splitCharset value).1 := by
  obtain ⟨name, hn, hm⟩ := mem_valuesUnder_iff.mp hm
  exact h (name, value) hm base .extended hn

theorem sectionsBasic (h : IsCombinable written) (base : Text) :
    SectionsBasic (sectionsUnder base written) := by
  intro s hs h0 hx
  obtain ⟨name, digits, hn, hi, hm⟩ := mem_sectionsUnder_iff.mp hs
  exact (h (name, s.value) hm base (.numbered digits s.extended) hn).2 hx (hi.trans h0)

/-- Parameters are read one by one if no number comes twice and all extended values are decoded. -/
theorem exists_readForms (h : IsCombinable written)
    (hn : ∀ base, ((sectionsUnder base written).map (·.index)).Nodup)
    (hd : ∀ base, ∀ value ∈ valuesUnder base .extended written,
      ∃ text, decodeExtended value = .ok text) :
    ∃ forms, readForms written = .ok forms := by
  induction written using List.reverseRecOn with
  | nil => exact ⟨{}, rfl⟩
  | append_singleton written entry ih =>
    obtain ⟨name, value⟩ := entry
    have hsub : ∀ entry ∈ written, entry ∈ written ++ [(name, value)] :=
      fun entry => List.mem_append_left _
    obtain ⟨forms, hf⟩ := ih (fun entry hm => h entry (hsub entry hm))
      (fun base => by
        have hb := hn base
        rw [sectionsUnder_concat, List.map_append] at hb
        exact (List.nodup_append.mp hb).1)
      (fun base v hm => hd base v (by
        rw [valuesUnder_concat]
        exact List.mem_append_left _ hm))
    have hg := gathers_of_readForms hf
    have hlast : (name, value) ∈ written ++ [(name, value)] := by simp
    suffices ∃ forms', (forms.add name value).result = .ok forms' by
      obtain ⟨forms', ha⟩ := this
      exact ⟨forms', by rw [readForms_concat, hf]; exact ha⟩
    simp only [Forms.add_eq_ok_iff]
    split
    · exact ⟨_, rfl⟩
    · exact ⟨_, rfl⟩
    · rename_i base hs
      obtain ⟨text, ht⟩ := hd base value
        (mem_valuesUnder_iff.mpr ⟨name, splitName?_eq_some_iff.mp hs, hlast⟩)
      exact ⟨_, text, ht, rfl⟩
    · rename_i base digits starred hs
      refine ⟨_, (h _ hlast base _ (splitName?_eq_some_iff.mp hs)).1, ?_, rfl⟩
      rw [hg.sections.getD_find?]
      have hb := hn base
      have hsection : sectionOf? base (name, value) = some ⟨numberOf digits, value, starred⟩ := by
        rw [sectionOf?_eq_some_iff]
        exact ⟨digits, splitName?_eq_some_iff.mp hs, rfl, rfl⟩
      rw [sectionsUnder_concat, hsection, List.map_append] at hb
      intro hm
      exact (List.nodup_append.mp hb).2.2 _ hm _ (List.mem_singleton_self _) rfl

/-- Sections of different names are joined one after the other if all can be. -/
theorem exists_values {forms : Forms} (hg : forms.Gathers written)
    (h : ∀ base, sectionsUnder base written ≠ [] →
      ∃ text, joinSections base (sectionsUnder base written) = .ok text) :
    ∃ values, forms.values = .ok values := by
  cases hv : forms.values with
  | ok values => exact ⟨values, rfl⟩
  | error fault =>
    obtain ⟨before, ⟨base, sections⟩, after, hs, -, hj⟩ :=
      (foldlM_eq_error_iff_failsFirst
        (f := fun (entry : Text × List Section) => joinSections entry.1 entry.2)
        (g := fun (values : Table Text) entry text => values.insert entry.1 text)).mp hv
    have hf := Table.find?_of_mem hg.sections.nodup (hs ▸ List.mem_append_right _
      (List.mem_cons_self ..) : (base, sections) ∈ forms.sections)
    rw [hg.sections.find?_eq] at hf
    split at hf
    · cases hf
    · rename_i hne
      obtain rfl := Option.some.inj hf
      obtain ⟨text, ht⟩ := h base hne
      cases ht.symm.trans hj

/-- **When parameters are combined**: when no number comes twice or is missing, and no charset is
unknown. -/
theorem exists_combine_iff (h : IsCombinable written) (settings : Settings) :
    (∃ params, (combine settings written).result = .ok params) ↔
      ¬ (RepeatsNumber written ∨ LacksNumber written ∨ StatesUnknownCharset written) := by
  rw [combine_reads_iff]
  constructor
  · rintro ⟨forms, values, hf, hv⟩ hbad
    have hg := gathers_of_readForms hf
    have hj (base : Text) : (∃ k, ∀ i, i ∈ (sectionsUnder base written).map (·.index) ↔ i < k) ∧
        ∀ s ∈ sectionsUnder base written, s.index = 0 → s.extended = true →
          ¬ StatesUnknown (splitCharset s.value).1 := by
      by_cases hne : sectionsUnder base written = []
      · rw [hne]
        exact ⟨⟨0, by simp⟩, by simp⟩
      · have hval := hg.find?_values hv base
        rw [valueUnder, if_pos hne] at hval
        obtain ⟨text, -, ht⟩ := Option.map_eq_some_iff.mp hval
        exact (exists_joinSections_iff (hg.sections.distinct base) (h.sectionsBasic base) base).mp
          ⟨text, ht.symm⟩
    rcases hbad with ⟨base, hb⟩ | ⟨base, hb⟩ | ⟨base, ⟨value, hm, hu⟩ | ⟨s, hs, h0, hx, hu⟩⟩
    · exact hb (hg.sections.distinct base)
    · exact hb (hj base).1
    · exact (exists_decodeExtended_iff (h.statesBasic hm)).mp (hg.extended.reads base value hm) hu
    · exact (hj base).2 s hs h0 hx hu
  · intro hgood
    rw [not_or, not_or] at hgood
    obtain ⟨hrepeats, hlacks, hunknown⟩ := hgood
    have hn (base : Text) : ((sectionsUnder base written).map (·.index)).Nodup :=
      not_not.mp fun hb => hrepeats ⟨base, hb⟩
    obtain ⟨forms, hf⟩ := h.exists_readForms hn fun base value hm =>
      (exists_decodeExtended_iff (h.statesBasic hm)).mpr fun hu =>
        hunknown ⟨base, .inl ⟨value, hm, hu⟩⟩
    obtain ⟨values, hv⟩ := exists_values (gathers_of_readForms hf) fun base _ =>
      (exists_joinSections_iff (hn base) (h.sectionsBasic base) base).mpr
        ⟨not_not.mp fun hb => hlacks ⟨base, hb⟩,
          fun s hs h0 hx hu => hunknown ⟨base, .inr ⟨s, hs, h0, hx, hu⟩⟩⟩
    exact ⟨forms, values, hf, hv⟩

/-- A charset that is basic or not known can be used for all that it is used for. -/
theorem not_statesUnusable {refuses : Text → Charset → Prop} (hb : StatesBasic stated)
    (hr : ∀ label charset, IsBasic charset → ¬ refuses label charset) :
    ¬ StatesUnusable stated refuses := by
  rintro ⟨name, hn, h⟩
  obtain ⟨hnul, hbasic⟩ := hb name hn
  rcases h with h | ⟨entry, he, h⟩
  · exact hnul h
  · exact hr _ _ (hbasic entry he) h

/-- Such parameters can all be used. -/
theorem not_unusableParameters (h : IsCombinable written) : ¬ UnusableParameters written := by
  rintro (⟨before, name, value, after, forms, rfl, -, hu⟩ | ⟨forms, hf, before, base, sections,
    after, hs, -, hr, ⟨s, hsm, -⟩, hu⟩)
  · have hm : (name, value) ∈ before ++ (name, value) :: after := by simp
    unfold UnusableParameter at hu
    split at hu
    · rename_i base hs
      exact not_statesUnusable (h _ hm base .extended (splitName?_eq_some_iff.mp hs))
        (fun _ _ hb => hb.not_refuses _) hu
    · rename_i base digits starred hs
      exact Nat.not_le.mpr hu (h _ hm base _ (splitName?_eq_some_iff.mp hs)).1
    · exact hu
  · have hg := gathers_of_readForms hf
    have hfind := Table.find?_of_mem hg.sections.nodup (hs ▸ List.mem_append_right _
      (List.mem_cons_self ..) : (base, sections) ∈ forms.sections)
    obtain rfl : sectionsUnder base written = sections := by
      rw [← hg.sections.getD_find?, hfind]
      rfl
    obtain ⟨first, rest, ho, hzero, hfirst⟩ := exists_inOrder_cons hsm hr
    have hb : StatesBasic (firstCharset (inOrder (sectionsUnder base written))).1 := by
      rw [ho, firstCharset_of_cons]
      split
      · rename_i hx
        exact h.sectionsBasic base first hfirst hzero hx
      · exact statesBasic_none
    refine not_statesUnusable hb ?_ hu
    rintro label charset hc (⟨hnominal, -⟩ | ⟨chunks, -, hrefuses⟩)
    · rw [hc.not_isNominal] at hnominal
      cases hnominal
    · exact hc.not_refuses _ hrefuses

/-- Such parameters are refused as malformed if they are. -/
theorem exists_malformed_iff (h : IsCombinable written) (settings : Settings) :
    (∃ error, (combine settings written).result = .error (.malformed error)) ↔
      ¬ ∃ params, (combine settings written).result = .ok params := by
  constructor
  · rintro ⟨error, he⟩ ⟨params, hp⟩
    cases he.symm.trans hp
  · intro hnot
    cases hr : (combine settings written).result with
    | ok params => exact absurd ⟨params, hr⟩ hnot
    | error fault =>
      cases fault with
      | malformed error => exact ⟨error, rfl⟩
      | charset cause =>
        exact absurd ((combine_fault_iff settings written).mp ⟨_, hr, rfl⟩)
          h.not_unusableParameters
      | number cause =>
        exact absurd ((combine_fault_iff settings written).mp ⟨_, hr, rfl⟩)
          h.not_unusableParameters

end IsCombinable

/-! ## Parameters in another order -/

/-- Parameters that are mixed in another way: under each name the plain and the extended values come
in the same order, and the sections in any. -/
structure IsRemixed (written other : List (Text × Text)) : Prop where
  /-- Plain values keep their order. -/
  plain : ∀ base, valuesUnder base .plain other = valuesUnder base .plain written
  /-- Extended values keep their order. -/
  extended : ∀ base, valuesUnder base .extended other = valuesUnder base .extended written
  /-- Sections keep their numbers only. -/
  sections : ∀ base, (sectionsUnder base other).Perm (sectionsUnder base written)

namespace IsRemixed

variable {other : List (Text × Text)}

theorem valueUnder_eq (h : IsRemixed written other) (base : Text)
    (hn : ((sectionsUnder base written).map (·.index)).Nodup) :
    valueUnder base other = valueUnder base written := by
  have hs : sectionsUnder base other = [] ↔ sectionsUnder base written = [] :=
    ⟨fun he => (he ▸ h.sections base).symm.eq_nil, fun he => (he ▸ h.sections base).eq_nil⟩
  unfold valueUnder
  rw [h.plain, h.extended, joinSections_perm (h.sections base) hn]
  simp only [ne_eq, hs]

theorem refused_iff (h : IsRemixed written other) :
    RepeatsNumber other ∨ LacksNumber other ∨ StatesUnknownCharset other ↔
      RepeatsNumber written ∨ LacksNumber written ∨ StatesUnknownCharset written := by
  unfold RepeatsNumber LacksNumber StatesUnknownCharset
  simp only [h.extended, fun base => ((h.sections base).map (·.index)).nodup_iff,
    fun base i => ((h.sections base).map (·.index)).mem_iff (a := i),
    fun base s => (h.sections base).mem_iff (a := s)]

end IsRemixed

/-! ## Combining -/

/-- What parameters come to that are read. -/
theorem values_of_combine {settings : Settings} {params : Table Text}
    (hd : settings.decodeEncodedWords = false)
    (h : (combine settings written).result = .ok params) :
    params.names.Nodup ∧ ∀ base, (params.find? base).map .ok = valueUnder base written := by
  rw [combine_result, hd] at h
  obtain ⟨forms, hf, h⟩ := bind_eq_ok_iff.mp h
  obtain ⟨values, hv, h⟩ := bind_eq_ok_iff.mp h
  obtain rfl := Except.ok.inj h
  have hg := gathers_of_readForms hf
  exact ⟨nodup_names_of_foldlM (Table.nodup_names_insertAll hg.plain.nodup _) hv,
    hg.find?_values hv⟩

/-- The names of what is read are those of the parameters, without what tells their forms. -/
theorem mem_names_of_combine {settings : Settings} {params : Table Text}
    (hd : settings.decodeEncodedWords = false)
    (h : (combine settings written).result = .ok params) (base : Text) :
    base ∈ params.names ↔ ∃ name form value, IsNamed name base form ∧ (name, value) ∈ written := by
  rw [Table.mem_names_iff, ← valueUnder_ne_none_iff, ← (values_of_combine hd h).2, ne_eq,
    Option.map_eq_none_iff, ← ne_eq, Option.ne_none_iff_exists']

/-- **Parameters are combined by form.** They are refused as malformed exactly if a name has two
sections with one number, or lacks a number, or a charset is stated that is not known. Otherwise the
names are those of all parameters without what tells their forms, and what a name comes to is its
sections joined if it has any, or else its last extended value decoded, or else its last plain
value. How forms and names are mixed does not matter. -/
theorem combine_by_form {settings : Settings} (hd : settings.decodeEncodedWords = false)
    (hw : IsCombinable written) :
    ((∃ error, (combine settings written).result = .error (.malformed error)) ↔
      RepeatsNumber written ∨ LacksNumber written ∨ StatesUnknownCharset written) ∧
    (¬ (RepeatsNumber written ∨ LacksNumber written ∨ StatesUnknownCharset written) →
      ∃ params, (combine settings written).result = .ok params ∧ params.names.Nodup ∧
        (∀ base, base ∈ params.names ↔
          ∃ name form value, IsNamed name base form ∧ (name, value) ∈ written) ∧
        (∀ base, (params.find? base).map .ok = valueUnder base written) ∧
        ∀ other, IsCombinable other → IsRemixed written other →
          ∃ others, (combine settings other).result = .ok others ∧
            ∀ base, others.find? base = params.find? base) := by
  refine ⟨by rw [hw.exists_malformed_iff, hw.exists_combine_iff, not_not], fun hgood => ?_⟩
  obtain ⟨params, hp⟩ := (hw.exists_combine_iff settings).mpr hgood
  obtain ⟨hnodup, hvalues⟩ := values_of_combine hd hp
  refine ⟨params, hp, hnodup, mem_names_of_combine hd hp, hvalues, fun other ho hr => ?_⟩
  obtain ⟨others, hother⟩ := (ho.exists_combine_iff settings).mpr (mt hr.refused_iff.mp hgood)
  refine ⟨others, hother, fun base => ?_⟩
  have hn : ((sectionsUnder base written).map (·.index)).Nodup :=
    not_not.mp fun hb => hgood (.inl ⟨base, hb⟩)
  have hm := ((values_of_combine hd hother).2 base).trans (hr.valueUnder_eq base hn)
  rw [← hvalues base] at hm
  exact Option.map_injective (fun _ _ => Except.ok.inj) hm

/-- Two names in several forms, mixed, with a malformed name among them; a charset that is not
known, in a value that is not the last; and a number that comes twice, in different digits. -/
theorem combine_by_form_of_mixed :
    (∃ params, (combine { decodeEncodedWords := false }
        [("a*1".toList, "é".toList), ("b".toList, "z".toList),
          ("a*0*".toList, "UTF8'fr'%c3".toList), ("b*".toList, "''%E9".toList),
          ("a*x".toList, "u".toList), ("b*".toList, "c%20d".toList),
          ("a".toList, "v".toList)]).result = .ok params ∧
      params.find? "a".toList = some "\uFFFDé".toList ∧
      params.find? "b".toList = some "c d".toList) ∧
    (∃ error, (combine { decodeEncodedWords := false }
        [("a*".toList, "x-none''y".toList), ("a*".toList, "''y".toList)]).result =
      .error (.malformed error)) ∧
    ∃ error, (combine { decodeEncodedWords := false }
        [("a*01".toList, []), ("a*0".toList, []), ("a*1*".toList, [])]).result =
      .error (.malformed error) := by
  have off : ({ decodeEncodedWords := false } : Settings).decodeEncodedWords = false := rfl
  refine ⟨?_, ?_, ?_⟩
  · have hread := (@combine_by_form [("a*1".toList, "é".toList), ("b".toList, "z".toList),
      ("a*0*".toList, "UTF8'fr'%c3".toList), ("b*".toList, "''%E9".toList),
      ("a*x".toList, "u".toList), ("b*".toList, "c%20d".toList), ("a".toList, "v".toList)] _ off
      (by decide +kernel)).2 (by decide +kernel)
    obtain ⟨params, hp, -, -, hv, -⟩ := hread
    have hjoin : joinSections "a".toList
        [⟨1, "é".toList, false⟩, ⟨0, "UTF8'fr'%c3".toList, true⟩] = .ok "\uFFFDé".toList := by
      rw [joinSections_eq, @inOrder_of_perm _ [⟨0, "UTF8'fr'%c3".toList, true⟩,
        ⟨1, "é".toList, false⟩] (by decide) (by decide)]
      decide +kernel
    have found {key text : Text} (h : (params.find? key).map Except.ok =
        some (Except.ok text : Except HeaderFault Text)) : params.find? key = some text := by
      obtain ⟨other, ho, he⟩ := Option.map_eq_some_iff.mp h
      rw [ho, Except.ok.inj he]
    refine ⟨params, hp, found ((hv _).trans ?_), found ((hv _).trans (by decide +kernel))⟩
    rw [valueUnder, if_pos (by decide +kernel)]
    exact congrArg some hjoin
  · have hunknown : findCharset? "x-none".toList = none := by decide +kernel
    have hbasic : ∀ value ∈ ["x-none''y".toList, "''y".toList],
        StatesBasic (splitCharset value).1 := by
      have hstated : (splitCharset "x-none''y".toList).1 = some "x-none".toList := by decide
      refine List.forall_mem_cons.mpr ⟨?_, List.forall_mem_singleton.mpr statesBasic_none⟩
      rw [hstated]
      rintro name hn
      obtain rfl := Option.some.inj hn
      exact ⟨by decide, by rw [hunknown]; rintro entry ⟨⟩⟩
    have hsplit : splitName? "a*".toList = some ("a".toList, .extended) := by decide
    have hcombinable : IsCombinable [("a*".toList, "x-none''y".toList),
        ("a*".toList, "''y".toList)] := by
      intro entry hm base form he
      obtain ⟨value, hv, rfl⟩ : ∃ value ∈ ["x-none''y".toList, "''y".toList],
          ("a*".toList, value) = entry := List.mem_map.mp hm
      obtain ⟨rfl, rfl⟩ := Prod.mk.inj
        (Option.some.inj (hsplit.symm.trans (splitName?_eq_some_iff.mpr he)))
      exact hbasic value hv
    exact (combine_by_form off hcombinable).1.mpr (.inr (.inr ⟨"a".toList, .inl
      ⟨"x-none''y".toList, by decide, "x-none".toList, by decide, hunknown⟩⟩))
  · exact (combine_by_form off (by decide +kernel)).1.mpr (.inl (by decide +kernel))

end MailScreen.Header
