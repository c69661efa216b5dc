import MailScreen.Proofs.Header.Combination
import MailScreen.Proofs.Text.Join

/-!
# Sections that are used literally

A section that is not extended stands for its text. If section 0 states no charset, the octets of
all sections are read as Latin 1, and a text is written in Latin 1 before: what Latin 1 does not
have becomes a question mark. **The texts are used literally exactly if all their characters have
code points below 256** (`Header.parse_literalSections`).
-/
namespace MailScreen.Header

open Ascii OutlookMessage

/-! ## Latin 1 -/

/-- What is left of a character that has been written and read in Latin 1. -/
def throughLatin1 (c : Char) : Char := if c.toNat < 0x100 then c else '?'

theorem toLatin1_encodeBelow (t : Text) :
    Octets.toLatin1 (Charset.encodeBelow 0x100 t) = t.map throughLatin1 := by
  rw [Octets.toLatin1, Charset.encodeBelow, List.map_map]
  refine List.map_congr_left fun c _ => ?_
  simp only [Function.comp_apply, throughLatin1]
  split
  · rename_i hc
    exact Utf8.ofNat_of_eq_toNat (Utf8.toNat_octet hc)
  · rfl

/-- **A text comes through Latin 1 exactly if Latin 1 has all of its characters.** -/
theorem map_throughLatin1_eq_iff {t : Text} :
    t.map throughLatin1 = t ↔ ∀ c ∈ t, c.toNat < 0x100 := by
  have hid : t.map throughLatin1 = t.map id ↔ ∀ c ∈ t, throughLatin1 c = c := List.map_inj_left
  rw [List.map_id] at hid
  refine hid.trans (forall₂_congr fun c _ => ?_)
  unfold throughLatin1
  split
  · rename_i hc
    exact iff_of_true rfl hc
  · rename_i hc
    refine iff_of_false ?_ hc
    rintro rfl
    exact hc (by decide)

theorem toLatin1_append (s t : Octets) :
    Octets.toLatin1 (s ++ t) = Octets.toLatin1 s ++ Octets.toLatin1 t := List.map_append

/-! ## Values without a charset -/

/-- Values that state no charset, with what is decoded of them: as there are not two apostrophes
there is no charset and all is decoded, or the charset in front of the first of them is empty. -/
inductive LacksCharset : Text → Text → Prop
  /-- A value without a marker. -/
  | unmarked {value : Text} (h : value.count '\'' < 2) : LacksCharset value value
  /-- A value with an empty charset, and a language. -/
  | empty {language text : Text} (h : '\'' ∉ language) :
    LacksCharset ('\'' :: (language ++ '\'' :: text)) text

variable {value body name : Text} {texts : List Text} {written : List (Text × Text)}
variable {sections : List Section}

theorem LacksCharset.splitCharset_eq (h : LacksCharset value body) :
    splitCharset value = (none, body) := by
  cases h with
  | empty hl =>
    unfold splitCharset
    rw [Text.cut?, if_pos rfl]
    simp only [Text.cut?_append hl]
    rfl
  | unmarked hc =>
    unfold splitCharset
    by_cases hm : '\'' ∈ value
    · obtain ⟨before, after, rfl, hb⟩ := List.eq_append_cons_of_mem hm
      -- a second apostrophe would be one too many, so no language ends
      have ha : '\'' ∉ after := by
        rw [List.count_append, List.count_cons_self] at hc
        exact List.count_eq_zero.mp (by omega)
      simp only [Text.cut?_append hb, Text.cut?_of_notMem ha]
    · simp only [Text.cut?_of_notMem hm]

/-! ## Joining -/

/-- Section 0 in extended form, and texts as the sections after it. -/
def literalSections (value : Text) (texts : List Text) : List Section :=
  ⟨0, value, true⟩ :: Chunk.sectionsFrom 1 (texts.map .quoted)

theorem map_index_literalSections (value : Text) (texts : List Text) :
    (literalSections value texts).map (·.index) = List.range (texts.length + 1) := by
  rw [literalSections, List.map_cons, Chunk.map_index_sectionsFrom, List.length_map,
    List.range_eq_range', List.range'_succ]

theorem mapM_octets_quoted (label : Text) (index : Nat) (texts : List Text) :
    (Chunk.sectionsFrom index (texts.map .quoted)).mapM (Section.octets label .latin1) =
      .ok (texts.map (Charset.encodeBelow 0x100)) := by
  induction texts generalizing index with
  | nil => rfl
  | cons text rest ih =>
    rw [List.map_cons, Chunk.sectionsFrom, List.mapM_cons, ih]
    rfl

theorem inOrder_literalSections (value : Text) (texts : List Text) :
    inOrder (literalSections value texts) = literalSections value texts := by
  refine inOrder_of_perm (.refl _) (List.pairwise_map.mp ?_)
  rw [map_index_literalSections]
  exact List.pairwise_lt_range

/-- No charset is stated, as only section 0 could state one. -/
theorem sectionsBasic_literalSections (hc : LacksCharset value body) (texts : List Text) :
    SectionsBasic (literalSections value texts) := by
  intro s hm h0 hx
  rcases List.mem_cons.mp hm with rfl | hm
  · rw [hc.splitCharset_eq]
    exact statesBasic_none
  · obtain ⟨chunk, hchunk, i, -, rfl⟩ := Chunk.mem_sectionsFrom hm
    obtain ⟨text, -, rfl⟩ := List.mem_map.mp hchunk
    cases hx

/-- **What sections without a charset are joined to.** -/
theorem joinSections_literalSections (hc : LacksCharset value body) (name : Text)
    (texts : List Text) :
    joinSections name (literalSections value texts) =
      .ok (Octets.toLatin1 (Percent.decode body) ++ texts.flatten.map throughLatin1) := by
  have hindices := map_index_literalSections value texts
  have hlength : (literalSections value texts).length = texts.length + 1 := by
    simpa using congrArg List.length hindices
  have hfirst : firstCharset (literalSections value texts) =
      (none, ⟨0, body, true⟩ :: Chunk.sectionsFrom 1 (texts.map .quoted)) := by
    simp only [literalSections, firstCharset, if_true, hc.splitCharset_eq]
  have hchunks : (⟨0, body, true⟩ :: Chunk.sectionsFrom 1 (texts.map .quoted)).mapM
      (Section.octets "latin-1".toList .latin1) =
        .ok (Percent.decode body :: texts.map (Charset.encodeBelow 0x100)) := by
    rw [List.mapM_cons, mapM_octets_quoted]
    rfl
  have hdecode (bytes : Octets) :
      Charset.latin1.decode "latin-1".toList bytes = .ok (Octets.toLatin1 bytes) := by
    cases bytes <;> rfl
  have htexts : Octets.toLatin1 (texts.map (Charset.encodeBelow 0x100)).flatten =
      texts.flatten.map throughLatin1 := by
    rw [Octets.toLatin1, List.map_flatten, List.map_flatten, List.map_map]
    exact congrArg List.flatten (List.map_congr_left fun t _ => toLatin1_encodeBelow t)
  -- the charset of section 0, which states none, is that in which all are written and read
  rw [joinSections_eq, inOrder_literalSections, hindices, hlength, if_neg (not_not_intro rfl),
    if_neg (by simp [literalSections]), hfirst]
  show ((⟨0, body, true⟩ :: Chunk.sectionsFrom 1 (texts.map .quoted)).mapM
    (Section.octets "latin-1".toList .latin1) >>= _) = _
  rw [hchunks]
  show (Charset.latin1.decode "latin-1".toList _).mapError _ = _
  rw [hdecode, List.flatten_cons, toLatin1_append, htexts]
  rfl

/-! ## Parameters of which one is in sections -/

theorem numberOf_toDigits {n : Nat} (h : (Nat.toDigits 10 n).length ≤ maxIntegerDigits) :
    numberOf (Nat.toDigits 10 n) = n :=
  (digitsValue?_eq_ok_iff.mp (digitsValue?_toDigits h)).2

/-- The parameters with asterisks in their names are the sections of one parameter, in any order. -/
def HasSections (name : Text) (sections : List Section) (written : List (Text × Text)) : Prop :=
  (written.filter fun entry => '*' ∈ entry.1).Perm
    (sections.map fun s => (s.fullName name, s.value))

namespace HasSections

variable {entry : Text × Text} {base : Text} {form : Form}

/-- A parameter that is not plain is one of the sections. -/
theorem exists_section (h : HasSections name sections written) (hn : IsName name)
    (hm : entry ∈ written) (he : IsNamed entry.1 base form) (hf : form ≠ .plain) :
    ∃ s ∈ sections, entry = (s.fullName name, s.value) ∧ base = name ∧
      form = .numbered (Nat.toDigits 10 s.index) s.extended := by
  have hstar : '*' ∈ entry.1 := by
    rw [he.eq_append]
    cases form with
    | plain => exact absurd rfl hf
    | extended => simp [Form.suffix]
    | numbered digits starred => simp [Form.suffix]
  obtain ⟨s, hs, heq⟩ := List.mem_map.mp (h.subset (List.mem_filter.mpr ⟨hm, by simpa using hstar⟩))
  have hsplit := splitName?_eq_some_iff.mpr he
  rw [← heq, splitName?_fullName hn] at hsplit
  obtain ⟨rfl, rfl⟩ := Prod.mk.inj (Option.some.inj hsplit)
  exact ⟨s, hs, heq.symm, rfl, rfl⟩

/-- No value is extended. -/
theorem valuesUnder_eq_nil (h : HasSections name sections written) (hn : IsName name)
    (base : Text) : valuesUnder base .extended written = [] := by
  refine List.eq_nil_iff_forall_not_mem.mpr fun value hm => ?_
  obtain ⟨other, he, hm⟩ := mem_valuesUnder_iff.mp hm
  obtain ⟨s, -, -, -, hf⟩ := h.exists_section hn hm he (by simp)
  cases hf

/-- Under other names there are no sections. -/
theorem sectionsUnder_eq_nil (h : HasSections name sections written) (hn : IsName name)
    (hb : base ≠ name) : sectionsUnder base written = [] := by
  refine List.eq_nil_iff_forall_not_mem.mpr fun s hm => ?_
  obtain ⟨other, digits, he, -, hm⟩ := mem_sectionsUnder_iff.mp hm
  obtain ⟨-, -, -, rfl, -⟩ := h.exists_section hn hm he (by simp)
  exact hb rfl

/-- Under the name are the sections. -/
theorem sectionsUnder_perm (h : HasSections name sections written) (hn : IsName name)
    (hd : ∀ s ∈ sections, (Nat.toDigits 10 s.index).length ≤ maxIntegerDigits) :
    (sectionsUnder name written).Perm sections := by
  have hread : ∀ s ∈ sections, sectionOf? name (s.fullName name, s.value) = some s := fun s hs =>
    sectionOf?_eq_some_iff.mpr ⟨_, splitName?_eq_some_iff.mp (splitName?_fullName hn s),
      numberOf_toDigits (hd s hs), rfl⟩
  -- no section is lost with the names that have no asterisk in them
  have hstar (entry : Text × Text) : (if '*' ∈ entry.1 then sectionOf? name entry else none) =
      sectionOf? name entry := by
    split
    · rfl
    · rename_i hs
      cases hsec : sectionOf? name entry with
      | none => rfl
      | some s =>
        obtain ⟨digits, he, -⟩ := sectionOf?_eq_some_iff.mp hsec
        exact absurd (by rw [he.eq_append]; simp [Form.suffix]) hs
  have hp := h.filterMap (sectionOf? name)
  rw [List.filterMap_filter, List.filterMap_map] at hp
  simp only [decide_eq_true_eq, hstar] at hp
  have hall : sections.filterMap (sectionOf? name ∘ fun s => (s.fullName name, s.value)) =
      sections.filterMap some := List.filterMap_congr hread
  rwa [hall, List.filterMap_some] at hp

/-- Each parameter can be read if the sections have few digits and a charset that is basic. -/
theorem isCombinable (h : HasSections name sections written) (hn : IsName name)
    (hd : ∀ s ∈ sections, (Nat.toDigits 10 s.index).length ≤ maxIntegerDigits)
    (hb : SectionsBasic sections) : IsCombinable written := by
  intro entry hm base form he
  cases form with
  | plain => trivial
  | extended =>
    obtain ⟨s, -, -, -, hf⟩ := h.exists_section hn hm he (by simp)
    cases hf
  | numbered digits starred =>
    obtain ⟨s, hs, rfl, -, hf⟩ := h.exists_section hn hm he (by simp)
    obtain ⟨rfl, rfl⟩ := Form.numbered.inj hf
    refine ⟨hd s hs, fun hx h0 => hb s hs ?_ hx⟩
    rwa [numberOf_toDigits (hd s hs)] at h0

/-- The parameters are not refused if the sections can be joined. -/
theorem not_refused (h : HasSections name sections written) (hn : IsName name)
    (hi : (sections.map (·.index)).Nodup)
    (hd : ∀ s ∈ sections, (Nat.toDigits 10 s.index).length ≤ maxIntegerDigits)
    (hb : SectionsBasic sections) {text : Text} (hj : joinSections name sections = .ok text) :
    ¬ (RepeatsNumber written ∨ LacksNumber written ∨ StatesUnknownCharset written) := by
  have hp := h.sectionsUnder_perm hn hd
  obtain ⟨hcomplete, hknown⟩ := (exists_joinSections_iff hi hb name).mp ⟨text, hj⟩
  -- under the name are the sections, and under any other none, so nothing is wrong with any
  have hall (base : Text) : ((sectionsUnder base written).map (·.index)).Nodup ∧
      (∃ k, ∀ i, i ∈ (sectionsUnder base written).map (·.index) ↔ i < k) ∧
      ∀ s ∈ sectionsUnder base written, s.index = 0 → s.extended = true →
        ¬ StatesUnknown (splitCharset s.value).1 := by
    by_cases hbase : base = name
    · subst hbase
      exact ⟨(hp.map (·.index)).nodup_iff.mpr hi,
        by simpa only [(hp.map (·.index)).mem_iff] using hcomplete,
        by simpa only [hp.mem_iff] using hknown⟩
    · rw [h.sectionsUnder_eq_nil hn hbase]
      exact ⟨List.nodup_nil, ⟨0, by simp⟩, by simp⟩
  rintro (⟨base, hbad⟩ | ⟨base, hbad⟩ | ⟨base, ⟨value, hm, -⟩ | ⟨s, hs, h0, hx, hu⟩⟩)
  · exact hbad (hall base).1
  · exact hbad (hall base).2.1
  · rw [h.valuesUnder_eq_nil hn] at hm
    cases hm
  · exact (hall base).2.2 s hs h0 hx hu

/-- **Sections that can be joined are what the parameter comes to**, whatever plain parameters stand
around them. -/
theorem exists_combine (h : HasSections name sections written) (hn : IsName name)
    (hi : (sections.map (·.index)).Nodup)
    (hd : ∀ s ∈ sections, (Nat.toDigits 10 s.index).length ≤ maxIntegerDigits)
    (hne : sections ≠ []) (hb : SectionsBasic sections) {text : Text}
    (hj : joinSections name sections = .ok text) {settings : Settings}
    (hs : settings.decodeEncodedWords = false) :
    ∃ params, (combine settings written).result = .ok params ∧ params.find? name = some text := by
  have hp := h.sectionsUnder_perm hn hd
  obtain ⟨params, hparams⟩ := ((h.isCombinable hn hd hb).exists_combine_iff settings).mpr
    (h.not_refused hn hi hd hb hj)
  have hne' : sectionsUnder name written ≠ [] := fun he => hne (he ▸ hp).symm.eq_nil
  have hv := (values_of_combine hs hparams).2 name
  rw [valueUnder, if_pos hne', joinSections_perm hp hi, hj] at hv
  obtain ⟨found, hf, he⟩ := Option.map_eq_some_iff.mp hv
  exact ⟨params, hparams, by rw [hf, Except.ok.inj he]⟩

end HasSections

/-! ## Headers -/

theorem length_toDigits_of_mem_literalSections
    (hl : (Nat.toDigits 10 texts.length).length ≤ maxIntegerDigits) {s : Section}
    (hs : s ∈ literalSections value texts) :
    (Nat.toDigits 10 s.index).length ≤ maxIntegerDigits := by
  have hm : s.index ∈ (literalSections value texts).map (·.index) := List.mem_map_of_mem hs
  rw [map_index_literalSections, List.mem_range] at hm
  exact length_toDigits_le (Nat.le_of_lt_succ hm) (by decide) hl

/-- **When texts in sections are used literally.** In a header with a parameter in sections, of
which section 0 is extended and states no charset and the others are not extended, in any order and
among any plain parameters, the value of the parameter is the decoded text of section 0 and then the
texts of the others. These are as they were exactly if all their characters have code points below
256: any other character is a question mark. -/
theorem parse_literalSections {settings : Settings} (hd : settings.decodeEncodedWords = false)
    (hn : IsName name) (hc : LacksCharset value body)
    (hl : (Nat.toDigits 10 texts.length).length ≤ maxIntegerDigits) {ps : List WrittenParameter}
    (hp : ∀ p ∈ ps, p.IsReadable)
    (hb : ∀ p ∈ ps, p.IsEmptyBare → ∀ q ∈ ps, q.separator.head? = some ';')
    (hs : HasSections name (literalSections value texts) (ps.map WrittenParameter.pair)) :
    ∃ params, WrittenParameter.ComeTo settings ps params ∧
      params.find? name = some (Octets.toLatin1 (Percent.decode body) ++
        texts.flatten.map throughLatin1) ∧
      (params.find? name = some (Octets.toLatin1 (Percent.decode body) ++ texts.flatten) ↔
        ∀ text ∈ texts, ∀ c ∈ text, c.toNat < 0x100) := by
  have hnodup : ((literalSections value texts).map (·.index)).Nodup := by
    rw [map_index_literalSections]
    exact List.nodup_range
  obtain ⟨params, hparams, hfind⟩ := hs.exists_combine hn hnodup
    (fun s hm => length_toDigits_of_mem_literalSections hl hm) (List.cons_ne_nil _ _)
    (sectionsBasic_literalSections hc texts) (joinSections_literalSections hc name texts) hd
  refine ⟨params, WrittenParameter.comeTo_of_combine hp hb hparams, hfind, ?_⟩
  rw [hfind, Option.some.injEq, List.append_cancel_left_eq, map_throughLatin1_eq_iff,
    List.forall_mem_flatten]

/-- Sections out of order, with an empty charset and a plain parameter among them: what Latin 1 has
is kept. -/
theorem parse_literalSections_of_latin1 :
    ∃ params : Table Text,
      (parseDisposition { decodeEncodedWords := false }
        ("Attachment; filename*1=\"é¤ \"; name=x".toList ++
          "; FileName*0*=''a%20%E9; filename*2=\"\"".toList)).result =
          .ok ⟨"attachment".toList, params⟩ ∧
      params.find? "filename".toList = some "a éé¤ ".toList := by
  obtain ⟨params, hparse, -, hliteral⟩ := @parse_literalSections "''a%20%E9".toList
    "a%20%E9".toList "filename".toList ["é¤ ".toList, []] { decodeEncodedWords := false } rfl
    (by decide +kernel) (@LacksCharset.empty [] _ (by decide)) (by decide)
    [⟨"; ".toList, "filename*1".toList, "é¤ ".toList, true⟩,
      ⟨"; ".toList, "name".toList, "x".toList, false⟩,
      ⟨"; ".toList, "FileName*0*".toList, "''a%20%E9".toList, false⟩,
      ⟨"; ".toList, "filename*2".toList, [], true⟩]
    (by decide) (fun _ _ _ => by decide) (by unfold HasSections; decide +kernel)
  have hprimary : Text.lower "Attachment".toList = "attachment".toList := by decide +kernel
  have hvalue : Octets.toLatin1 (Percent.decode "a%20%E9".toList) ++
      ["é¤ ".toList, []].flatten = "a éé¤ ".toList := by decide +kernel
  refine ⟨params, ?_, hvalue ▸ hliteral.mpr (by decide)⟩
  rw [← hprimary]
  exact hparse.disposition "Attachment".toList (by decide)

/-- A character that is not in Latin 1 becomes a question mark. -/
theorem parseDisposition_of_euroSection :
    LacksCharset "a".toList "a".toList ∧ NoBreak "€.txt".toList ∧
      (parseDisposition { decodeEncodedWords := false }
        "attachment; filename*0*=a; filename*1=\"€.txt\"".toList).result =
          .ok ⟨"attachment".toList, [("filename".toList, "a?.txt".toList)]⟩ := by
  have hn : IsName "filename".toList := by decide +kernel
  have hc : LacksCharset "a".toList "a".toList := .unmarked (by decide)
  have hj : joinSections "filename".toList (literalSections "a".toList ["€.txt".toList]) =
      .ok "a?.txt".toList := by
    rw [joinSections_literalSections hc]
    decide +kernel
  have hprimary : Text.lower "attachment".toList = "attachment".toList := by decide +kernel
  refine ⟨hc, by decide, ?_⟩
  have hcombine := @combine_sections _ { decodeEncodedWords := false } _ hn _ (by decide)
    (by decide) (by decide) hj (by decide)
  have h := @Chunk.parseDisposition_flatMap_parameter _ _ "attachment".toList _ _ (by decide) hn
    (by decide +kernel) hcombine
  rw [hprimary] at h
  exact h

end MailScreen.Header
