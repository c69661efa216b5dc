import MailScreen.Proofs.Attachment.WebPages
import MailScreen.Proofs.Header.Leftovers

/-!
# The form of records

Whatever the headers of a part are, and their sender chooses them, a record has a form
(`AttachmentRecord.WellFormed`): there is a name or a disposition that asks for one, the type is two
words with a slash between them, the extension is a word, and of three headers at most two count as
errors. It follows from what tokens and words are made of and from what lower case brings in
(`Attachment.wellFormed_of_record?`).
-/
namespace MailScreen

open Header

/-- The characters that are in no type and no disposition: the space and the control characters of
ASCII, and the special characters of a structured header other than the slash. -/
def IsReserved (c : Char) : Prop :=
  c.toNat ≤ 0x20 ∨ c.toNat = 0x7F ∨
    c ∈ ['(', ')', '<', '>', '@', ',', ';', ':', '\\', '"', '[', ']', '?', '=']

/-- **A record of the form that all have.** -/
structure AttachmentRecord.WellFormed (record : AttachmentRecord) : Prop where
  /-- There is a name, or the part asks to be an attachment. -/
  named : record.name ≠ [] ∨ record.disposition = "attachment".toList
  /-- The type is empty, or there is one slash in it, and something on both sides. -/
  mimeType : record.mimeType = [] ∨ ∃ kind subtype, kind ≠ [] ∧ subtype ≠ [] ∧
    '/' ∉ kind ∧ '/' ∉ subtype ∧ record.mimeType = kind ++ '/' :: subtype
  /-- There are no reserved characters in the type. -/
  plain_mimeType : ∀ c ∈ record.mimeType, ¬ IsReserved c
  /-- There are none in the disposition. -/
  plain_disposition : ∀ c ∈ record.disposition, ¬ IsReserved c
  /-- There are no dots, commas, slashes or blanks in the extension. -/
  extension : ∀ c ∈ record.extension, c ≠ '.' ∧ c ≠ ',' ∧ c ≠ '/' ∧ isBlank c = false
  /-- Of ASCII, there are just letters, numerals and low lines in it. -/
  word_extension : ∀ c ∈ record.extension, c.toNat < 0x80 → isWord c = true
  /-- The record counts as what its type says or as a web page. -/
  effectiveType : record.effectiveType = record.mimeType ∨
    record.effectiveType = "text/html".toList
  /-- The encoding does not end in a line break. -/
  encoding : ∀ c ∈ record.encoding.getLast?, c ≠ '\r' ∧ c ≠ '\n'
  /-- There are no more than two errors. -/
  mimeErrors : 0 ≤ record.mimeErrors ∧ record.mimeErrors ≤ 2

/-! ## Characters -/

/-- Lower case brings in no reserved character. -/
theorem IsSmall.not_isReserved {c : Char} (h : IsSmall c) : ¬ IsReserved c := by
  have hlist : ∀ c ∈ ['(', ')', '<', '>', '@', ',', ';', ':', '\\', '"', '[', ']', '?', '='],
      c.toNat < 0x61 := by decide
  rintro (hr | hr | hr)
  · rcases h with h | h <;> omega
  · rcases h with h | h <;> omega
  · have hc := hlist c hr
    rcases h with h | h <;> omega

/-- A character of tokens is not reserved. -/
theorem Header.not_isReserved_of_isTokenChar {c : Char} (h : isTokenChar c = true) :
    ¬ IsReserved c := by
  have hlist : ∀ c ∈ ['(', ')', '<', '>', '@', ',', ';', ':', '\\', '"', '[', ']', '?', '='],
      isTokenChar c = false := by decide
  rintro (hr | hr | hr)
  · simp only [isTokenChar, Bool.and_eq_true, decide_eq_true_eq] at h
    omega
  · simp only [isTokenChar, Bool.and_eq_true, decide_eq_true_eq] at h
    omega
  · rw [hlist c hr] at h
    cases h

/-- The code points of blanks. -/
def blankCodes : List Nat :=
  [0x9, 0xA, 0xB, 0xC, 0xD, 0x1C, 0x1D, 0x1E, 0x1F, 0x20, 0x85, 0xA0, 0x1680, 0x2000, 0x2001,
    0x2002, 0x2003, 0x2004, 0x2005, 0x2006, 0x2007, 0x2008, 0x2009, 0x200A, 0x2028, 0x2029, 0x202F,
    0x205F, 0x3000]

/-- No blank is a word character. -/
theorem isBlank_of_isWord {c : Char} (h : isWord c = true) : isBlank c = false := by
  have hcodes : ∀ n ∈ blankCodes, isWordCode n = false := by decide +kernel
  rw [Bool.eq_false_iff]
  intro hb
  have hm : c.toNat ∈ blankCodes := by
    simp only [isBlank, Bool.or_eq_true, Bool.and_eq_true, decide_eq_true_eq, beq_iff_eq] at hb
    simp only [blankCodes, List.mem_cons, List.not_mem_nil, or_false]
    omega
  rw [isWord, hcodes _ hm] at h
  cases h

/-- A word in lower case has no blanks in it, and of ASCII just numerals, letters and the low
line. -/
theorem FileName.of_mem_extension {name : Text} {c : Char} (h : c ∈ extension name) :
    isBlank c = false ∧ (c.toNat < 0x80 → isWord c = true) := by
  rcases isWord_or_isSmall_of_mem_extension h with hw | hs
  · exact ⟨isBlank_of_isWord hw, fun _ => hw⟩
  · rcases hs with hs | ⟨hwide, hb⟩
    · have hsmall : ∀ n < 0x80, 0x61 ≤ (Char.ofNat n).toNat → (Char.ofNat n).toNat ≤ 0x7A →
          isWord (Char.ofNat n) = true := by decide
      have hw : isWord c = true := by
        have hc := Ascii.forall_of_lt (p := fun c => 0x61 ≤ c.toNat → c.toNat ≤ 0x7A →
          isWord c = true) hsmall (c := c) (by omega)
        exact hc hs.1 hs.2
      exact ⟨isBlank_of_isWord hw, fun _ => hw⟩
    · exact ⟨hb, fun hlt => absurd hwide (by omega)⟩

/-- There are no dots, commas, slashes or blanks in an extension. -/
theorem FileName.ne_of_mem_extension {name : Text} {c : Char} (h : c ∈ extension name) :
    c ≠ '.' ∧ c ≠ ',' ∧ c ≠ '/' ∧ isBlank c = false := by
  obtain ⟨hb, hascii⟩ := of_mem_extension h
  have hmarks : ∀ d ∈ ['.', ',', '/'], d.toNat < 0x80 ∧ isWord d = false := by decide
  have hne : ∀ d ∈ ['.', ',', '/'], c ≠ d := by
    rintro d hd rfl
    obtain ⟨hlt, hw⟩ := hmarks c hd
    rw [hascii hlt] at hw
    cases hw
  exact ⟨hne _ (by decide), hne _ (by decide), hne _ (by decide), hb⟩

/-! ## Primary values -/

namespace Header

variable {settings : Settings} {raw : Text} {header : StructuredHeader}

/-- The lower case of a token has no reserved characters and no slash in it. -/
theorem IsTokenRun.plain_image {t image : Text} (ht : IsTokenRun t)
    (hi : ∀ c ∈ image, c ∈ t ∨ IsSmall c) : ∀ c ∈ image, ¬ IsReserved c ∧ c ≠ '/' := by
  intro c hc
  rcases hi c hc with hm | hs
  · refine ⟨not_isReserved_of_isTokenChar (ht.chars c hm), ?_⟩
    rintro rfl
    exact absurd (ht.chars _ hm) (by decide)
  · refine ⟨hs.not_isReserved, ?_⟩
    rintro rfl
    exact absurd hs (by decide)

/-- A disposition that is read is a token in lower case. -/
theorem plain_of_parseDisposition (h : (parseDisposition settings raw).result = .ok header) :
    ∀ c ∈ header.value, ¬ IsReserved c := by
  unfold parseDisposition at h
  simp only at h
  split at h
  · cases h
  · rename_i token rest ht
    have hrun := (takeToken?_eq_some_iff.mp ht).1
    rw [(finish_eq_ok_iff.mp h).2.2]
    exact fun c hc => (hrun.plain_image (fun d hd => Text.mem_lower hd) c hc).1

/-- A content type is two tokens. -/
theorem of_takeContentType? {t type rest : Text} (h : takeContentType? t = some (type, rest)) :
    ∃ kind subtype, IsTokenRun kind ∧ IsTokenRun subtype ∧ type = kind ++ '/' :: subtype := by
  obtain ⟨⟨kind, after⟩, hk, h⟩ := Option.bind_eq_some_iff.mp h
  simp only at h
  split at h
  · obtain ⟨⟨subtype, left⟩, hs, h⟩ := Option.bind_eq_some_iff.mp h
    obtain ⟨rfl, -⟩ := Prod.mk.inj (Option.some.inj h)
    exact ⟨kind, subtype, (takeToken?_eq_some_iff.mp hk).1, (takeToken?_eq_some_iff.mp hs).1, rfl⟩
  · cases h

/-- **A content type that is read is two words with a slash between them**, without reserved
characters. -/
theorem form_of_parseContentType (h : (parseContentType settings raw).result = .ok header) :
    ∃ kind subtype, kind ≠ [] ∧ subtype ≠ [] ∧ (∀ c ∈ kind, ¬ IsReserved c ∧ c ≠ '/') ∧
      (∀ c ∈ subtype, ¬ IsReserved c ∧ c ≠ '/') ∧ header.value = kind ++ '/' :: subtype := by
  unfold parseContentType at h
  simp only at h
  split at h
  · cases h
  · rename_i type rest ht
    obtain ⟨kind, subtype, hk, hs, rfl⟩ := of_takeContentType? ht
    -- lower case looks at what is around a character, but goes from left to right
    obtain ⟨first, hfn, hfm, hfirst⟩ := Text.exists_lowerAfter_append [] kind ('/' :: subtype)
    obtain ⟨second, hsn, hsm, hsecond⟩ :=
      Text.exists_lowerAfter_append ('/' :: (kind.reverse ++ [])) subtype []
    rw [List.append_nil subtype, Text.lowerAfter, List.append_nil second] at hsecond
    have hslash (before : Text) :
        Text.lowerAfter before ('/' :: subtype) = '/' :: Text.lowerAfter ('/' :: before) subtype :=
      rfl
    refine ⟨first, second, fun h => hk.ne_nil (hfn h), fun h => hs.ne_nil (hsn h),
      hk.plain_image hfm, hs.plain_image hsm, ?_⟩
    rw [(finish_eq_ok_iff.mp h).2.2, Text.lower, hfirst, hslash, hsecond]

end Header

/-! ## Records -/

namespace Attachment

variable {settings : Settings} {part : Part} {index : Nat} {record : AttachmentRecord}

/-- A header that counts as an error says nothing. -/
theorem absorb_of_errors {parse : Text → Noted HeaderFault StructuredHeader} {raw : Option Text}
    (h : (absorb parse raw).errors ≠ 0) : absorb parse raw = { errors := 1 } := by
  rcases absorb_cases parse raw with he | he | ⟨_, _, _, _, he⟩
  · rw [he] at h
    exact absurd rfl h
  · exact he
  · rw [he] at h
    exact absurd rfl h

theorem encodingOf_getLast? (raw : Option Text) :
    ∀ c ∈ (encodingOf raw).1.getLast?, c ≠ '\r' ∧ c ≠ '\n' := by
  intro c hc
  cases raw with
  | none => cases hc
  | some text =>
    have hl : ((text.reverse.dropWhile fun c => c == '\r' || c == '\n').reverse).getLast? =
      some c := hc
    rw [List.getLast?_reverse] at hl
    have hd := List.head?_dropWhile_not (fun c => c == '\r' || c == '\n') text.reverse
    rw [hl] at hd
    simpa using hd

/-- The type of a record is empty or two words with a slash between them, without reserved
characters. -/
theorem form_typeReading (settings : Settings) (part : Part) :
    (part.typeReading settings).value = [] ∨ ∃ kind subtype, kind ≠ [] ∧ subtype ≠ [] ∧
      (∀ c ∈ kind, ¬ IsReserved c ∧ c ≠ '/') ∧ (∀ c ∈ subtype, ¬ IsReserved c ∧ c ≠ '/') ∧
      (part.typeReading settings).value = kind ++ '/' :: subtype := by
  unfold Part.typeReading
  rcases value_absorb_cases (parseContentType settings) (part.header? "content-type".toList)
    with h | ⟨raw, header, -, hp, h⟩
  · exact .inl h
  · rw [h]
    exact .inr (form_of_parseContentType hp)

/-- So there are no reserved characters in the type of a record. -/
theorem plain_typeReading (settings : Settings) (part : Part) :
    ∀ c ∈ (part.typeReading settings).value, ¬ IsReserved c := by
  have hslash : ¬ IsReserved '/' := by unfold IsReserved; decide
  rcases form_typeReading settings part with h | ⟨kind, subtype, -, -, hk, hs, h⟩
  · rw [h]
    exact fun c hc => absurd hc List.not_mem_nil
  · rw [h]
    intro c hc
    rcases List.mem_append.mp hc with hc | hc
    · exact (hk c hc).1
    · rcases List.mem_cons.mp hc with rfl | hc
      · exact hslash
      · exact (hs c hc).1

/-- The disposition of a record has no reserved characters in it. -/
theorem plain_dispositionReading (settings : Settings) (part : Part) :
    ∀ c ∈ (part.dispositionReading settings).value, ¬ IsReserved c := by
  unfold Part.dispositionReading
  rcases value_absorb_cases (parseDisposition settings)
    (part.header? "content-disposition".toList) with h | ⟨raw, header, -, hp, h⟩
  · rw [h]
    exact fun c hc => absurd hc List.not_mem_nil
  · rw [h]
    exact plain_of_parseDisposition hp

/-- A part with a record is named or asks to be an attachment. -/
theorem named_of_record? (h : (record? settings part index).result = .ok (some record)) :
    record.name ≠ [] ∨ record.disposition = "attachment".toList := by
  have hr := (record?_eq_ok_iff.mp h).2
  unfold recordOf? at hr
  simp only at hr
  split at hr
  · cases hr
  · rename_i hn
    obtain rfl := Option.some.inj hr
    by_contra hc
    rw [not_or, not_not] at hc
    refine hn ?_
    rw [Bool.and_eq_true, List.isEmpty_iff, decide_eq_true_eq]
    exact hc

/-- A part with both structured headers malformed has no record, so of the three headers of a part
with a record at most two count as errors. -/
theorem mimeErrors_of_record? (h : (record? settings part index).result = .ok (some record)) :
    0 ≤ record.mimeErrors ∧ record.mimeErrors ≤ 2 := by
  have ht := tellsOf_of_record? h
  have hd : (part.dispositionReading settings).errors ≤ 1 := errors_absorb_le_one _
  have hc : (part.typeReading settings).errors ≤ 1 := errors_absorb_le_one _
  have he : part.encodingReading.2 ≤ 1 := encodingErrors_le_one _
  have hboth : ¬ ((part.dispositionReading settings).errors ≠ 0 ∧
      (part.typeReading settings).errors ≠ 0) := by
    rintro ⟨h1, h2⟩
    have hdisposition : part.dispositionReading settings = { errors := 1 } := absorb_of_errors h1
    have htype : part.typeReading settings = { errors := 1 } := absorb_of_errors h2
    have hn := named_of_record? h
    rw [ht.name, ht.disposition, hdisposition, htype] at hn
    exact absurd hn (by decide)
  rw [ht.mimeErrors]
  omega

/-- **Every record has the form that all have**, whatever the headers of its part are. -/
theorem wellFormed_of_record? (h : (record? settings part index).result = .ok (some record)) :
    record.WellFormed := by
  have ht := tellsOf_of_record? h
  have hplain {t : Text} (hp : ∀ c ∈ t, ¬ IsReserved c ∧ c ≠ '/') : '/' ∉ t :=
    fun hm => (hp _ hm).2 rfl
  exact {
    named := named_of_record? h
    mimeType := by
      rw [ht.mimeType]
      refine (form_typeReading settings part).imp_right ?_
      rintro ⟨kind, subtype, hkn, hsn, hk, hs, hv⟩
      exact ⟨kind, subtype, hkn, hsn, hplain hk, hplain hs, hv⟩
    plain_mimeType := ht.mimeType ▸ plain_typeReading settings part
    plain_disposition := ht.disposition ▸ plain_dispositionReading settings part
    extension := fun c hc => FileName.ne_of_mem_extension (ht.extension ▸ hc)
    word_extension := fun c hc => (FileName.of_mem_extension (ht.extension ▸ hc)).2
    effectiveType := by
      rw [effectiveType_of_record? h]
      split
      · exact .inr rfl
      · exact .inl rfl
    encoding := ht.encoding ▸ encodingOf_getLast? _
    mimeErrors := mimeErrors_of_record? h }

end Attachment
end MailScreen
