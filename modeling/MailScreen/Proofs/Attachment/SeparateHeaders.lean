import MailScreen.Proofs.Attachment.Containment

/-!
# Headers that do not depend on one another

The record of a part is put together from three headers, each of which may be absent, blank or
malformed. **What a record says of a header is what that header comes to alone**
(`AttachmentRecord.TellsOf`): a type and a charset, a disposition, an encoding, and of the errors of
the part at most one. The others may be whatever they are, so two parts with one header in common
agree on what it says, and the errors of a record are a sum over its headers
(`Attachment.told_by_each_header`).

That a header counts as an error does not even depend on the settings: these only say whether
encoded words in parameters are decoded, which never fails (`Header.parseDisposition_reads_iff`).
-/
namespace MailScreen

open Header

namespace Part

/-- What the Content-Disposition of a part comes to. -/
def dispositionReading (settings : Settings) (part : Part) : HeaderReading :=
  Attachment.absorb (parseDisposition settings) (part.header? "content-disposition".toList)

/-- What the Content-Type of a part comes to. -/
def typeReading (settings : Settings) (part : Part) : HeaderReading :=
  Attachment.absorb (parseContentType settings) (part.header? "content-type".toList)

/-- What the transfer encoding of a part comes to, and how many errors it counts as. -/
def encodingReading (part : Part) : Text × Nat :=
  Attachment.encodingOf (part.header? "content-transfer-encoding".toList)

end Part

/-- **A record that says of each header of a part what the header comes to alone.** -/
structure AttachmentRecord.TellsOf (record : AttachmentRecord) (settings : Settings)
    (part : Part) : Prop where
  /-- The name is that of the disposition, or else that of the type. -/
  name : record.name =
    Attachment.fileName (part.dispositionReading settings) (part.typeReading settings)
  /-- The extension is that of the name. -/
  extension : record.extension = FileName.extension record.name
  /-- The type is stated by the Content-Type. -/
  mimeType : record.mimeType = (part.typeReading settings).value
  /-- So is the charset. -/
  charset : record.charset = ((part.typeReading settings).params.find? "charset".toList).getD []
  /-- The disposition is stated by the Content-Disposition. -/
  disposition : record.disposition = (part.dispositionReading settings).value
  /-- The encoding is stated by the Content-Transfer-Encoding. -/
  encoding : record.encoding = part.encodingReading.1
  /-- The errors are those of the three headers. -/
  mimeErrors : record.mimeErrors = (((part.dispositionReading settings).errors +
    (part.typeReading settings).errors + part.encodingReading.2 : Nat) : Int)

namespace Attachment

/-! ## What a record says -/

theorem tellsOf_of_recordOf? {settings : Settings} {part : Part} {index : Nat}
    {record : AttachmentRecord} (h : recordOf? settings part index = some record) :
    record.TellsOf settings part := by
  unfold recordOf? at h
  simp only at h
  split at h
  · cases h
  · obtain rfl := Option.some.inj h
    exact ⟨rfl, rfl, rfl, rfl, rfl, rfl, rfl⟩

/-- **The record of a part that is read says of each header what the header comes to.** -/
theorem tellsOf_of_record? {settings : Settings} {part : Part} {index : Nat}
    {record : AttachmentRecord} (h : (record? settings part index).result = .ok (some record)) :
    record.TellsOf settings part :=
  tellsOf_of_recordOf? (record?_eq_ok_iff.mp h).2

/-! ## How many errors a header counts as -/

/-- How many errors a Content-Disposition counts as. -/
def dispositionErrors (raw : Option Text) : Nat := (absorb (parseDisposition {}) raw).errors

/-- How many errors a Content-Type counts as. -/
def typeErrors (raw : Option Text) : Nat := (absorb (parseContentType {}) raw).errors

/-- How many errors a transfer encoding counts as. -/
def encodingErrors (raw : Option Text) : Nat := (encodingOf raw).2

section

variable {parse parse' : Text → Noted HeaderFault StructuredHeader}

theorem errors_absorb_le_one (raw : Option Text) : (absorb parse raw).errors ≤ 1 := by
  rcases absorb_cases parse raw with h | h | ⟨_, _, _, _, h⟩
  · rw [h]
    exact Nat.zero_le 1
  · rw [h]
  · rw [h]
    exact Nat.zero_le 1

/-- A header that is absent or blank is no error. -/
theorem errors_absorb_of_blank {raw : Option Text}
    (h : ∀ text, raw = some text → Text.isAllBlank text = true) :
    (absorb parse raw).errors = 0 := by
  cases raw with
  | none => rfl
  | some text => rw [absorb_of_isAllBlank (h text rfl)]

/-- Two readers that read the same headers find the same errors. -/
theorem errors_absorb_congr (h : ∀ text, (∃ header, (parse text).result = .ok header) ↔
    ∃ header, (parse' text).result = .ok header) (raw : Option Text) :
    (absorb parse raw).errors = (absorb parse' raw).errors := by
  cases raw with
  | none => rfl
  | some text =>
    cases hb : Text.isAllBlank text with
    | true => rw [absorb_of_isAllBlank hb, absorb_of_isAllBlank hb]
    | false =>
      cases hp : (parse text).result with
      | ok header =>
        obtain ⟨other, ho⟩ := (h text).mp ⟨header, hp⟩
        rw [absorb_of_ok hb hp, absorb_of_ok hb ho]
      | error fault =>
        cases hp' : (parse' text).result with
        | ok other =>
          obtain ⟨header, hh⟩ := (h text).mpr ⟨other, hp'⟩
          rw [hp] at hh
          cases hh
        | error other => rw [absorb_of_error hb hp, absorb_of_error hb hp']

end

theorem encodingErrors_le_one (raw : Option Text) : encodingErrors raw ≤ 1 := by
  unfold encodingErrors encodingOf
  cases raw with
  | none => exact Nat.zero_le 1
  | some text =>
    simp only
    split
    · exact Nat.zero_le 1
    · exact Nat.le_refl 1

/-- The errors of a record are the sum of those of the headers of its part, under any settings. -/
theorem mimeErrors_eq {settings : Settings} {part : Part} {record : AttachmentRecord}
    (h : record.TellsOf settings part) :
    record.mimeErrors = ((dispositionErrors (part.header? "content-disposition".toList) +
      typeErrors (part.header? "content-type".toList) +
      encodingErrors (part.header? "content-transfer-encoding".toList) : Nat) : Int) := by
  have hd : (part.dispositionReading settings).errors =
      dispositionErrors (part.header? "content-disposition".toList) :=
    errors_absorb_congr (parseDisposition_reads_iff settings {}) _
  have ht : (part.typeReading settings).errors =
      typeErrors (part.header? "content-type".toList) :=
    errors_absorb_congr (parseContentType_reads_iff settings {}) _
  rw [h.mimeErrors, hd, ht]
  rfl

/-- Parts with one header in common have records that say the same of it. -/
theorem agree_of_tellsOf {settings : Settings} {part other : Part} {record found : AttachmentRecord}
    (h : record.TellsOf settings part) (ho : found.TellsOf settings other) :
    (part.header? "content-type".toList = other.header? "content-type".toList →
      record.mimeType = found.mimeType ∧ record.charset = found.charset) ∧
    (part.header? "content-disposition".toList = other.header? "content-disposition".toList →
      record.disposition = found.disposition) ∧
    (part.header? "content-transfer-encoding".toList =
        other.header? "content-transfer-encoding".toList →
      record.encoding = found.encoding) := by
  refine ⟨?_, ?_, ?_⟩
  · intro he
    have hr : part.typeReading settings = other.typeReading settings := by
      rw [Part.typeReading, he, Part.typeReading]
    rw [h.mimeType, h.charset, ho.mimeType, ho.charset, hr]
    exact ⟨rfl, rfl⟩
  · intro he
    rw [h.disposition, ho.disposition, Part.dispositionReading, he, Part.dispositionReading]
  · intro he
    rw [h.encoding, ho.encoding, Part.encodingReading, he, Part.encodingReading]

/-- **Each header is told on its own.** Of two parts that have records, those with one header in
common agree on what it says, whatever the other headers are and wherever the parts stand. And there
are functions of one header each, with values up to one and nothing for a structured header that is
absent or blank, of which the errors of every record are the sum. -/
theorem told_by_each_header :
    (∀ settings (part other : Part) index place record found,
      (record? settings part index).result = .ok (some record) →
      (record? settings other place).result = .ok (some found) →
      (part.header? "content-type".toList = other.header? "content-type".toList →
        record.mimeType = found.mimeType ∧ record.charset = found.charset) ∧
      (part.header? "content-disposition".toList = other.header? "content-disposition".toList →
        record.disposition = found.disposition) ∧
      (part.header? "content-transfer-encoding".toList =
          other.header? "content-transfer-encoding".toList →
        record.encoding = found.encoding)) ∧
    ∃ ofDisposition ofType ofEncoding : Option Text → Nat,
      (∀ raw, ofDisposition raw ≤ 1 ∧ ofType raw ≤ 1 ∧ ofEncoding raw ≤ 1) ∧
      (∀ raw, (∀ text, raw = some text → Text.isAllBlank text = true) →
        ofDisposition raw = 0 ∧ ofType raw = 0) ∧
      ∀ settings (part : Part) index record,
        (record? settings part index).result = .ok (some record) →
        record.mimeErrors = ((ofDisposition (part.header? "content-disposition".toList) +
          ofType (part.header? "content-type".toList) +
          ofEncoding (part.header? "content-transfer-encoding".toList) : Nat) : Int) := by
  constructor
  · intro settings part other index place record found hr ho
    exact agree_of_tellsOf (tellsOf_of_record? hr) (tellsOf_of_record? ho)
  · refine ⟨dispositionErrors, typeErrors, encodingErrors, ?_, ?_, ?_⟩
    · intro raw
      exact ⟨errors_absorb_le_one raw, errors_absorb_le_one raw, encodingErrors_le_one raw⟩
    · intro raw hb
      exact ⟨errors_absorb_of_blank hb, errors_absorb_of_blank hb⟩
    · intro settings part index record hr
      exact mimeErrors_eq (tellsOf_of_record? hr)

/-- Two parts with one type, of which one has a malformed disposition and an encoding that is not
known, and the other a disposition that is read. -/
theorem told_by_each_header_of_malformed :
    ∃ record found,
      (record? {} (Part.ofHeaders [
        ("Content-Type".toList, "text/html; charset=utf-8; name=a.htm".toList),
        ("Content-Disposition".toList, "attachment; filename*1*=b".toList),
        ("Content-Transfer-Encoding".toList, "9bit".toList)]) 0).result = .ok (some record) ∧
      (record? {} (Part.ofHeaders [
        ("Content-Disposition".toList, "attachment; filename=c.txt".toList),
        ("Content-Type".toList, "text/html; charset=utf-8; name=a.htm".toList)]) 7).result =
          .ok (some found) ∧
      record.mimeErrors = 2 ∧ found.mimeErrors = 0 ∧ record.disposition ≠ found.disposition ∧
      record.mimeType = found.mimeType ∧ record.charset = found.charset := by
  have hr : (record? {} (Part.ofHeaders [
      ("Content-Type".toList, "text/html; charset=utf-8; name=a.htm".toList),
      ("Content-Disposition".toList, "attachment; filename*1*=b".toList),
      ("Content-Transfer-Encoding".toList, "9bit".toList)]) 0).result = .ok (some {
        name := "a.htm".toList, extension := "htm".toList, mimeType := "text/html".toList,
        effectiveType := "text/html".toList, charset := "utf-8".toList,
        encoding := "9bit".toList, mimeErrors := 2 }) := by
    decide +kernel
  have hf : (record? {} (Part.ofHeaders [
      ("Content-Disposition".toList, "attachment; filename=c.txt".toList),
      ("Content-Type".toList, "text/html; charset=utf-8; name=a.htm".toList)]) 7).result =
        .ok (some {
          name := "c.txt".toList, extension := "txt".toList, mimeType := "text/html".toList,
          effectiveType := "text/html".toList, charset := "utf-8".toList,
          disposition := "attachment".toList, partIndex := 7 }) := by
    decide +kernel
  obtain ⟨hm, hc⟩ := (told_by_each_header.1 _ _ _ _ _ _ _ hr hf).1 (by decide +kernel)
  exact ⟨_, _, hr, hf, rfl, rfl, by decide, hm, hc⟩

end Attachment
end MailScreen
