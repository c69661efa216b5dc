import MailScreen.Attachment.Extraction
import MailScreen.Proofs.Header.Unusable

/-!
# Containment of header errors

Whatever is wrong with the headers of a part is meant to stay with the part: a header that cannot be
read says nothing and counts as one error, and the other parts are searched as if it were well
formed. `Attachment.recordOf?` says so without any failure in it. **A search comes to just that
exactly if no part has an unusable header** (`Extraction.containsFaults_iff`), one that is reached
by reading and asks for a charset or a number that cannot be used. Such a header ends the search
(`Extraction.continueFrom_fault`), and the parts after it are not looked at
(`Extraction.ofParts_of_transform`).
-/
namespace MailScreen

open Header

/-- A part with a Content-Disposition or a Content-Type that cannot be used. -/
def Part.Unusable (part : Part) : Prop :=
  (∃ raw, part.header? "content-disposition".toList = some raw ∧ UnusableDisposition raw) ∨
    ∃ raw, part.header? "content-type".toList = some raw ∧ UnusableContentType raw

namespace Attachment

/-! ## What a part comes to if its errors stay with it -/

/-- A structured header with its errors absorbed: whatever is wrong with it, it says nothing and
counts as one error. -/
def absorb (parse : Text → Noted HeaderFault StructuredHeader) (raw : Option Text) :
    HeaderReading :=
  match raw with
  | none => {}
  | some text =>
    if Text.isAllBlank text then {}
    else
      match (parse text).result with
      | .ok header => { value := header.value, params := header.params }
      | .error _ => { errors := 1 }

/-- A transfer encoding and how many errors it counts as. -/
def encodingOf (raw : Option Text) : Text × Nat :=
  match raw with
  | none => ([], 0)
  | some text =>
    let encoding := Text.dropEndWhile (fun c => c == '\r' || c == '\n') text
    (encoding, if encoding.isEmpty || isKnownEncoding encoding then 0 else 1)

/-- The record of a part with the errors of its headers absorbed and counted. -/
def recordOf? (settings : Settings) (part : Part) (index : Nat) : Option AttachmentRecord :=
  let disposition := absorb (parseDisposition settings) (part.header? "content-disposition".toList)
  let type := absorb (parseContentType settings) (part.header? "content-type".toList)
  let (encoding, encodingErrors) := encodingOf (part.header? "content-transfer-encoding".toList)
  let name := fileName disposition type
  if name.isEmpty && disposition.value ≠ "attachment".toList then none
  else
    some {
      name := name
      extension := FileName.extension name
      mimeType := type.value
      effectiveType := if FileName.isWebPage name then "text/html".toList else type.value
      charset := (type.params.find? "charset".toList).getD []
      disposition := disposition.value
      encoding := encoding
      mimeErrors := ((disposition.errors + type.errors + encodingErrors : Nat) : Int)
      partIndex := (index : Int) }

/-- The records of parts that are numbered from `index` on. -/
def recordsOf (settings : Settings) (index : Nat) (parts : List Part) : List AttachmentRecord :=
  (parts.zipIdx index).filterMap fun (part, i) => recordOf? settings part i

/-! ## What is absorbed -/

section

variable {parse : Text → Noted HeaderFault StructuredHeader} {text : Text}

/-- A blank header says nothing. -/
theorem absorb_of_isAllBlank (hb : Text.isAllBlank text = true) :
    absorb parse (some text) = {} := by
  simp only [absorb, hb, if_true]

/-- A header that is read says what was read. -/
theorem absorb_of_ok {header : StructuredHeader} (hb : Text.isAllBlank text = false)
    (h : (parse text).result = .ok header) :
    absorb parse (some text) = { value := header.value, params := header.params } := by
  simp only [absorb, hb, Bool.false_eq_true, if_false, h]

/-- A header that is not read says nothing and counts as an error. -/
theorem absorb_of_error {fault : HeaderFault} (hb : Text.isAllBlank text = false)
    (h : (parse text).result = .error fault) : absorb parse (some text) = { errors := 1 } := by
  simp only [absorb, hb, Bool.false_eq_true, if_false, h]

/-- A header says nothing, or counts as an error, or says what is read. -/
theorem absorb_cases (parse : Text → Noted HeaderFault StructuredHeader) (raw : Option Text) :
    absorb parse raw = {} ∨ absorb parse raw = { errors := 1 } ∨
      ∃ text header, raw = some text ∧ (parse text).result = .ok header ∧
        absorb parse raw = { value := header.value, params := header.params } := by
  cases raw with
  | none => exact .inl rfl
  | some text =>
    cases hb : Text.isAllBlank text with
    | true => exact .inl (absorb_of_isAllBlank hb)
    | false =>
      cases hp : (parse text).result with
      | ok header => exact .inr (.inr ⟨text, header, rfl, hp, absorb_of_ok hb hp⟩)
      | error fault => exact .inr (.inl (absorb_of_error hb hp))

/-- The value of a header that is absorbed is empty, or that of a header that is read. -/
theorem value_absorb_cases (parse : Text → Noted HeaderFault StructuredHeader)
    (raw : Option Text) :
    (absorb parse raw).value = [] ∨ ∃ text header, raw = some text ∧
      (parse text).result = .ok header ∧ (absorb parse raw).value = header.value := by
  rcases absorb_cases parse raw with h | h | ⟨text, header, hr, hp, h⟩
  · exact .inl (by rw [h])
  · exact .inl (by rw [h])
  · exact .inr ⟨text, header, hr, hp, by rw [h]⟩

end

theorem recordsOf_cons (settings : Settings) (index : Nat) (part : Part) (rest : List Part) :
    recordsOf settings index (part :: rest) =
      (recordOf? settings part index).toList ++ recordsOf settings (index + 1) rest := by
  unfold recordsOf
  rw [List.zipIdx_cons, List.filterMap_cons]
  cases h : recordOf? settings part index <;> simp only [h] <;> rfl

/-- The records that are added are kept in order. -/
theorem records_foldl_add (known : Attachments) (records : List AttachmentRecord) :
    (records.foldl Attachments.add known).records = known.records ++ records := by
  induction records generalizing known with
  | nil => exact (List.append_nil _).symm
  | cons record rest ih =>
    rw [List.foldl_cons, ih]
    exact (List.append_cons known.records record rest).symm

/-! ## Reading a part -/

/-- A header that does not fail unexpectedly is absorbed. -/
theorem readStructured_result (parse : Text → Noted HeaderFault StructuredHeader) (label : String)
    (index : Nat) {raw : Option Text}
    (h : ∀ text, raw = some text → ¬ FailsUnexpectedly (parse text).result) :
    (readStructured parse label index raw).result = .ok (absorb parse raw) := by
  unfold readStructured absorb
  cases raw with
  | none => rfl
  | some text =>
    simp only
    split
    · rfl
    · rw [Noted.result_bind, Noted.result_attempt]
      cases hp : (parse text).result with
      | ok header => rfl
      | error fault =>
        cases fault with
        | malformed error => rfl
        | charset cause => exact absurd ⟨_, hp, rfl⟩ (h text rfl)
        | number cause => exact absurd ⟨_, hp, rfl⟩ (h text rfl)

/-- A header that is not blank and fails unexpectedly is not absorbed. -/
theorem readStructured_fault (parse : Text → Noted HeaderFault StructuredHeader) (label : String)
    (index : Nat) {text : Text} (hb : Text.isAllBlank text = false)
    (h : FailsUnexpectedly (parse text).result) :
    ∃ fault, (readStructured parse label index (some text)).result = .error fault := by
  obtain ⟨fault, hp, hm⟩ := h
  unfold readStructured
  simp only [hb, Bool.false_eq_true, if_false, Noted.result_bind, Noted.result_attempt, hp]
  cases fault with
  | malformed error => cases hm
  | charset cause => exact ⟨_, rfl⟩
  | number cause => exact ⟨_, rfl⟩

theorem readEncoding_result (index : Nat) (raw : Option Text) :
    (readEncoding index raw).result = .ok (encodingOf raw) := by
  unfold readEncoding encodingOf
  cases raw with
  | none => rfl
  | some text =>
    simp only
    split
    · rfl
    · rfl

/-- **A part without unusable headers comes to its record with all errors absorbed.** -/
theorem record?_result (settings : Settings) {part : Part} (index : Nat) (h : ¬ part.Unusable) :
    (record? settings part index).result = .ok (recordOf? settings part index) := by
  have hd : ∀ raw, part.header? "content-disposition".toList = some raw →
      ¬ FailsUnexpectedly (parseDisposition settings raw).result := by
    intro raw hr hf
    exact h (.inl ⟨raw, hr, (parseDisposition_fault_iff settings raw).mp hf⟩)
  have ht : ∀ raw, part.header? "content-type".toList = some raw →
      ¬ FailsUnexpectedly (parseContentType settings raw).result := by
    intro raw hr hf
    exact h (.inr ⟨raw, hr, (parseContentType_fault_iff settings raw).mp hf⟩)
  unfold record? recordOf?
  simp only [Noted.result_bind, readStructured_result _ _ index hd,
    readStructured_result _ _ index ht]
  show Noted.result (if _ then _ else _) = .ok (if _ then _ else _)
  split
  · rfl
  · simp only [Noted.result_bind, readEncoding_result]
    rfl

/-- **Reading a part fails exactly if it has an unusable header.** -/
theorem record?_fault_iff (settings : Settings) (part : Part) (index : Nat) :
    (∃ fault, (record? settings part index).result = .error fault) ↔ part.Unusable := by
  constructor
  · rintro ⟨fault, h⟩
    by_contra hu
    rw [record?_result settings index hu] at h
    cases h
  · intro hu
    unfold record?
    simp only [Noted.result_bind]
    cases hd : (readStructured (parseDisposition settings) "Content-Disposition" index
      (part.header? "content-disposition".toList)).result with
    | error fault => exact ⟨fault, rfl⟩
    | ok disposition =>
      -- the Content-Disposition is not the unusable one, so it is the Content-Type
      rcases hu with ⟨raw, hr, hu⟩ | ⟨raw, hr, hu⟩
      · obtain ⟨fault, hf⟩ := readStructured_fault _ "Content-Disposition" index
          hu.isAllBlank_eq_false ((parseDisposition_fault_iff settings raw).mpr hu)
        rw [hr, hf] at hd
        cases hd
      · obtain ⟨fault, hf⟩ := readStructured_fault _ "Content-Type" index
          hu.isAllBlank_eq_false ((parseContentType_fault_iff settings raw).mpr hu)
        rw [hr, hf]
        exact ⟨fault, rfl⟩

/-- A part that is read has no unusable header, and comes to its record with all errors absorbed. -/
theorem record?_eq_ok_iff {settings : Settings} {part : Part} {index : Nat}
    {found : Option AttachmentRecord} :
    (record? settings part index).result = .ok found ↔
      ¬ part.Unusable ∧ recordOf? settings part index = found := by
  constructor
  · intro h
    have hu : ¬ part.Unusable := by
      intro hu
      obtain ⟨fault, hf⟩ := (record?_fault_iff settings part index).mpr hu
      rw [hf] at h
      cases h
    rw [record?_result settings index hu] at h
    exact ⟨hu, Except.ok.inj h⟩
  · rintro ⟨hu, rfl⟩
    exact record?_result settings index hu

end Attachment

namespace Extraction

/-! ## Searching parts -/

/-- A search of parts without unusable headers gives every part its record. -/
theorem continueFrom_result {ε : Type} (settings : Settings) {parts : List Part}
    (h : ∀ part ∈ parts, ¬ part.Unusable) (found : Attachments) (index : Nat) :
    (continueFrom settings found index parts : Noted ε Extraction).result =
      .ok { found := (Attachment.recordsOf settings index parts).foldl Attachments.add found } := by
  induction parts generalizing found index with
  | nil => rfl
  | cons part rest ih =>
    rw [List.forall_mem_cons] at h
    simp only [continueFrom, Noted.result_bind, Noted.result_attempt,
      Attachment.record?_result settings index h.1]
    rw [Attachment.recordsOf_cons]
    cases Attachment.recordOf? settings part index with
    | none => exact ih h.2 found (index + 1)
    | some record => exact ih h.2 (found.add record) (index + 1)

/-- A search is one from place zero; what it notes at its end changes nothing. -/
theorem ofParts_eq {ε : Type} (settings : Settings) (known : Attachments) (parts : List Part) :
    (ofParts settings known parts : Noted ε Extraction).result =
      (continueFrom settings known 0 parts : Noted ε Extraction).result := by
  unfold ofParts
  rw [Noted.result_bind]
  cases (continueFrom settings known 0 parts : Noted ε Extraction).result with
  | error e => rfl
  | ok extraction =>
    show Noted.result (if extraction.fault.isNone = true then _ else _) = _
    split
    · rfl
    · rfl

theorem ofParts_result {ε : Type} (settings : Settings) {parts : List Part}
    (h : ∀ part ∈ parts, ¬ part.Unusable) (known : Attachments) :
    (ofParts settings known parts : Noted ε Extraction).result =
      .ok { found := (Attachment.recordsOf settings 0 parts).foldl Attachments.add known } := by
  rw [ofParts_eq, continueFrom_result settings h]

/-- A search ends early at the first part with an unusable header. -/
theorem continueFrom_fault {ε : Type} (settings : Settings) {parts : List Part}
    (h : ∃ part ∈ parts, part.Unusable) (found : Attachments) (index : Nat) :
    ∃ extraction, (continueFrom settings found index parts : Noted ε Extraction).result =
      .ok extraction ∧ extraction.fault ≠ none := by
  induction parts generalizing found index with
  | nil =>
    obtain ⟨part, hp, -⟩ := h
    cases hp
  | cons part rest ih =>
    simp only [continueFrom, Noted.result_bind, Noted.result_attempt]
    by_cases hu : part.Unusable
    · obtain ⟨fault, hf⟩ := (Attachment.record?_fault_iff settings part index).mpr hu
      rw [hf]
      exact ⟨_, rfl, Option.some_ne_none fault⟩
    · obtain ⟨other, ho, hother⟩ := h
      have hrest : ∃ part ∈ rest, part.Unusable := by
        rcases List.mem_cons.mp ho with rfl | ho
        · exact absurd hother hu
        · exact ⟨other, ho, hother⟩
      rw [Attachment.record?_result settings index hu]
      cases Attachment.recordOf? settings part index with
      | none => exact ih hrest found (index + 1)
      | some record => exact ih hrest (found.add record) (index + 1)

/-- A search that ends without a fault is one of parts without unusable headers, and comes to the
records of all of them. -/
theorem ofParts_eq_ok_iff {ε : Type} {settings : Settings} {parts : List Part}
    {known found : Attachments} :
    (ofParts settings known parts : Noted ε Extraction).result = .ok { found := found } ↔
      (∀ part ∈ parts, ¬ part.Unusable) ∧
        found = (Attachment.recordsOf settings 0 parts).foldl Attachments.add known := by
  rw [ofParts_eq]
  constructor
  · intro h
    have hu : ∀ part ∈ parts, ¬ part.Unusable := by
      intro part hp hu
      obtain ⟨extraction, hc, hf⟩ := continueFrom_fault (ε := ε) settings ⟨part, hp, hu⟩ known 0
      obtain rfl := Except.ok.inj (hc.symm.trans h)
      exact hf rfl
    rw [continueFrom_result settings hu] at h
    exact ⟨hu, (congrArg Extraction.found (Except.ok.inj h)).symm⟩
  · rintro ⟨hu, rfl⟩
    exact continueFrom_result settings hu known 0

/-- **A search comes to the records of all parts exactly if none has an unusable header.** -/
theorem ofParts_result_iff {ε : Type} (settings : Settings) (parts : List Part)
    (known : Attachments) :
    (ofParts settings known parts : Noted ε Extraction).result =
        .ok { found := (Attachment.recordsOf settings 0 parts).foldl Attachments.add known } ↔
      ∀ part ∈ parts, ¬ part.Unusable :=
  ofParts_eq_ok_iff.trans (and_iff_left rfl)

/-- **A search in which header errors are contained**: only malformed headers fail, and the search
comes to the records of all parts with those errors absorbed and counted. -/
structure ContainsFaults (settings : Settings) (parts : List Part) : Prop where
  /-- Reading a Content-Disposition fails only by finding it malformed. -/
  disposition : ∀ part ∈ parts, ∀ raw fault,
    part.header? "content-disposition".toList = some raw →
    (parseDisposition settings raw).result = .error fault → fault.isMalformed = true
  /-- Reading a Content-Type fails only by finding it malformed. -/
  contentType : ∀ part ∈ parts, ∀ raw fault,
    part.header? "content-type".toList = some raw →
    (parseContentType settings raw).result = .error fault → fault.isMalformed = true
  /-- The search returns normally with the record of every part that has one. -/
  complete : ∀ (ε : Type) known, (ofParts settings known parts : Noted ε Extraction).result =
    .ok { found := (Attachment.recordsOf settings 0 parts).foldl Attachments.add known }

/-- **Header errors are contained exactly if no part has an unusable header**, under any
settings. -/
theorem containsFaults_iff (settings : Settings) (parts : List Part) :
    ContainsFaults settings parts ↔ ∀ part ∈ parts, ¬ part.Unusable := by
  constructor
  · -- that the search is complete says as much on its own
    intro h
    exact (ofParts_result_iff settings parts {}).mp (h.complete Unit {})
  · intro h
    refine ⟨?_, ?_, ?_⟩
    · intro part hp raw fault hr hf
      by_contra hm
      rw [Bool.not_eq_true] at hm
      exact h part hp (.inl ⟨raw, hr, (parseDisposition_fault_iff settings raw).mp ⟨fault, hf, hm⟩⟩)
    · intro part hp raw fault hr hf
      by_contra hm
      rw [Bool.not_eq_true] at hm
      exact h part hp (.inr ⟨raw, hr, (parseContentType_fault_iff settings raw).mp ⟨fault, hf, hm⟩⟩)
    · exact fun ε known => (ofParts_result_iff settings parts known).mpr h

/-- A file name in a charset that is the name of a transformation ends the search, and the next
part, which is an attachment, is not found. -/
theorem ofParts_of_transform :
    (ofParts {} {} [
        Part.ofHeaders [("Content-Disposition".toList, "attachment; filename*=hex''41".toList)],
        Part.ofHeaders [("Content-Disposition".toList, "attachment; filename=a.txt".toList)]] :
      Noted HeaderFault Extraction).result =
      .ok { found := {}, fault := some (.charset (.notText "hex".toList)) } := by
  decide +kernel

end Extraction
end MailScreen
