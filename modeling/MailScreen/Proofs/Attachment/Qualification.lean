import MailScreen.Proofs.Attachment.SeparateHeaders

/-!
# Parts that are attachments

A part is an attachment if it has a name or its disposition says so. The name is the file name in
the Content-Disposition, be it empty, if that header is read and has one, and else the name in the
Content-Type, if that is read and has one (`Part.resolvedName`). **A search that ends without a
fault adds one record for each such part, and none for any other**, in the order of the parts and
with their places (`Extraction.ofParts_adds_qualifying`).

Whether a header is read is asked of the header alone: one that is absent or blank is not read, and
neither is one that is malformed.
-/
namespace MailScreen

open Header

namespace Part

/-- The Content-Disposition of a part, if it has one that can be read. -/
def disposition? (settings : Settings) (part : Part) : Option StructuredHeader :=
  (part.header? "content-disposition".toList).bind fun raw =>
    (parseDisposition settings raw).result.toOption

/-- The Content-Type of a part, if it has one that can be read. -/
def contentType? (settings : Settings) (part : Part) : Option StructuredHeader :=
  (part.header? "content-type".toList).bind fun raw =>
    (parseContentType settings raw).result.toOption

/-- The name of a part: the file name in its disposition, even an empty one, or else the name in its
type, or else the empty name. -/
def resolvedName (settings : Settings) (part : Part) : Text :=
  match (part.disposition? settings).bind (·.params.find? "filename".toList) with
  | some name => name
  | none =>
    match (part.contentType? settings).bind (·.params.find? "name".toList) with
    | some name => name
    | none => []

/-- A part that is an attachment: it has a name, or its disposition is that of one. -/
def Qualifies (settings : Settings) (part : Part) : Prop :=
  part.resolvedName settings ≠ [] ∨
    (part.disposition? settings).map (·.value) = some "attachment".toList

instance (settings : Settings) (part : Part) : Decidable (part.Qualifies settings) :=
  inferInstanceAs (Decidable (_ ∨ _))

end Part

/-- A record that is that of a part at a place in its message. -/
structure AttachmentRecord.IsAt (record : AttachmentRecord) (settings : Settings)
    (place : Part × Nat) : Prop where
  /-- It has the place. -/
  partIndex : record.partIndex = (place.2 : Int)
  /-- It has the name of the part. -/
  name : record.name = place.1.resolvedName settings
  /-- It says what the headers of the part say. -/
  tells : record.TellsOf settings place.1

namespace Attachment

/-- The parts that are attachments, with their places from an index on. -/
def qualifying (settings : Settings) (index : Nat) (parts : List Part) : List (Part × Nat) :=
  (parts.zipIdx index).filter fun place => place.1.Qualifies settings

/-- **The records that parts come to**: one for each part that qualifies, in turn, and no others. -/
structure AreRecordsOf (settings : Settings) (parts : List Part)
    (records : List AttachmentRecord) : Prop where
  /-- Each record is that of the part in its turn. -/
  each : List.Forall₂ (fun record place => record.IsAt settings place) records
    (qualifying settings 0 parts)
  /-- The places increase from one record to the next. -/
  increasing : (records.map (·.partIndex)).Pairwise (· < ·)

end Attachment

/-! ## What single headers are read as -/

namespace Attachment

variable {parse : Text → Noted HeaderFault StructuredHeader} {raw : Option Text}

/-- A header that is absorbed says what is read of it, and nothing if it is not read. -/
theorem absorb_eq_of_read
    (hb : ∀ text header, (parse text).result = .ok header → Text.isAllBlank text = false) :
    ∀ read, (raw.bind fun text => (parse text).result.toOption) = read →
      (absorb parse raw).value = (read.map (·.value)).getD [] ∧
        (absorb parse raw).params = (read.map (·.params)).getD [] := by
  rintro read rfl
  cases raw with
  | none => exact ⟨rfl, rfl⟩
  | some text =>
    rw [Option.bind_some]
    cases hp : (parse text).result with
    | ok header =>
      rw [absorb_of_ok (hb text header hp) hp]
      exact ⟨rfl, rfl⟩
    | error fault =>
      -- a blank header is not read either, and says nothing without being an error
      cases ha : Text.isAllBlank text with
      | true =>
        rw [absorb_of_isAllBlank ha]
        exact ⟨rfl, rfl⟩
      | false =>
        rw [absorb_of_error ha hp]
        exact ⟨rfl, rfl⟩

end Attachment

namespace Part

variable (settings : Settings) (part : Part)

theorem dispositionReading_eq :
    (part.dispositionReading settings).value =
        ((part.disposition? settings).map (·.value)).getD [] ∧
      (part.dispositionReading settings).params =
        ((part.disposition? settings).map (·.params)).getD [] :=
  Attachment.absorb_eq_of_read (fun _ _ => isAllBlank_eq_false_of_parseDisposition) _ rfl

theorem params_typeReading :
    (part.typeReading settings).params =
      ((part.contentType? settings).map (·.params)).getD [] :=
  (Attachment.absorb_eq_of_read (fun _ _ => isAllBlank_eq_false_of_parseContentType) _ rfl).2

/-- What is found among the parameters of a header that may not have been read. -/
theorem find?_params_getD (read : Option StructuredHeader) (name : Text) :
    Table.find? ((read.map (·.params)).getD []) name = read.bind (·.params.find? name) := by
  cases read <;> rfl

/-- The name of a part is that which its headers come to. -/
theorem fileName_eq_resolvedName :
    Attachment.fileName (part.dispositionReading settings) (part.typeReading settings) =
      part.resolvedName settings := by
  rw [Attachment.fileName, (part.dispositionReading_eq settings).2, part.params_typeReading,
    find?_params_getD, find?_params_getD, resolvedName]
  cases (part.disposition? settings).bind (·.params.find? "filename".toList) with
  | some name => rfl
  | none => cases (part.contentType? settings).bind (·.params.find? "name".toList) <;> rfl

/-- A disposition is that of an attachment if it is read as one. -/
theorem value_dispositionReading_iff :
    (part.dispositionReading settings).value = "attachment".toList ↔
      (part.disposition? settings).map (·.value) = some "attachment".toList := by
  rw [(part.dispositionReading_eq settings).1]
  cases (part.disposition? settings).map (·.value) with
  | none => exact ⟨fun h => absurd h (by decide), fun h => nomatch h⟩
  | some value => exact ⟨congrArg some, Option.some.inj⟩

end Part

/-! ## Records of parts -/

namespace Attachment

variable {settings : Settings} {part : Part}

/-- Whether a part has a record is settled by its name and its disposition. -/
theorem recordOf?_eq_none_iff (index : Nat) :
    recordOf? settings part index = none ↔ ¬ part.Qualifies settings := by
  have hc : ∀ name value mark : Text,
      (name.isEmpty && decide (value ≠ mark)) = true ↔ ¬ name ≠ [] ∧ ¬ value = mark := by
    intro name value mark
    rw [Bool.and_eq_true, List.isEmpty_iff, decide_eq_true_iff, not_not]
  rw [Part.Qualifies, not_or, ← part.fileName_eq_resolvedName,
    ← part.value_dispositionReading_iff, ← hc, Part.dispositionReading, Part.typeReading]
  unfold recordOf?
  simp only
  split
  · rename_i hn
    exact iff_of_true rfl hn
  · rename_i hn
    exact iff_of_false (Option.some_ne_none _) hn

/-- The record of a part has its place and its name. -/
theorem isAt_of_recordOf? {index : Nat} {record : AttachmentRecord}
    (h : recordOf? settings part index = some record) : record.IsAt settings (part, index) where
  partIndex := by
    unfold recordOf? at h
    simp only at h
    split at h
    · cases h
    · obtain rfl := Option.some.inj h
      rfl
  name := (tellsOf_of_recordOf? h).name.trans (part.fileName_eq_resolvedName settings)
  tells := tellsOf_of_recordOf? h

/-- **The records of parts are those of the parts that qualify**, one for each. -/
theorem forall₂_recordsOf (settings : Settings) (index : Nat) (parts : List Part) :
    List.Forall₂ (fun record place => record.IsAt settings place)
      (recordsOf settings index parts) (qualifying settings index parts) := by
  induction parts generalizing index with
  | nil => exact .nil
  | cons part rest ih =>
    rw [recordsOf_cons, qualifying, List.zipIdx_cons]
    cases hr : recordOf? settings part index with
    | none =>
      have hq : ¬ part.Qualifies settings := (recordOf?_eq_none_iff index).mp hr
      rw [List.filter_cons_of_neg (by simpa using hq)]
      exact ih (index + 1)
    | some record =>
      have hq : part.Qualifies settings := by
        by_contra hq
        rw [(recordOf?_eq_none_iff index).mpr hq] at hr
        cases hr
      rw [List.filter_cons_of_pos (by simpa using hq)]
      exact .cons (isAt_of_recordOf? hr) (ih (index + 1))

/-- Places of parts increase, and so do those of some of them. -/
theorem pairwise_qualifying (settings : Settings) (index : Nat) (parts : List Part) :
    ((qualifying settings index parts).map (·.2)).Pairwise (· < ·) := by
  have hs : ((qualifying settings index parts).map (·.2)).Sublist
      ((parts.zipIdx index).map (·.2)) := List.filter_sublist.map _
  have hp : ((parts.zipIdx index).map (·.2)).Pairwise (· < ·) := by
    rw [List.zipIdx_map_snd]
    exact List.pairwise_lt_range'
  exact hp.sublist hs

/-- Records have the places of the parts that they are of. -/
theorem map_partIndex_of_forall₂ {records : List AttachmentRecord} {places : List (Part × Nat)}
    (h : List.Forall₂ (fun record place => record.IsAt settings place) records places) :
    records.map (·.partIndex) = (places.map (·.2)).map Int.ofNat := by
  induction h with
  | nil => rfl
  | cons hr _ ih =>
    rw [List.map_cons, List.map_cons, List.map_cons, ih, hr.partIndex]
    rfl

theorem areRecordsOf_recordsOf (settings : Settings) (parts : List Part) :
    AreRecordsOf settings parts (recordsOf settings 0 parts) := by
  have hf := forall₂_recordsOf settings 0 parts
  refine ⟨hf, ?_⟩
  rw [map_partIndex_of_forall₂ hf, List.pairwise_map]
  exact (pairwise_qualifying settings 0 parts).imp fun hlt => Int.ofNat_lt.mpr hlt

end Attachment

namespace Extraction

/-- **A search adds one record for each part that qualifies**, in the order of the parts and with
their places, and none for any other part. -/
theorem ofParts_adds_qualifying {ε : Type} {settings : Settings} {parts : List Part}
    {known found : Attachments}
    (h : (ofParts settings known parts : Noted ε Extraction).result = .ok { found := found }) :
    ∃ records, found.records = known.records ++ records ∧
      Attachment.AreRecordsOf settings parts records := by
  obtain ⟨-, rfl⟩ := ofParts_eq_ok_iff.mp h
  exact ⟨_, Attachment.records_foldl_add .., Attachment.areRecordsOf_recordsOf settings parts⟩

/-- A part without a name, an attachment without one, a part whose empty name in the disposition
comes before the name in its type, and one whose disposition is malformed. -/
theorem ofParts_adds_qualifying_of_emptyName :
    ∃ found : Attachments,
      (ofParts {} {} [
        Part.ofHeaders [("Content-Type".toList, "multipart/mixed; boundary=b".toList)],
        Part.ofHeaders [("Content-Disposition".toList, "Attachment".toList)],
        Part.ofHeaders [("Content-Disposition".toList, "inline; filename=\"\"".toList),
          ("Content-Type".toList, "text/html; name=b.exe".toList)],
        Part.ofHeaders [("Content-Disposition".toList, "attachment; filename*1*=a".toList),
          ("Content-Type".toList, "text/html; name=c.txt".toList)]] :
            Noted HeaderFault Extraction).result = .ok { found := found } ∧
      found.records.map (fun record => (record.partIndex, record.name)) =
        [(1, []), (3, "c.txt".toList)] ∧
      Attachment.AreRecordsOf {} [
        Part.ofHeaders [("Content-Type".toList, "multipart/mixed; boundary=b".toList)],
        Part.ofHeaders [("Content-Disposition".toList, "Attachment".toList)],
        Part.ofHeaders [("Content-Disposition".toList, "inline; filename=\"\"".toList),
          ("Content-Type".toList, "text/html; name=b.exe".toList)],
        Part.ofHeaders [("Content-Disposition".toList, "attachment; filename*1*=a".toList),
          ("Content-Type".toList, "text/html; name=c.txt".toList)]] found.records := by
  have hf : (ofParts {} {} [
      Part.ofHeaders [("Content-Type".toList, "multipart/mixed; boundary=b".toList)],
      Part.ofHeaders [("Content-Disposition".toList, "Attachment".toList)],
      Part.ofHeaders [("Content-Disposition".toList, "inline; filename=\"\"".toList),
        ("Content-Type".toList, "text/html; name=b.exe".toList)],
      Part.ofHeaders [("Content-Disposition".toList, "attachment; filename*1*=a".toList),
        ("Content-Type".toList, "text/html; name=c.txt".toList)]] :
          Noted HeaderFault Extraction).result = .ok { found := {
        records := [
          { disposition := "attachment".toList, partIndex := 1 },
          { name := "c.txt".toList, extension := "txt".toList, mimeType := "text/html".toList,
            effectiveType := "text/html".toList, mimeErrors := 1, partIndex := 3 }],
        tally := ⟨2, ["text/html".toList], ["txt".toList]⟩ } } := by
    decide +kernel
  obtain ⟨records, hr, ha⟩ := ofParts_adds_qualifying hf
  exact ⟨_, hf, rfl, hr.symm ▸ ha⟩

end Extraction
end MailScreen
