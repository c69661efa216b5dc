import MailScreen.Proofs.Attachment.SeparateHeaders

/-!
# Parts that are named by their type

Mail programs name a file in the Content-Disposition, in the Content-Type or in both, and a part
with a name is an attachment. A part whose type names it is meant to have a record of that name
whenever its disposition does not name it: if there is none, if it is blank or malformed, or if it
states no file name. **That is so exactly if the disposition does not state the empty name**
(`Attachment.named_by_type_iff`). The empty name is taken for a name, so the one in the type is not
looked at, and an executable with `filename=""` in its disposition is not found at all
(`Attachment.record?_of_emptyName`).
-/
namespace MailScreen

open Header

namespace Part

/-- The Content-Type of a part is read and states a file name. -/
def TypeNames (settings : Settings) (part : Part) (name : Text) : Prop :=
  ∃ raw header, part.header? "content-type".toList = some raw ∧
    (parseContentType settings raw).result = .ok header ∧
    header.params.find? "name".toList = some name ∧ name ≠ []

/-- The Content-Disposition of a part is read and states the empty file name. -/
def DispositionNamesEmpty (settings : Settings) (part : Part) : Prop :=
  ∃ raw header, part.header? "content-disposition".toList = some raw ∧
    (parseDisposition settings raw).result = .ok header ∧
    header.params.find? "filename".toList = some []

/-- **The Content-Disposition of a part does not name it.** -/
inductive NotNamedByDisposition (settings : Settings) (part : Part) : Prop
  /-- There is none. -/
  | absent (h : part.header? "content-disposition".toList = none)
  /-- It is blank. -/
  | blank (raw : Text) (h : part.header? "content-disposition".toList = some raw)
    (hb : Text.isAllBlank raw = true)
  /-- It is malformed. -/
  | malformed (raw : Text) (error : HeaderError)
    (h : part.header? "content-disposition".toList = some raw)
    (he : (parseDisposition settings raw).result = .error (.malformed error))
  /-- It states no file name. -/
  | unnamed (raw : Text) (header : StructuredHeader)
    (h : part.header? "content-disposition".toList = some raw)
    (ho : (parseDisposition settings raw).result = .ok header)
    (hn : header.params.find? "filename".toList = none)
  /-- It states the empty file name. -/
  | emptyName (h : part.DispositionNamesEmpty settings)

variable {settings : Settings} {part : Part} {name : Text}

/-! ## What the two headers come to -/

theorem TypeNames.find?_typeReading (ht : part.TypeNames settings name) :
    (part.typeReading settings).params.find? "name".toList = some name := by
  obtain ⟨raw, header, h, ho, hn, -⟩ := ht
  rw [typeReading, h, Attachment.absorb_of_ok (isAllBlank_eq_false_of_parseContentType ho) ho]
  exact hn

theorem DispositionNamesEmpty.find?_dispositionReading (hd : part.DispositionNamesEmpty settings) :
    (part.dispositionReading settings).params.find? "filename".toList = some [] := by
  obtain ⟨raw, header, h, ho, hn⟩ := hd
  rw [dispositionReading, h,
    Attachment.absorb_of_ok (isAllBlank_eq_false_of_parseDisposition ho) ho]
  exact hn

/-- A disposition that does not name its part has no file name, or the empty one. -/
theorem NotNamedByDisposition.find?_dispositionReading (hd : part.NotNamedByDisposition settings)
    (he : ¬ part.DispositionNamesEmpty settings) :
    (part.dispositionReading settings).params.find? "filename".toList = none := by
  unfold dispositionReading
  cases hd with
  | absent h => rw [h]; rfl
  | blank raw h hb => rw [h, Attachment.absorb_of_isAllBlank hb]; rfl
  | malformed raw error h hm =>
    rw [h]
    cases hb : Text.isAllBlank raw with
    | true => rw [Attachment.absorb_of_isAllBlank hb]; rfl
    | false => rw [Attachment.absorb_of_error hb hm]; rfl
  | unnamed raw header h ho hn =>
    rw [h, Attachment.absorb_of_ok (isAllBlank_eq_false_of_parseDisposition ho) ho]
    exact hn
  | emptyName h => exact absurd h he

end Part

namespace Attachment

variable {settings : Settings} {part : Part} {index : Nat} {name : Text}

/-- A part with a name has a record. -/
theorem exists_recordOf? (index : Nat) (hn : fileName (part.dispositionReading settings)
    (part.typeReading settings) ≠ []) : ∃ record, recordOf? settings part index = some record := by
  have hf : ((fileName (absorb (parseDisposition settings)
      (part.header? "content-disposition".toList)) (absorb (parseContentType settings)
        (part.header? "content-type".toList))).isEmpty) = false :=
    List.isEmpty_eq_false_iff.mpr hn
  unfold recordOf?
  simp only [hf, Bool.false_and, Bool.false_eq_true, if_false]
  exact ⟨_, rfl⟩

/-- **A part that its type names and its disposition does not** has a record of the name in its
type, whatever its other headers are, exactly if the disposition does not state the empty name. -/
theorem named_by_type_iff {found : Option AttachmentRecord}
    (ht : part.TypeNames settings name) (hd : part.NotNamedByDisposition settings)
    (hr : (record? settings part index).result = .ok found) :
    (∃ record, found = some record ∧ record.name = name) ↔
      ¬ part.DispositionNamesEmpty settings := by
  have hne : name ≠ [] := by
    obtain ⟨raw, header, -, -, -, hne⟩ := ht
    exact hne
  constructor
  · rintro ⟨record, rfl, hn⟩ he
    -- the empty name of the disposition comes before the name of the type
    have hname := (tellsOf_of_record? hr).name
    rw [fileName, he.find?_dispositionReading] at hname
    exact hne (hn.symm.trans hname)
  · intro he
    have hname : fileName (part.dispositionReading settings) (part.typeReading settings) =
        name := by
      rw [fileName, hd.find?_dispositionReading he, ht.find?_typeReading]
      rfl
    obtain ⟨record, ho⟩ := exists_recordOf? index (hname ▸ hne)
    obtain rfl : some record = found := ho.symm.trans (record?_eq_ok_iff.mp hr).2
    exact ⟨record, rfl, (tellsOf_of_record? hr).name.trans hname⟩

/-- A malformed disposition leaves the name to the type. -/
theorem named_by_type_iff_of_malformed :
    ∃ record, (record? {} (Part.ofHeaders [
        ("Content-Disposition".toList, "attachment; filename*1*=a".toList),
        ("Content-Type".toList, "application/octet-stream; name=b.exe".toList)]) 0).result =
          .ok (some record) ∧ record.name = "b.exe".toList := by
  have hr : (record? {} (Part.ofHeaders [
      ("Content-Disposition".toList, "attachment; filename*1*=a".toList),
      ("Content-Type".toList, "application/octet-stream; name=b.exe".toList)]) 0).result =
        .ok (some {
          name := "b.exe".toList, extension := "exe".toList,
          mimeType := "application/octet-stream".toList,
          effectiveType := "application/octet-stream".toList, mimeErrors := 1 }) := by
    decide +kernel
  have ht : (Part.ofHeaders [
      ("Content-Disposition".toList, "attachment; filename*1*=a".toList),
      ("Content-Type".toList, "application/octet-stream; name=b.exe".toList)]).TypeNames {}
        "b.exe".toList :=
    ⟨"application/octet-stream; name=b.exe".toList,
      ⟨"application/octet-stream".toList, [("name".toList, "b.exe".toList)]⟩,
      by decide +kernel, by decide +kernel, by decide, by decide⟩
  have hm : (parseDisposition {} "attachment; filename*1*=a".toList).result =
      .error (.malformed (.brokenContinuation "filename".toList [1])) := by
    decide +kernel
  have hd : (Part.ofHeaders [
      ("Content-Disposition".toList, "attachment; filename*1*=a".toList),
      ("Content-Type".toList, "application/octet-stream; name=b.exe".toList)]
        ).NotNamedByDisposition {} :=
    .malformed _ _ (by decide +kernel) hm
  obtain ⟨record, he, hn⟩ := (named_by_type_iff ht hd hr).mpr (by
    rintro ⟨raw, header, h, ho, -⟩
    obtain rfl : "attachment; filename*1*=a".toList = raw :=
      Option.some.inj (Eq.trans (by decide +kernel) h)
    rw [hm] at ho
    cases ho)
  obtain rfl := Option.some.inj he
  exact ⟨_, hr, hn⟩

/-- The empty name in the disposition hides the name in the type: the type names the part, the
disposition does not, and the part has no record. -/
theorem record?_of_emptyName :
    (Part.ofHeaders [
      ("Content-Disposition".toList, "inline; filename=\"\"".toList),
      ("Content-Type".toList, "application/octet-stream; name=b.exe".toList)]).TypeNames {}
        "b.exe".toList ∧
    (Part.ofHeaders [
      ("Content-Disposition".toList, "inline; filename=\"\"".toList),
      ("Content-Type".toList, "application/octet-stream; name=b.exe".toList)]
        ).NotNamedByDisposition {} ∧
    (record? {} (Part.ofHeaders [
      ("Content-Disposition".toList, "inline; filename=\"\"".toList),
      ("Content-Type".toList, "application/octet-stream; name=b.exe".toList)]) 0).result =
        .ok none := by
  refine ⟨?_, .emptyName ?_, by decide +kernel⟩
  · exact ⟨"application/octet-stream; name=b.exe".toList,
      ⟨"application/octet-stream".toList, [("name".toList, "b.exe".toList)]⟩,
      by decide +kernel, by decide +kernel, by decide, by decide⟩
  · exact ⟨"inline; filename=\"\"".toList, ⟨"inline".toList, [("filename".toList, [])]⟩,
      by decide +kernel, by decide +kernel, by decide⟩

end Attachment
end MailScreen
