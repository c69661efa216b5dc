import MailScreen.Proofs.Attachment.RecordForm
import MailScreen.Proofs.Attachment.Tally
import MailScreen.Proofs.Text.Join

/-!
# Lists in tags

The types and the extensions of the attachments of a message are reported in a tag each, with a
separator between them that a user may set. Whether the tag still says where one entry ends is up to
the entries, and these come from the sender. By the form of records, neither a comma nor a semicolon
nor a space nor a control character is in any of them. **So if one of these is the separator, a tag
is cut at it into just the entries of its list** (`Attachments.listedInTags_searches`), whatever was
searched. Other blanks would not do: a no-break space may stand in a type.
-/
namespace MailScreen

open Header (HeaderFault)

/-- A separator that is in no type and no extension: a comma, a semicolon, a space or a control
character of ASCII. -/
def IsListMark (c : Char) : Prop := c = ',' ∨ c = ';' ∨ c.toNat ≤ 0x20

instance (c : Char) : Decidable (IsListMark c) := inferInstanceAs (Decidable (_ ∨ _))

/-- The entries of a tag that are written with a separator between them. An empty tag has none. -/
def Tally.entries (separator : Char) (tag : Text) : List Text :=
  if tag = [] then [] else List.splitOn separator tag

namespace Attachments

/-- The attachments after lots of parts have been searched, each lot under its own settings. -/
def searches {ε : Type} (known : Attachments) (lots : List (Settings × List Part)) :
    Noted ε Attachments :=
  known.run (lots.map fun lot => .search lot.1 lot.2)

/-- **Attachments whose types and extensions are told by the tags**: cut at the separator, a tag
gives the distinct types or extensions of the records, in the order in which they first come. -/
structure ListedInTags (attachments : Attachments) (settings : Settings) (separator : Char) :
    Prop where
  /-- The lists are those of the records. -/
  tallied : attachments.Tallied
  /-- The types are told. -/
  types : ∃ tag, (attachments.tally.tags settings).lookup "ATTACHMENT_TYPES" = some tag ∧
    Tally.entries separator tag = attachments.tally.types
  /-- The extensions are told. -/
  extensions : ∃ tag, (attachments.tally.tags settings).lookup "ATTACHMENT_EXTS" = some tag ∧
    Tally.entries separator tag = attachments.tally.extensions

/-- Attachments whose records all have their form. -/
def AllWellFormed (attachments : Attachments) : Prop :=
  ∀ record ∈ attachments.records, record.WellFormed

end Attachments

/-! ## Separators -/

/-- What is joined with a separator that is in no entry, where no entry is empty, has just these
entries. -/
theorem Tally.entries_join {separator : Char} {texts : List Text}
    (hs : ∀ t ∈ texts, separator ∉ t) (hn : ∀ t ∈ texts, t ≠ []) :
    entries separator (List.intercalate [separator] texts) = texts := by
  unfold entries
  split
  · rename_i h
    refine (List.eq_nil_iff_forall_not_mem.mpr fun t ht => ?_).symm
    exact hn t ht (Text.eq_nil_of_intercalate_eq_nil h t ht)
  · rename_i h
    refine List.splitOn_intercalate separator hs ?_
    rintro rfl
    exact h rfl

/-- A list of distinct texts is told if the separator is in none of them. -/
theorem Tally.entries_join_distinct {separator : Char} {texts : List Text}
    (h : ∀ t ∈ texts, separator ∉ t) :
    entries separator (List.intercalate [separator] (distinct texts)) = distinct texts :=
  entries_join (fun t ht => h t (mem_distinct_iff.mp ht).1) fun _ ht => (mem_distinct_iff.mp ht).2

theorem IsListMark.isReserved {c : Char} (h : IsListMark c) : IsReserved c := by
  rcases h with rfl | rfl | h
  · exact .inr (.inr (by decide))
  · exact .inr (.inr (by decide))
  · exact .inl h

/-- No separator is a word character. -/
theorem IsListMark.isWord {c : Char} (h : IsListMark c) :
    c.toNat < 0x80 ∧ MailScreen.isWord c = false := by
  have hcontrol : ∀ n < 0x80, (Char.ofNat n).toNat ≤ 0x20 →
      MailScreen.isWord (Char.ofNat n) = false := by decide
  rcases h with rfl | rfl | h
  · decide
  · decide
  · have hc := Ascii.forall_of_lt (p := fun c => c.toNat ≤ 0x20 → MailScreen.isWord c = false)
      hcontrol (c := c) (by omega)
    exact ⟨by omega, hc h⟩

/-- A separator is in neither the type nor the extension of a record. -/
theorem AttachmentRecord.WellFormed.notMem {record : AttachmentRecord} (hr : record.WellFormed)
    {separator : Char} (hs : IsListMark separator) :
    separator ∉ record.mimeType ∧ separator ∉ record.extension := by
  constructor
  · exact fun hm => hr.plain_mimeType separator hm hs.isReserved
  · intro hm
    have hw := hr.word_extension separator hm hs.isWord.1
    rw [hs.isWord.2] at hw
    cases hw

/-! ## Searches -/

namespace Attachments

variable {ε : Type} {known : Attachments}

/-- A search adds records of their form only, wherever it ends. -/
theorem AllWellFormed.continueFrom (h : known.AllWellFormed) {settings : Settings} {index : Nat}
    {parts : List Part} {extraction : Extraction}
    (he : (Extraction.continueFrom settings known index parts : Noted ε _).result =
      .ok extraction) : extraction.found.AllWellFormed := by
  induction parts generalizing known index with
  | nil =>
    obtain rfl := Except.ok.inj he
    exact h
  | cons part rest ih =>
    simp only [Extraction.continueFrom, Noted.result_bind, Noted.result_attempt] at he
    cases hr : (Attachment.record? settings part index).result with
    | error fault =>
      rw [hr] at he
      obtain rfl := Except.ok.inj he
      exact h
    | ok found =>
      rw [hr] at he
      cases found with
      | none => exact ih h he
      | some record =>
        have hadd : (known.add record).AllWellFormed := by
          intro other hm
          rcases List.mem_append.mp hm with hm | hm
          · exact h other hm
          · rw [List.mem_singleton.mp hm]
            exact Attachment.wellFormed_of_record? hr
        exact ih hadd he

/-- **However many lots of parts are searched, all records have their form.** -/
theorem AllWellFormed.searches (h : known.AllWellFormed) {lots : List (Settings × List Part)}
    {reached : Attachments}
    (hr : (known.searches lots : Noted ε Attachments).result = .ok reached) :
    reached.AllWellFormed := by
  induction lots generalizing known with
  | nil =>
    obtain rfl := Except.ok.inj hr
    exact h
  | cons lot rest ih =>
    unfold Attachments.searches at hr
    rw [List.map_cons, run, Noted.result_bind, step, Noted.result_bind, Extraction.ofParts_eq] at hr
    obtain ⟨mid, hm, hr⟩ := bind_eq_ok_iff.mp hr
    obtain ⟨extraction, he, hm⟩ := bind_eq_ok_iff.mp hm
    obtain rfl := Except.ok.inj hm
    exact ih (h.continueFrom he) hr

/-- **The tags tell the types and extensions of tallied records of their form.** -/
theorem Tallied.listedInTags {attachments : Attachments} (ht : attachments.Tallied)
    (hw : attachments.AllWellFormed) {settings : Settings} {separator : Char}
    (hs : settings.tagSeparator = [separator]) (hm : IsListMark separator) :
    attachments.ListedInTags settings separator := by
  refine ⟨ht, ⟨_, rfl, ?_⟩, ⟨_, rfl, ?_⟩⟩
  · rw [hs, ht.types]
    refine Tally.entries_join_distinct (List.forall_mem_map.mpr fun record hrecord => ?_)
    exact ((hw record hrecord).notMem hm).1
  · rw [hs, ht.extensions]
    refine Tally.entries_join_distinct (List.forall_mem_map.mpr fun record hrecord => ?_)
    exact ((hw record hrecord).notMem hm).2

/-- **Records have their form, and the tags tell their types and extensions.** Every record of a
part is well formed, whatever the headers of the part are. So whatever is searched, beginning with
nothing, the tags are cut into the lists of types and extensions at a separator that is a comma, a
semicolon or a blank. -/
theorem listedInTags_searches :
    (∀ settings part index record,
      (Attachment.record? settings part index).result = .ok (some record) → record.WellFormed) ∧
    ∀ (ε : Type) lots settings separator, settings.tagSeparator = [separator] →
      IsListMark separator →
      ∃ reached, (({} : Attachments).searches lots : Noted ε Attachments).result = .ok reached ∧
        reached.ListedInTags settings separator := by
  refine ⟨fun _ _ _ _ h => Attachment.wellFormed_of_record? h, fun ε lots settings separator => ?_⟩
  intro hs hm
  obtain ⟨reached, hr, ht⟩ := tallied_run (ε := ε) tallied_empty
    (lots.map fun lot => .search lot.1 lot.2)
  have hw : ({} : Attachments).AllWellFormed := fun _ h => absurd h List.not_mem_nil
  exact ⟨reached, hr, ht.listedInTags (hw.searches hr) hs hm⟩

/-- A part two of whose three headers are malformed, and tags with semicolons that tell the types
and extensions of two lots of parts. One type has a no-break space in it. -/
theorem listedInTags_searches_of_semicolon :
    (∃ record, (Attachment.record? {} (Part.ofHeaders [
        ("Content-Type".toList, "text".toList),
        ("Content-Disposition".toList, "attachment; filename*=utf-8''a%2C.%C3%89%0A".toList),
        ("Content-Transfer-Encoding".toList, "8 bit".toList)]) 0).result = .ok (some record) ∧
      record.extension = "é".toList ∧ record.mimeErrors = 2 ∧ record.WellFormed) ∧
    ∃ reached, (({} : Attachments).searches [
        ({}, [
          Part.ofHeaders [("Content-Type".toList, "text/HTML; name=a.htm".toList)],
          Part.ofHeaders [("Content-Disposition".toList, "attachment".toList)]]),
        ({}, [Part.ofHeaders [("Content-Type".toList, "text/x\u00A0y; name=b.TXT".toList)]])] :
          Noted HeaderFault Attachments).result = .ok reached ∧
      reached.ListedInTags { tagSeparator := [';'] } ';' ∧
      reached.tally.types = ["text/html".toList, "text/x\u00A0y".toList] ∧
      reached.tally.extensions = ["htm".toList, "txt".toList] := by
  constructor
  · have hr : (Attachment.record? {} (Part.ofHeaders [
        ("Content-Type".toList, "text".toList),
        ("Content-Disposition".toList, "attachment; filename*=utf-8''a%2C.%C3%89%0A".toList),
        ("Content-Transfer-Encoding".toList, "8 bit".toList)]) 0).result =
        .ok (some {
          name := "a,.É\n".toList, extension := "é".toList, disposition := "attachment".toList,
          encoding := "8 bit".toList, mimeErrors := 2 }) := by
      decide +kernel
    exact ⟨_, hr, rfl, rfl, listedInTags_searches.1 _ _ _ _ hr⟩
  · have hv : (({} : Attachments).searches [
        ({}, [
          Part.ofHeaders [("Content-Type".toList, "text/HTML; name=a.htm".toList)],
          Part.ofHeaders [("Content-Disposition".toList, "attachment".toList)]]),
        ({}, [Part.ofHeaders [("Content-Type".toList, "text/x\u00A0y; name=b.TXT".toList)]])] :
          Noted HeaderFault Attachments).result.toOption.map (·.tally) =
        some ⟨3, ["text/html".toList, "text/x\u00A0y".toList], ["htm".toList, "txt".toList]⟩ := by
      decide +kernel
    obtain ⟨reached, hr, hl⟩ := listedInTags_searches.2 HeaderFault [
        ({}, [
          Part.ofHeaders [("Content-Type".toList, "text/HTML; name=a.htm".toList)],
          Part.ofHeaders [("Content-Disposition".toList, "attachment".toList)]]),
        ({}, [Part.ofHeaders [("Content-Type".toList, "text/x\u00A0y; name=b.TXT".toList)]])]
      { tagSeparator := [';'] } ';' rfl (by decide)
    rw [hr] at hv
    have ht : reached.tally = _ := Option.some.inj hv
    exact ⟨reached, hr, hl, by rw [ht], by rw [ht]⟩

end Attachments
end MailScreen
