import MailScreen.Proofs.Attachment.Containment
import MailScreen.Proofs.FirstOccurrence

/-!
# What attachments come to

The records of a message and the tally over them are kept side by side, and either could change
without the other. **They do not** (`Attachments.tallied_run`): whatever is done to the attachments
of a message, records added one by one or parts searched, also if a search ends early, the tally is
that of the records: their number, and the distinct types and extensions in the order in which they
first came.

A search numbers its parts from the start, so that searching the same parts in two runs and in one
gives records that differ, but only in their places (`Extraction.ofParts_append`). The record of a
part depends on no other part, and of its place it has just the number
(`Attachment.map_unplaced_recordsOf`).
-/
namespace MailScreen

/-- The texts of a list that are not empty, each at its first place only. -/
def Tally.distinct (texts : List Text) : List Text := (texts.filter fun t => !t.isEmpty).eraseDups

/-- The tally of records that are given together. -/
def Tally.ofRecords (records : List AttachmentRecord) : Tally where
  count := records.length
  types := distinct (records.map (·.mimeType))
  extensions := distinct (records.map (·.extension))

/-- A record without its place in the message. -/
def AttachmentRecord.unplaced (record : AttachmentRecord) : AttachmentRecord :=
  { record with partIndex := 0 }

/-- What may be done to the attachments of a message. -/
inductive AttachmentStep where
  /-- A record is added. -/
  | add (record : AttachmentRecord)
  /-- Parts are searched under settings, as far as that goes. -/
  | search (settings : Settings) (parts : List Part)

namespace Attachments

/-- Attachments whose tally is that of their records. -/
structure Tallied (attachments : Attachments) : Prop where
  /-- The number is that of the records. -/
  count : attachments.tally.count = attachments.records.length
  /-- The types are those of the records in the order in which they first come. -/
  types : attachments.tally.types = Tally.distinct (attachments.records.map (·.mimeType))
  /-- No type is listed twice. -/
  nodup_types : attachments.tally.types.Nodup
  /-- The extensions are those of the records in the order in which they first come. -/
  extensions : attachments.tally.extensions = Tally.distinct (attachments.records.map (·.extension))
  /-- No extension is listed twice. -/
  nodup_extensions : attachments.tally.extensions.Nodup

/-- The attachments after a step. What a search found before it ended early stays. -/
def step {ε : Type} (known : Attachments) : AttachmentStep → Noted ε Attachments
  | .add record => pure (known.add record)
  | .search settings parts => do
    let extraction ← Extraction.ofParts settings known parts
    return extraction.found

/-- The attachments after steps. -/
def run {ε : Type} (known : Attachments) : List AttachmentStep → Noted ε Attachments
  | [] => pure known
  | next :: rest => do
    let known ← known.step next
    known.run rest

end Attachments

/-! ## Distinct texts -/

namespace Tally

theorem nodup_distinct (texts : List Text) : (distinct texts).Nodup := nodup_eraseDups _

theorem mem_distinct_iff {texts : List Text} {t : Text} :
    t ∈ distinct texts ↔ t ∈ texts ∧ t ≠ [] := by
  rw [distinct, List.mem_eraseDups, List.mem_filter]
  simp

/-- In whatever order texts are given, the same ones are in it. -/
theorem distinct_perm {texts others : List Text} (h : texts.Perm others) :
    (distinct texts).Perm (distinct others) := by
  refine (List.perm_ext_iff_of_nodup (nodup_distinct texts) (nodup_distinct others)).mpr ?_
  intro t
  rw [mem_distinct_iff, mem_distinct_iff, h.mem_iff]

/-- One more text is new, or it changes nothing. -/
theorem distinct_append_singleton (texts : List Text) (t : Text) :
    distinct (texts ++ [t]) = addNew (distinct texts) t := by
  rw [distinct, List.filter_append, addNew]
  by_cases he : t = []
  · subst he
    show (texts.filter (fun (t : Text) => !t.isEmpty) ++ []).eraseDups = distinct texts
    rw [List.append_nil, distinct]
  · have hlast : [t].filter (fun t => !t.isEmpty) = [t] :=
      List.filter_cons_of_pos (by simpa using he)
    have hk : (t.isEmpty || (distinct texts).contains t) = true ↔
        t ∈ texts.filter fun t => !t.isEmpty := by
      simp [distinct, he]
    rw [hlast, eraseDups_append_singleton]
    simp only [hk]
    rfl

theorem ofRecords_append_singleton (records : List AttachmentRecord) (record : AttachmentRecord) :
    ofRecords (records ++ [record]) = (ofRecords records).add record := by
  simp only [ofRecords, add, List.map_append, List.map_cons, List.map_nil,
    distinct_append_singleton, List.length_append, List.length_cons, List.length_nil]

end Tally

/-! ## Records and their tally -/

namespace Attachments

theorem tallied_iff {attachments : Attachments} :
    attachments.Tallied ↔ attachments.tally = Tally.ofRecords attachments.records := by
  constructor
  · intro h
    obtain ⟨hc, ht, -, he, -⟩ := h
    show Tally.mk attachments.tally.count attachments.tally.types attachments.tally.extensions = _
    rw [hc, ht, he]
    rfl
  · intro h
    constructor
    · rw [h]; rfl
    · rw [h]; rfl
    · rw [h]; exact Tally.nodup_distinct _
    · rw [h]; rfl
    · rw [h]; exact Tally.nodup_distinct _

theorem tallied_empty : Tallied {} := tallied_iff.mpr rfl

/-- **A record that is added is added to the tally.** -/
theorem Tallied.add {attachments : Attachments} (h : attachments.Tallied)
    (record : AttachmentRecord) : (attachments.add record).Tallied := by
  rw [tallied_iff] at h ⊢
  rw [Attachments.add, Tally.ofRecords_append_singleton, ← h]

/-- A search keeps the tally that of the records, wherever it ends. -/
theorem Tallied.continueFrom {ε : Type} {settings : Settings} {found : Attachments}
    (h : found.Tallied) (index : Nat) (parts : List Part) :
    ∃ extraction, (Extraction.continueFrom settings found index parts : Noted ε _).result =
      .ok extraction ∧ extraction.found.Tallied := by
  induction parts generalizing found index with
  | nil => exact ⟨_, rfl, h⟩
  | cons part rest ih =>
    simp only [Extraction.continueFrom, Noted.result_bind, Noted.result_attempt]
    cases (Attachment.record? settings part index).result with
    | error fault => exact ⟨_, rfl, h⟩
    | ok found? =>
      cases found? with
      | none => exact ih h (index + 1)
      | some record => exact ih (h.add record) (index + 1)

/-- A search from the start keeps the tally that of the records. -/
theorem Tallied.ofParts {ε : Type} {known : Attachments} (h : known.Tallied) (settings : Settings)
    (parts : List Part) :
    ∃ extraction, (Extraction.ofParts settings known parts : Noted ε _).result = .ok extraction ∧
      extraction.found.Tallied := by
  rw [Extraction.ofParts_eq]
  exact h.continueFrom 0 parts

/-- What is found by a search that ends without a fault, beginning with nothing, is tallied. -/
theorem Tallied.of_ofParts {ε : Type} {settings : Settings} {parts : List Part}
    {found : Attachments} (hf : (Extraction.ofParts settings {} parts : Noted ε _).result =
      .ok { found := found }) : found.Tallied := by
  obtain ⟨extraction, ho, ht⟩ := tallied_empty.ofParts (ε := ε) settings parts
  obtain rfl := Except.ok.inj (ho.symm.trans hf)
  exact ht

theorem Tallied.step {ε : Type} {known : Attachments} (h : known.Tallied) (next : AttachmentStep) :
    ∃ reached, (known.step next : Noted ε Attachments).result = .ok reached ∧ reached.Tallied := by
  cases next with
  | add record => exact ⟨_, rfl, h.add record⟩
  | search settings parts =>
    obtain ⟨extraction, ho, ht⟩ := h.ofParts (ε := ε) settings parts
    refine ⟨extraction.found, ?_, ht⟩
    rw [Attachments.step, Noted.result_bind, ho]
    rfl

/-- **Whatever is done to the attachments of a message, the tally is that of the records.** -/
theorem tallied_run {ε : Type} {known : Attachments} (h : known.Tallied)
    (steps : List AttachmentStep) :
    ∃ reached, (known.run steps : Noted ε Attachments).result = .ok reached ∧ reached.Tallied := by
  induction steps generalizing known with
  | nil => exact ⟨known, rfl, h⟩
  | cons next rest ih =>
    obtain ⟨mid, hm, ht⟩ := h.step (ε := ε) next
    rw [run, Noted.result_bind, hm]
    exact ih ht

/-- Of records that are added only what they say counts, and not where they stand. -/
theorem tally_foldl_add (known : Attachments) (records : List AttachmentRecord) :
    (records.foldl add known).tally =
      (records.map (·.unplaced)).foldl Tally.add known.tally := by
  induction records generalizing known with
  | nil => rfl
  | cons record rest ih => exact ih (known.add record)

end Attachments

/-! ## Records and their places -/

namespace Attachment

/-- The place of a part is written into its record, and has no other part in it. -/
theorem map_unplaced_recordOf? (settings : Settings) (part : Part) (index : Nat) :
    (recordOf? settings part index).map (·.unplaced) = recordOf? settings part 0 := by
  unfold recordOf?
  simp only
  split
  · rfl
  · rfl

/-- **Without their places, the records of parts are the records of each of them.** -/
theorem map_unplaced_recordsOf (settings : Settings) (index : Nat) (parts : List Part) :
    (recordsOf settings index parts).map (·.unplaced) =
      parts.filterMap fun part => recordOf? settings part 0 := by
  induction parts generalizing index with
  | nil => rfl
  | cons part rest ih =>
    rw [recordsOf_cons, List.map_append, ih, List.filterMap_cons,
      ← map_unplaced_recordOf? settings part index]
    cases recordOf? settings part index with
    | none => rfl
    | some record => rfl

end Attachment

namespace Extraction

/-- What is found among parts are, but for their places, the records of each of them. -/
theorem map_unplaced_of_ofParts {ε : Type} {settings : Settings} {parts : List Part}
    {found : Attachments}
    (hf : (ofParts settings {} parts : Noted ε Extraction).result = .ok { found := found }) :
    found.records.map (·.unplaced) =
      parts.filterMap fun part => Attachment.recordOf? settings part 0 := by
  obtain ⟨-, rfl⟩ := ofParts_eq_ok_iff.mp hf
  rw [Attachment.records_foldl_add, List.map_append, Attachment.map_unplaced_recordsOf]
  rfl

/-- **Parts that are searched in one run and in two** come to the same tally, and to records that
differ in their places only. -/
theorem ofParts_append {ε : Type} {settings : Settings} {known first second : Attachments}
    {parts more : List Part}
    (hf : (ofParts settings known parts : Noted ε Extraction).result = .ok { found := first })
    (hs : (ofParts settings first more : Noted ε Extraction).result = .ok { found := second }) :
    ∃ joint, (ofParts settings known (parts ++ more) : Noted ε Extraction).result =
        .ok { found := joint } ∧
      joint.tally = second.tally ∧
      joint.records.map (·.unplaced) = second.records.map (·.unplaced) := by
  obtain ⟨hp, rfl⟩ := ofParts_eq_ok_iff.mp hf
  obtain ⟨hm, rfl⟩ := ofParts_eq_ok_iff.mp hs
  refine ⟨_, ofParts_eq_ok_iff.mpr ⟨List.forall_mem_append.mpr ⟨hp, hm⟩, rfl⟩, ?_, ?_⟩
  · rw [← List.foldl_append, Attachments.tally_foldl_add, Attachments.tally_foldl_add,
      List.map_append, Attachment.map_unplaced_recordsOf, Attachment.map_unplaced_recordsOf,
      Attachment.map_unplaced_recordsOf, List.filterMap_append]
  · rw [← List.foldl_append, Attachment.records_foldl_add, Attachment.records_foldl_add,
      List.map_append, List.map_append, List.map_append, Attachment.map_unplaced_recordsOf,
      Attachment.map_unplaced_recordsOf, Attachment.map_unplaced_recordsOf, List.filterMap_append]

end Extraction

namespace Attachments

/-- **The records and their tally stay in step.** Whatever is added and searched, beginning with
nothing, and wherever a search ends, the tally is that of the records. And parts that are searched
without a fault come to one tally, and to the same records but for their places, whether they are
searched together or one lot after the other. -/
theorem tallied_and_searched_in_lots {ε : Type} :
    (∀ steps, ∃ reached, (({} : Attachments).run steps : Noted ε Attachments).result = .ok reached ∧
      reached.Tallied) ∧
    ∀ settings known parts more first second,
      (Extraction.ofParts settings known parts : Noted ε Extraction).result =
        .ok { found := first } →
      (Extraction.ofParts settings first more : Noted ε Extraction).result =
        .ok { found := second } →
      ∃ joint, (Extraction.ofParts settings known (parts ++ more) : Noted ε Extraction).result =
          .ok { found := joint } ∧
        joint.tally = second.tally ∧
        joint.records.map (·.unplaced) = second.records.map (·.unplaced) :=
  ⟨tallied_run tallied_empty, fun _ _ _ _ _ _ hf hs => Extraction.ofParts_append hf hs⟩

/-- A search that ends early, a record that is added, and two parts of one type in two lots. -/
theorem tallied_and_searched_in_lots_of_fault :
    (∃ reached, (({} : Attachments).run [
        .search {} [
          Part.ofHeaders [("Content-Type".toList, "text/html; name=a.htm".toList)],
          Part.ofHeaders [("Content-Disposition".toList, "attachment; filename*=hex''41".toList)]],
        .add { name := "b.txt".toList, extension := "txt".toList },
        .search {} [Part.ofHeaders [("Content-Type".toList, "text/html; name=c.txt".toList)]]] :
          Noted Header.HeaderFault Attachments).result = .ok reached ∧
      reached.tally = ⟨3, ["text/html".toList], ["htm".toList, "txt".toList]⟩ ∧ reached.Tallied) ∧
    ∃ joint, (Extraction.ofParts {} {} [
        Part.ofHeaders [("Content-Type".toList, "text/html; name=a.htm".toList)],
        Part.ofHeaders [("Content-Type".toList, "text/html; name=c.txt".toList)]] :
          Noted Header.HeaderFault Extraction).result = .ok { found := joint } ∧
      joint.tally = ⟨2, ["text/html".toList], ["htm".toList, "txt".toList]⟩ := by
  have hv : (({} : Attachments).run [
      .search {} [
        Part.ofHeaders [("Content-Type".toList, "text/html; name=a.htm".toList)],
        Part.ofHeaders [("Content-Disposition".toList, "attachment; filename*=hex''41".toList)]],
      .add { name := "b.txt".toList, extension := "txt".toList },
      .search {} [Part.ofHeaders [("Content-Type".toList, "text/html; name=c.txt".toList)]]] :
        Noted Header.HeaderFault Attachments).result.toOption.map (·.tally) =
      some ⟨3, ["text/html".toList], ["htm".toList, "txt".toList]⟩ := by
    decide +kernel
  constructor
  · obtain ⟨reached, hr, ht⟩ := (tallied_and_searched_in_lots (ε := Header.HeaderFault)).1 [
      .search {} [
        Part.ofHeaders [("Content-Type".toList, "text/html; name=a.htm".toList)],
        Part.ofHeaders [("Content-Disposition".toList, "attachment; filename*=hex''41".toList)]],
      .add { name := "b.txt".toList, extension := "txt".toList },
      .search {} [Part.ofHeaders [("Content-Type".toList, "text/html; name=c.txt".toList)]]]
    rw [hr] at hv
    exact ⟨reached, hr, Option.some.inj hv, ht⟩
  · obtain ⟨joint, hj, ht, -⟩ := (tallied_and_searched_in_lots (ε := Header.HeaderFault)).2 {} {}
      [Part.ofHeaders [("Content-Type".toList, "text/html; name=a.htm".toList)]]
      [Part.ofHeaders [("Content-Type".toList, "text/html; name=c.txt".toList)]]
      { records := [
          { name := "a.htm".toList, extension := "htm".toList, mimeType := "text/html".toList,
            effectiveType := "text/html".toList }],
        tally := ⟨1, ["text/html".toList], ["htm".toList]⟩ }
      { records := [
          { name := "a.htm".toList, extension := "htm".toList, mimeType := "text/html".toList,
            effectiveType := "text/html".toList },
          { name := "c.txt".toList, extension := "txt".toList, mimeType := "text/html".toList,
            effectiveType := "text/html".toList }],
        tally := ⟨2, ["text/html".toList], ["htm".toList, "txt".toList]⟩ }
      (by decide +kernel) (by decide +kernel)
    exact ⟨joint, hj, ht⟩

end Attachments
end MailScreen
