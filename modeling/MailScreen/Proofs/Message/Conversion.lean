import MailScreen.Message.Format
import MailScreen.Proofs.Message.WrittenParts

/-!
# Outlook messages as mail

An Outlook message is searched by way of the mail that stands for it. Its attachments are to come
out of that as they went in, each with its type and its name, and nothing else is to come out.
**That is so exactly if no name that is ASCII has a line break in it**
(`OutlookMessage.readsBack_iff`), whatever else stands in the names. Where one has, the line that it
stands on is cut in two: what comes after the break may be a header of its own, or end the headers,
and the attachment is lost (`OutlookMessage.searchMail_of_lineFeed`).
-/
namespace MailScreen

open Ascii Header

namespace Part

/-! ## Parts without names -/

/-- A part that names no attachment: it has no disposition, and its type can be read and has no name
with it. -/
structure Silent (part : Part) : Prop where
  disposition : part.header? "content-disposition".toList = none
  type : ∀ raw, part.header? "content-type".toList = some raw →
    ∀ settings : Settings, settings.decodeEncodedWords = false →
    ∃ header, (parseContentType settings raw).result = .ok header ∧
      header.params.find? "name".toList = none

variable {part : Part}

/-- A part that names no attachment has no unusable headers. -/
theorem Silent.not_unusable (hp : part.Silent) : ¬ part.Unusable := by
  rintro (⟨raw, hr, -⟩ | ⟨raw, hr, hu⟩)
  · rw [hp.disposition] at hr
    cases hr
  · obtain ⟨header, ho, -⟩ := hp.type raw hr { decodeEncodedWords := false } rfl
    rw [← parseContentType_fault_iff { decodeEncodedWords := false }, ho] at hu
    exact not_failsUnexpectedly_ok _ hu

/-- A part that names no attachment has no record. -/
theorem Silent.recordOf?_eq_none (hp : part.Silent) {settings : Settings}
    (hd : settings.decodeEncodedWords = false) (index : Nat) :
    Attachment.recordOf? settings part index = none := by
  have ht : (Attachment.absorb (parseContentType settings)
      (part.header? "content-type".toList)).params.find? "name".toList = none := by
    cases hr : part.header? "content-type".toList with
    | none => rfl
    | some raw =>
      obtain ⟨header, ho, hn⟩ := hp.type raw hr settings hd
      cases hb : Text.isAllBlank raw with
      | true => rw [Attachment.absorb_of_isAllBlank hb]; rfl
      | false => rw [Attachment.absorb_of_ok hb ho]; exact hn
  have hn : Attachment.fileName (Attachment.absorb (parseDisposition settings) none)
      (Attachment.absorb (parseContentType settings)
        (part.header? "content-type".toList)) = [] := by
    unfold Attachment.fileName
    rw [ht]
    rfl
  unfold Attachment.recordOf?
  rw [hp.disposition]
  simp only [hn]
  rfl

end Part

namespace OutlookMessage

/-! ## The parts of the mail -/

variable {settings : Settings} {boundary : Text}

/-- The headers of the mail name no attachment. -/
theorem silent_head (message : OutlookMessage) :
    (Part.ofHeaders (headHeaders boundary message)).Silent := by
  have ht : (Part.ofHeaders (headHeaders boundary message)).header? "content-type".toList =
      some ("multipart/mixed".toList ++ parameterText "boundary" boundary) := by
    unfold headHeaders
    rw [Part.header?_skip (by decide +kernel), Part.header?_skip (by decide +kernel),
      Part.header?_skip (by decide +kernel), Part.header?_skip (by decide +kernel),
      Part.header?_first (by decide +kernel)]
  refine ⟨?_, ?_⟩
  · unfold headHeaders
    rw [Part.header?_skip (by decide +kernel), Part.header?_skip (by decide +kernel),
      Part.header?_skip (by decide +kernel), Part.header?_skip (by decide +kernel),
      Part.header?_skip (by decide +kernel), Part.header?_nil]
  · intro raw hr settings hd
    rw [ht] at hr
    obtain rfl := Option.some.inj hr
    refine ⟨_, parseContentType_written hd isName_boundary isTypeName_mixed boundary, ?_⟩
    rw [find?_readParameters, if_pos]
    rw [Bool.or_eq_true]
    exact .inr (decide_eq_true (by decide))

theorem parseContentType_text (hd : settings.decodeEncodedWords = false) :
    (parseContentType settings "text/plain; charset=utf-8".toList).result =
      .ok ⟨"text/plain".toList, [("charset".toList, "utf-8".toList)]⟩ := by
  have hc : takeContentType? (skipBlanks (unfold "text/plain; charset=utf-8".toList)) =
      some ("text/plain".toList, "; charset=utf-8".toList) := by
    decide +kernel
  have hi : items "; charset=utf-8".toList = [.parameter "charset".toList "utf-8".toList] := by
    decide +kernel
  have hp : (parameters settings "; charset=utf-8".toList).result =
      .ok [("charset".toList, "utf-8".toList)] := by
    rw [parameters_of_item hd hi]
    decide +kernel
  have hl : Text.lower "text/plain".toList = "text/plain".toList := by decide +kernel
  rw [← hl]
  exact parseContentType_of_ok hc (by decide +kernel) hp

/-- The part of text names no attachment. -/
theorem silent_text : (Part.ofHeaders textHeaders).Silent := by
  have ht : (Part.ofHeaders textHeaders).header? "content-type".toList =
      some "text/plain; charset=utf-8".toList := Part.header?_first (by decide +kernel)
  refine ⟨?_, ?_⟩
  · unfold textHeaders
    rw [Part.header?_skip (by decide +kernel), Part.header?_nil]
  · intro raw hr settings hd
    rw [ht] at hr
    obtain rfl := Option.some.inj hr
    exact ⟨_, parseContentType_text hd, by decide⟩

/-- A part without headers names no attachment. -/
theorem silent_empty : (Part.ofHeaders []).Silent := by
  refine ⟨Part.header?_nil _, fun raw hr => ?_⟩
  rw [Part.header?_nil] at hr
  cases hr

/-! ## The search -/

/-- What is told of an attachment that is found: how it asks to be shown, its type and its name. -/
def told (record : AttachmentRecord) : Text × Text × Text :=
  (record.disposition, record.mimeType, record.name)

/-- What is to be told of an attachment, if its name is read as `name`. -/
def toldAs (attachment : OutlookAttachment) (name : Text) : Text × Text × Text :=
  ("attachment".toList, Text.lower (typeName attachment), name)

/-- **The parts that are written tell of each attachment**, under the name that is read. -/
theorem told_recordsOf (hd : settings.decodeEncodedWords = false)
    {attachments : List OutlookAttachment}
    (ht : ∀ attachment ∈ attachments, IsTypeName (typeName attachment)) (index : Nat) :
    (Attachment.recordsOf settings index
      ((attachments.flatMap fun attachment =>
        attachmentHeaders attachment :: enclosedHeaders attachment).map Part.ofHeaders)).map told =
      attachments.map fun attachment => toldAs attachment (readName (fileName attachment)) := by
  induction attachments generalizing index with
  | nil => rfl
  | cons attachment rest ih =>
    rw [List.forall_mem_cons] at ht
    rw [List.flatMap_cons, List.cons_append, List.map_cons, Attachment.recordsOf_cons,
      recordOf?_attachmentPart hd ht.1]
    have hr : ∀ index, (Attachment.recordsOf settings index
        ((enclosedHeaders attachment ++ rest.flatMap fun attachment =>
          attachmentHeaders attachment :: enclosedHeaders attachment).map
            Part.ofHeaders)).map told =
        rest.map fun attachment => toldAs attachment (readName (fileName attachment)) := by
      intro index
      unfold enclosedHeaders
      split
      · rw [List.singleton_append, List.map_cons, Attachment.recordsOf_cons,
          silent_empty.recordOf?_eq_none hd]
        exact ih ht.2 (index + 1)
      · exact ih ht.2 index
    rw [List.map_append, hr, List.map_cons]
    rfl

/-- Makes mail of a message, reads it and searches its parts. -/
def searchMail (settings : Settings) (boundary : Text) (message : OutlookMessage) :
    Noted TypeFault Extraction := do
  let mail ← convert boundary message
  match partsOfText mail with
  | .ok parts => Extraction.ofParts settings {} parts
  | .error fault => Noted.fail fault

/-- **A message reads back from its mail**: nothing is lost and nothing comes in. -/
structure ReadsBack (settings : Settings) (boundary : Text) (message : OutlookMessage) : Prop where
  /-- The mail has the parts that are written, and no others. -/
  parts : partsOfText (toMail boundary message) =
    .ok ((writtenParts boundary message).map Part.ofHeaders)
  /-- The search ends normally and tells of each attachment in order, by its type and name. -/
  records : ∃ found, (searchMail settings boundary message).result = .ok { found := found } ∧
    found.records.map told =
      message.attachments.map fun attachment => toldAs attachment (fileName attachment)

variable {message : OutlookMessage}

theorem result_noteAttachments {ε : Type} (index : Nat) (attachments : List OutlookAttachment) :
    (noteAttachments index attachments : Noted ε Unit).result = .ok () := by
  induction attachments generalizing index with
  | nil => rfl
  | cons attachment rest ih =>
    rw [noteAttachments, Noted.result_bind]
    exact ih (index + 1)

theorem result_convert {ε : Type} (boundary : Text) (message : OutlookMessage) :
    (convert boundary message : Noted ε Text).result = .ok (toMail boundary message) := by
  simp only [convert, Noted.result_bind, result_noteAttachments]
  rfl

/-- No part that is written has unusable headers. -/
theorem not_unusable_writtenParts
    (ht : ∀ attachment ∈ message.attachments, IsTypeName (typeName attachment)) :
    ∀ part ∈ (writtenParts boundary message).map Part.ofHeaders, ¬ part.Unusable := by
  intro part hp
  obtain ⟨headers, hh, rfl⟩ := List.mem_map.mp hp
  rcases List.mem_cons.mp hh with rfl | hh
  · exact (silent_head message).not_unusable
  rcases List.mem_cons.mp hh with rfl | hh
  · exact silent_text.not_unusable
  obtain ⟨attachment, ha, hh⟩ := List.mem_flatMap.mp hh
  rcases List.mem_cons.mp hh with rfl | hh
  · exact not_unusable_attachmentPart (ht attachment ha)
  · unfold enclosedHeaders at hh
    split at hh
    · rw [List.mem_singleton.mp hh]
      exact silent_empty.not_unusable
    · exact absurd hh List.not_mem_nil

/-- **Whatever the names, the parts that are written tell of the attachments** under the names that
are read. -/
theorem result_searchMail (hd : settings.decodeEncodedWords = false)
    (ht : ∀ attachment ∈ message.attachments, IsTypeName (typeName attachment))
    (hp : partsOfText (toMail boundary message) =
      .ok ((writtenParts boundary message).map Part.ofHeaders)) :
    ∃ found, (searchMail settings boundary message).result = .ok { found := found } ∧
      found.records.map told =
        message.attachments.map fun attachment =>
          toldAs attachment (readName (fileName attachment)) := by
  refine ⟨(Attachment.recordsOf settings 0
    ((writtenParts boundary message).map Part.ofHeaders)).foldl Attachments.add {}, ?_, ?_⟩
  · have hm : ∀ f : Text → Except TypeFault Extraction,
        (Except.ok (toMail boundary message) >>= f) = f (toMail boundary message) := fun _ => rfl
    rw [searchMail, Noted.result_bind, result_convert, hm, hp]
    exact Extraction.ofParts_result settings (not_unusable_writtenParts ht) {}
  · have hk : ({} : Attachments).records = [] := rfl
    rw [Attachment.records_foldl_add, hk, List.nil_append, writtenParts, List.map_cons,
      List.map_cons, Attachment.recordsOf_cons, Attachment.recordsOf_cons,
      (silent_head message).recordOf?_eq_none hd, silent_text.recordOf?_eq_none hd]
    exact told_recordsOf hd ht 2

/-- The types of attachments are types if those that are stated are. -/
theorem isTypeName_typeName {attachment : OutlookAttachment}
    (h : ∀ type ∈ attachment.mimeType, IsTypeName type) : IsTypeName (typeName attachment) := by
  have hu : IsTypeName unknownType :=
    ⟨"application".toList, "octet-stream".toList, by decide, by decide, rfl⟩
  unfold typeName nonempty?
  cases hm : attachment.mimeType with
  | none => exact hu
  | some type =>
    by_cases he : type.isEmpty = true
    · rw [Option.filter_some, if_neg (by simp [he])]
      exact hu
    · rw [Option.filter_some, if_pos (by simpa using he)]
      exact h type hm

/-- A name is read as it is unless it is ASCII and has line breaks. -/
theorem readName_eq_iff (name : Text) :
    readName name = name ↔ (IsAscii name → NoBreak name) := by
  have ha : name.all (·.toNat < 0x80) = true ↔ IsAscii name := by
    rw [List.all_eq_true]
    exact forall₂_congr fun _ _ => decide_eq_true_iff
  unfold readName
  by_cases h : IsAscii name
  · rw [if_pos (ha.mpr h)]
    constructor
    · intro he _
      rw [← he]
      exact noBreak_unfoldLines name
    · exact fun hn => unfoldLines_of_noBreak (hn h)
  · rw [if_neg fun he => h (ha.mp he)]
    exact ⟨fun _ hc => absurd hc h, fun _ => rfl⟩

/-- **An Outlook message reads back from its mail exactly if no name that is ASCII has a line break
in it**, where encoded words are not decoded and every type that is stated is a type. -/
theorem readsBack_iff (hd : settings.decodeEncodedWords = false) (hb : IsBoundary boundary)
    (ht : ∀ attachment ∈ message.attachments, ∀ type ∈ attachment.mimeType, IsTypeName type) :
    ReadsBack settings boundary message ↔
      ∀ attachment ∈ message.attachments,
        IsAscii (fileName attachment) → NoBreak (fileName attachment) := by
  have htypes : ∀ attachment ∈ message.attachments, IsTypeName (typeName attachment) :=
    fun attachment ha => isTypeName_typeName (ht attachment ha)
  constructor
  · -- with its own parts the mail tells of names as they are read, so each is read as it is
    rintro ⟨hp, found, hs, hf⟩ attachment ha
    obtain ⟨found', hs', hf'⟩ := result_searchMail hd htypes hp
    have he : found = found' := congrArg Extraction.found (Except.ok.inj (hs.symm.trans hs'))
    rw [← he, hf] at hf'
    have hn := List.map_inj_left.mp hf' attachment ha
    exact (readName_eq_iff _).mp (congrArg (fun told => told.2.2) hn).symm
  · intro hn
    have hp : partsOfText (toMail boundary message) =
        .ok ((writtenParts boundary message).map Part.ofHeaders) := by
      unfold partsOfText
      rw [parts_toMail hb ⟨htypes, hn⟩]
      rfl
    obtain ⟨found, hs, hf⟩ := result_searchMail hd htypes hp
    refine ⟨hp, found, hs, hf.trans (List.map_congr_left fun attachment ha => ?_)⟩
    rw [(readName_eq_iff _).mpr (hn attachment ha)]

/-- A name of ASCII with marks in it, and one that is not ASCII and has a line feed in it, on an
attachment that is itself a message. -/
theorem readsBack_of_marks :
    ReadsBack { decodeEncodedWords := false } outlookBoundary { attachments := [
      { longName := some "a\";b.txt".toList, mimeType := some "text/plain".toList },
      { longName := some "ä\n.eml".toList, mimeType := some "message/rfc822".toList }] } := by
  refine (readsBack_iff rfl (by decide +kernel) ?_).mpr (by decide +kernel)
  rw [List.forall_mem_cons, List.forall_mem_singleton]
  refine ⟨?_, ?_⟩
  · intro type ht
    rw [← Option.some.inj ht]
    exact ⟨"text".toList, "plain".toList, by decide, by decide, rfl⟩
  · intro type ht
    rw [← Option.some.inj ht]
    exact ⟨"message".toList, "rfc822".toList, by decide, by decide, rfl⟩

/-- An attachment whose name has a line feed in it is not found. -/
theorem searchMail_of_lineFeed :
    (searchMail { decodeEncodedWords := false } outlookBoundary { attachments := [
      { longName := some "a\nb.txt".toList, mimeType := some "text/plain".toList }] }).result =
      .ok { found := {} } := by
  decide +kernel

end OutlookMessage
end MailScreen
