import Mathlib.Data.List.Forall2
import MailScreen.Proofs.FirstFailure
import MailScreen.Proofs.Message.Lines
import MailScreen.Proofs.Message.TypeValue

/-!
# The parts of a mail that is written

The mail that stands for an Outlook message is made of lines, and its parts are found again by their
separators. **If no line that is written has a line break in it, the parts of the mail are its own
headers, those of the text and those of each attachment, and nothing else**
(`OutlookMessage.parts_toMail`). An attachment that is itself a message encloses one, which has no
headers.
-/
namespace MailScreen.OutlookMessage

open Ascii Header MessageLine MessageStructure

/-! ## Words on one line -/

theorem mem_wordsFrom {word t piece : Text} (hw : ∀ c ∈ word, isBlank c = false)
    (h : piece ∈ Text.wordsFrom word t) : piece ≠ [] ∧ ∀ c ∈ piece, isBlank c = false := by
  fun_induction Text.wordsFrom word t with
  | case1 => simp at h
  | case2 word hne =>
    obtain rfl := List.mem_singleton.mp h
    exact ⟨by simpa using hne, fun c hc => hw c (List.mem_reverse.mp hc)⟩
  | case3 word c rest hb hne ih => exact ih (by simp) h
  | case4 word c rest hb hne ih =>
    rcases List.mem_cons.mp h with rfl | h
    · exact ⟨by simpa using hne, fun d hd => hw d (List.mem_reverse.mp hd)⟩
    · exact ih (by simp) h
  | case5 word c rest hb ih =>
    refine ih ?_ h
    intro d hd
    rcases List.mem_cons.mp hd with rfl | hd
    · simpa using hb
    · exact hw d hd

/-- A text on one line can stand in a header. -/
theorem isHeader_oneLine {name : Text} (hn : name ≠ []) (hh : name.head? ≠ some '-')
    (hc : ∀ c ∈ name, MessageLine.isNameChar c = true) (t : Text) :
    IsHeader (name, oneLine t) := by
  have hw : ∀ word ∈ Text.words t, word ≠ [] ∧ ∀ c ∈ word, isBlank c = false :=
    fun word h => mem_wordsFrom (by simp) h
  refine ⟨hn, hh, hc, ?_, ?_⟩
  · exact NoBreak.intercalate (by decide) fun word hword => NoBreak.of_noBlank (hw word hword).2
  · intro c hm
    unfold oneLine at hm
    cases hws : Text.words t with
    | nil =>
      rw [hws] at hm
      exact absurd hm (by simp)
    | cons word rest =>
      obtain ⟨hne, hb⟩ := hw word (by rw [hws]; exact List.mem_cons_self ..)
      obtain ⟨d, left, rfl⟩ := List.exists_cons_of_ne_nil hne
      have hh : (List.intercalate [' '] ((d :: left) :: rest)).head? = some d := by
        cases rest <;> rfl
      rw [hws, hh] at hm
      rw [← Option.some.inj hm]
      exact isSpaceOrTab_of_not_isBlank (hb d (List.mem_cons_self ..))

/-! ## Headers -/

/-- The headers of the mail itself. -/
def headHeaders (boundary : Text) (message : OutlookMessage) : HeaderList :=
  [("From".toList, oneLine message.sender), ("To".toList, oneLine message.recipient),
    ("Subject".toList, oneLine message.subject), ("MIME-Version".toList, "1.0".toList),
    ("Content-Type".toList, "multipart/mixed".toList ++ parameterText "boundary" boundary)]

/-- The headers of the part of text. -/
def textHeaders : HeaderList := [("Content-Type".toList, "text/plain; charset=utf-8".toList)]

/-- The headers of the message that an attachment encloses if it is one. -/
def enclosedHeaders (attachment : OutlookAttachment) : List HeaderList :=
  if PartType.kindOf (Text.lower (typeName attachment)) = "message".toList then [[]] else []

/-- The headers of the parts of the mail, in order. -/
def writtenParts (boundary : Text) (message : OutlookMessage) : List HeaderList :=
  headHeaders boundary message :: textHeaders ::
    message.attachments.flatMap fun attachment =>
      attachmentHeaders attachment :: enclosedHeaders attachment

/-- The lines of the parts between the separators. -/
def partTexts (message : OutlookMessage) : List (List Text) :=
  writtenLines textHeaders :: message.attachments.map (writtenLines ∘ attachmentHeaders)

theorem attachmentLines_eq (boundary : Text) (attachment : OutlookAttachment) :
    attachmentLines boundary attachment =
      ("--".toList ++ boundary) :: writtenLines (attachmentHeaders attachment) := by
  have ht : ∀ t : Text, "Content-Type: ".toList ++ t = headerLine ("Content-Type".toList, t) :=
    fun _ => rfl
  have hd : ∀ t : Text, "Content-Disposition: attachment".toList ++ t =
      headerLine ("Content-Disposition".toList, "attachment".toList ++ t) := fun _ => rfl
  have hw : ∀ t d : Text, [headerLine ("Content-Type".toList, t),
      headerLine ("Content-Disposition".toList, d)] ++ [[], []] =
      writtenLines [("Content-Type".toList, t), ("Content-Disposition".toList, d)] :=
    fun _ _ => rfl
  unfold attachmentLines attachmentHeaders typeValue dispositionValue parameterText
  rw [← hw, ← ht, ← hd]
  by_cases hn : (fileName attachment).isEmpty
  · simp only [hn, if_true, List.append_nil, List.cons_append]
  · simp only [hn, if_false, Bool.false_eq_true, List.append_assoc, List.cons_append]

variable {boundary : Text}

theorem headLines_eq (hb : IsBoundary boundary) (message : OutlookMessage) :
    headLines boundary message =
      (headHeaders boundary message).map headerLine ++ [] ::
        ("--".toList ++ boundary) :: writtenLines textHeaders := by
  have hl : "Content-Type: multipart/mixed; boundary=\"".toList ++ boundary ++ ['"'] =
      headerLine ("Content-Type".toList,
        "multipart/mixed".toList ++ parameterText "boundary" boundary) := by
    rw [parameterText_boundary hb, hb.closing_eq]
    rfl
  unfold headLines
  rw [hl]
  rfl

/-- **The mail is its headers and its parts with separators between them**, a line each. -/
theorem toMail_eq (hb : IsBoundary boundary) (message : OutlookMessage) :
    toMail boundary message =
      List.intercalate ['\n'] (((headHeaders boundary message).map headerLine ++ [] ::
        separatedLines ("--".toList ++ boundary) ("--".toList ++ boundary ++ "--".toList)
          (partTexts message)) ++ [[]]) := by
  have hp : ∀ first : Text, message.attachments.flatMap (attachmentLines first) =
      (message.attachments.map (writtenLines ∘ attachmentHeaders)).flatMap
        fun part => ("--".toList ++ first) :: part := by
    intro first
    rw [List.flatMap_map]
    exact List.flatMap_congr fun attachment _ => attachmentLines_eq first attachment
  unfold toMail
  rw [headLines_eq hb, hp, partTexts, separatedLines, List.flatMap_cons]
  simp only [List.append_assoc, List.cons_append, List.nil_append]

/-! ## Lines -/

/-- A parameter has line breaks only if its value is ASCII and has some. -/
theorem noBreak_parameterText {name : String} (hn : IsToken name.toList) {value : Text}
    (hv : IsAscii value → NoBreak value) : NoBreak (parameterText name value) := by
  rw [parameterText_eq]
  split
  · decide
  · split
    · rename_i ha
      have hb : NoBreak value := hv fun c hc => by simpa using List.all_eq_true.mp ha c hc
      exact NoBreak.append (by decide) (NoBreak.append (.of_isToken hn)
        (NoBreak.append (s := ['=', '"']) (by decide)
          (NoBreak.append (noBreak_quoteChar hb) (by decide))))
    · have he : NoBreak (extendedValue value) := .of_noBlank (noBlank_extendedValue value)
      exact NoBreak.append (by decide)
        (NoBreak.append (NoBreak.append (.of_isToken hn) (by decide))
          (NoBreak.append (s := ['=']) (by decide) he))

/-- A header whose value starts with what is no blank and has no line breaks. -/
theorem isHeader_append {name start value : Text} (hn : name ≠ []) (hh : name.head? ≠ some '-')
    (hc : ∀ c ∈ name, MessageLine.isNameChar c = true) (hs : IsStart start)
    (hb : NoBreak (start ++ value)) : IsHeader (name, start ++ value) := by
  refine ⟨hn, hh, hc, hb, Text.forall_head?_append hs.ne_nil fun c hm => ?_⟩
  exact isSpaceOrTab_of_not_isBlank (hs.noBlank c hm)

/-- **The headers of an attachment can stand on a line each** if its name has no line breaks or is
not ASCII. -/
theorem isHeader_attachmentHeaders {attachment : OutlookAttachment}
    (ht : IsTypeName (typeName attachment))
    (hv : IsAscii (fileName attachment) → NoBreak (fileName attachment)) :
    ∀ header ∈ attachmentHeaders attachment, IsHeader header := by
  unfold attachmentHeaders
  rw [List.forall_mem_cons, List.forall_mem_singleton]
  refine ⟨?_, ?_⟩
  · exact isHeader_append (by decide) (by decide) (by decide) ht.isStart
      (NoBreak.append (.of_noBlank ht.isStart.noBlank)
        (noBreak_parameterText isName_name.toIsToken hv))
  · exact isHeader_append (by decide) (by decide) (by decide) ⟨by decide, by decide⟩
      (NoBreak.append (by decide) (noBreak_parameterText isName_filename.toIsToken hv))

theorem isTypeName_mixed : IsTypeName "multipart/mixed".toList :=
  ⟨"multipart".toList, "mixed".toList, by decide, by decide, rfl⟩

theorem IsBoundary.noBreak (hb : IsBoundary boundary) : NoBreak boundary :=
  hb.forall_mem (by decide +kernel)

theorem isHeader_headHeaders (hb : IsBoundary boundary) (message : OutlookMessage) :
    ∀ header ∈ headHeaders boundary message, IsHeader header := by
  have hversion : IsHeader ("MIME-Version".toList, "1.0".toList) := by
    refine ⟨by decide, by decide, by decide, by decide, fun c hc => ?_⟩
    rw [← Option.some.inj hc]
    decide
  have hv : NoBreak ("multipart/mixed".toList ++ parameterText "boundary" boundary) :=
    NoBreak.append (by decide) (noBreak_parameterText isName_boundary.toIsToken fun _ => hb.noBreak)
  have htype : IsHeader ("Content-Type".toList, _) :=
    isHeader_append (by decide) (by decide) (by decide) isTypeName_mixed.isStart hv
  unfold headHeaders
  rw [List.forall_mem_cons, List.forall_mem_cons, List.forall_mem_cons, List.forall_mem_cons,
    List.forall_mem_singleton]
  refine ⟨?_, ?_, ?_, hversion, htype⟩
  · exact isHeader_oneLine (by decide) (by decide) (by decide) message.sender
  · exact isHeader_oneLine (by decide) (by decide) (by decide) message.recipient
  · exact isHeader_oneLine (by decide) (by decide) (by decide) message.subject

theorem isHeader_textHeaders : ∀ header ∈ textHeaders, IsHeader header := by
  unfold textHeaders
  rw [List.forall_mem_singleton]
  refine ⟨by decide, by decide, by decide, by decide, fun c hc => ?_⟩
  rw [← Option.some.inj hc]
  decide

/-! ## Parts -/

/-- The parts of a message are its headers and then the parts of its parts. -/
theorem parts_eq {inDigest : Bool} {lines body : List Text} {headers : HeaderList} {type : PartType}
    (hs : split lines = (headers, body)) (ht : PartType.ofHeaders inDigest headers = .ok type)
    {bodies : List (List Text)} (hl : partLines type body = bodies)
    {inner : List (List HeaderList)}
    (hi : List.Forall₂ (fun part found => parts (isDigest type) part = .ok found) bodies inner) :
    parts inDigest lines = .ok (headers :: inner.flatten) := by
  obtain rfl : (split lines).1 = headers := congrArg Prod.fst hs
  obtain rfl : (split lines).2 = body := congrArg Prod.snd hs
  subst hl
  rw [parts]
  split
  · rename_i fault hf
    rw [ht] at hf
    cases hf
  · rename_i type' hf
    obtain rfl := Except.ok.inj (ht.symm.trans hf)
    rw [List.mapM_subtype (g := parts (isDigest type)) fun _ _ => rfl, List.unattach_attach,
      mapM_eq_ok_iff.mpr hi]
    rfl

/-- A part without headers that is not in a digest has no parts. -/
theorem parts_plain {lines : List Text} (hs : (split lines).1 = []) :
    parts false lines = .ok [[]] := by
  have ht : PartType.ofHeaders false [] = .ok PartType.plain := rfl
  exact parts_eq (Prod.ext hs rfl) ht (partLines_plain _) .nil

theorem ofHeaders_first (inDigest : Bool) (value : Text) (rest : HeaderList) :
    PartType.ofHeaders inDigest (("Content-Type".toList, value) :: rest) =
      PartType.ofValue value := by
  unfold PartType.ofHeaders
  rw [List.find?_cons_of_pos
    (p := fun header : Text × Text => decide (Text.lower header.1 = "content-type".toList))
    (decide_eq_true lower_names.1)]

/-- A header of another name does not state the type. -/
theorem ofHeaders_skip {inDigest : Bool} {name value : Text} {rest : HeaderList}
    (hn : Text.lower name ≠ "content-type".toList) :
    PartType.ofHeaders inDigest ((name, value) :: rest) = PartType.ofHeaders inDigest rest := by
  unfold PartType.ofHeaders
  rw [List.find?_cons_of_neg
    (p := fun header : Text × Text => decide (Text.lower header.1 = "content-type".toList))
    (ne_true_of_eq_false (decide_eq_false hn))]

/-- A part with one empty line and no boundary has a part only if it is a message, and that one has
no headers. -/
theorem partLines_empty (name : Text) :
    ∃ part, (split part).1 = [] ∧ partLines ⟨name, none⟩ [['\n']] =
      if PartType.kindOf name = "message".toList then [part] else [] := by
  -- a delivery status is cut into blocks, every other message is one of its own
  by_cases hs : name = "message/delivery-status".toList
  · refine ⟨[], rfl, ?_⟩
    have hb : blocks [['\n']] = [[]] := by decide +kernel
    have hk : PartType.kindOf name = "message".toList := by
      rw [hs]
      decide
    rw [if_pos hk, partLines, if_pos hs, hb]
  · refine ⟨[['\n']], rfl, ?_⟩
    rw [partLines, if_neg hs]
    by_cases hk : PartType.kindOf name = "message".toList
    · rw [if_pos hk]
      exact if_pos hk
    · rw [if_neg hk]
      exact (if_neg hk).trans (ite_self _)

theorem isDigest_message {name : Text} {boundary : Option Text}
    (hk : PartType.kindOf name = "message".toList) : isDigest ⟨name, boundary⟩ = false := by
  refine decide_eq_false fun hn => ?_
  rw [show name = _ from hn] at hk
  exact absurd hk (by decide)

theorem isAttribute_name : PartType.IsAttribute "name".toList := ⟨isName_name, by decide⟩

/-- **The parts of the part that stands for an attachment** are the part itself and, if it is a
message, an empty one. -/
theorem parts_attachment {attachment : OutlookAttachment} (ht : IsTypeName (typeName attachment))
    (hv : IsAscii (fileName attachment) → NoBreak (fileName attachment)) :
    parts false ((writtenLines (attachmentHeaders attachment)).map ended) =
      .ok (attachmentHeaders attachment :: enclosedHeaders attachment) := by
  have hs := split_written (isHeader_attachmentHeaders ht hv)
  have hb : NoBreak (typeValue attachment) :=
    NoBreak.append (.of_noBlank ht.isStart.noBlank)
      (noBreak_parameterText isName_name.toIsToken hv)
  have hty : PartType.ofHeaders false (attachmentHeaders attachment) =
      .ok ⟨Text.lower (typeName attachment), none⟩ :=
    (ofHeaders_first _ _ _).trans
      (PartType.ofValue_written ht isAttribute_name (by decide +kernel) hb)
  obtain ⟨part, hp, hl⟩ := partLines_empty (Text.lower (typeName attachment))
  unfold enclosedHeaders
  split
  · rename_i hk
    rw [if_pos hk] at hl
    have hi : parts (isDigest ⟨Text.lower (typeName attachment), none⟩) part = .ok [[]] := by
      rw [isDigest_message hk]
      exact parts_plain hp
    exact parts_eq hs hty hl (.cons hi .nil)
  · rename_i hk
    rw [if_neg hk] at hl
    exact parts_eq hs hty hl .nil

/-- The part of text has no parts. -/
theorem parts_text :
    parts false ((writtenLines textHeaders).map ended) = .ok [textHeaders] := by
  have hty : PartType.ofHeaders false textHeaders = .ok ⟨"text/plain".toList, none⟩ := by
    decide +kernel
  have hl : partLines ⟨"text/plain".toList, none⟩ [['\n']] = [] := by decide +kernel
  exact parts_eq (split_written isHeader_textHeaders) hty hl .nil

theorem ofHeaders_head (hb : IsBoundary boundary) (message : OutlookMessage) :
    PartType.ofHeaders false (headHeaders boundary message) =
      .ok ⟨Text.lower "multipart/mixed".toList, some boundary⟩ := by
  have hv : NoBreak ("multipart/mixed".toList ++ parameterText "boundary" boundary) :=
    NoBreak.append (by decide) (noBreak_parameterText isName_boundary.toIsToken fun _ => hb.noBreak)
  unfold headHeaders
  rw [ofHeaders_skip (by decide +kernel), ofHeaders_skip (by decide +kernel),
    ofHeaders_skip (by decide +kernel), ofHeaders_skip (by decide +kernel), ofHeaders_first]
  exact PartType.ofValue_boundary isTypeName_mixed (by decide +kernel) hb hv

/-- The body of the mail is cut at its separators. -/
theorem partLines_head (body : List Text) :
    partLines ⟨Text.lower "multipart/mixed".toList, some boundary⟩ body =
      separated ("--".toList ++ boundary) body := by
  have h1 : Text.lower "multipart/mixed".toList ≠ "message/delivery-status".toList := by
    decide +kernel
  have h2 : PartType.kindOf (Text.lower "multipart/mixed".toList) ≠ "message".toList := by
    decide +kernel
  have h3 : PartType.kindOf (Text.lower "multipart/mixed".toList) = "multipart".toList := by
    decide +kernel
  rw [partLines, if_neg h1]
  exact (if_neg h2).trans (if_pos h3)

variable {message : OutlookMessage}

/-- What is asked of the attachments of a message: their types are types, and their names have no
line breaks if they are ASCII. -/
structure Plain (message : OutlookMessage) : Prop where
  types : ∀ attachment ∈ message.attachments, IsTypeName (typeName attachment)
  names : ∀ attachment ∈ message.attachments,
    IsAscii (fileName attachment) → NoBreak (fileName attachment)

theorem Plain.mem_partTexts (hm : Plain message) :
    ∀ part ∈ partTexts message, ∃ headers, (∀ header ∈ headers, IsHeader header) ∧
      part = writtenLines headers := by
  intro part hp
  rcases List.mem_cons.mp hp with rfl | hp
  · exact ⟨textHeaders, isHeader_textHeaders, rfl⟩
  · obtain ⟨attachment, ha, rfl⟩ := List.mem_map.mp hp
    exact ⟨_, isHeader_attachmentHeaders (hm.types _ ha) (hm.names _ ha), rfl⟩

/-- The lines of the mail. -/
theorem ofText_toMail (hb : IsBoundary boundary) (hm : Plain message) :
    ofText (toMail boundary message) =
      (headHeaders boundary message).map (ended ∘ headerLine) ++ ['\n'] ::
        separatedLines (ended ("--".toList ++ boundary))
          (ended ("--".toList ++ boundary ++ "--".toList))
          ((partTexts message).map (·.map ended)) := by
  have hs : NoBreak ("--".toList ++ boundary) := NoBreak.append (by decide) hb.noBreak
  have hl : NoBreak ("--".toList ++ boundary ++ "--".toList) := NoBreak.append hs (by decide)
  rw [toMail_eq hb, ofText_intercalate, List.map_append, List.map_map, List.map_cons,
    map_ended_separatedLines]
  · rfl
  · intro line hline
    rcases List.mem_append.mp hline with hline | hline
    · obtain ⟨header, hh, rfl⟩ := List.mem_map.mp hline
      exact (isHeader_headHeaders hb message header hh).noBreak_line
    · rcases List.mem_cons.mp hline with rfl | hline
      · decide
      · rcases mem_separatedLines hline with rfl | rfl | ⟨part, hp, hline⟩
        · exact hs
        · exact hl
        · obtain ⟨headers, hh, rfl⟩ := hm.mem_partTexts part hp
          rcases mem_writtenLines hline with rfl | ⟨header, hmem, rfl⟩
          · decide
          · exact (hh header hmem).noBreak_line

/-- **The parts of the mail are those that are written**, if no line of it has a line break. -/
theorem parts_toMail (hb : IsBoundary boundary) (hm : Plain message) :
    parts false (ofText (toMail boundary message)) = .ok (writtenParts boundary message) := by
  have hl : partLines ⟨Text.lower "multipart/mixed".toList, some boundary⟩
      (separatedLines (ended ("--".toList ++ boundary))
        (ended ("--".toList ++ boundary ++ "--".toList))
        ((partTexts message).map (·.map ended))) =
      (partTexts message).map (·.map ended) := by
    rw [partLines_head]
    refine separated_written (separatorKind?_first _) (separatorKind?_last _) ?_
    intro part hp
    obtain ⟨written, hw, rfl⟩ := List.mem_map.mp hp
    obtain ⟨headers, hh, rfl⟩ := hm.mem_partTexts written hw
    exact ⟨by simp [writtenLines], separatorKind?_written hh ('-' :: boundary)⟩
  have hi : List.Forall₂
      (fun part found => parts (isDigest
        ⟨Text.lower "multipart/mixed".toList, some boundary⟩) part = .ok found)
      ((partTexts message).map (·.map ended))
      ([textHeaders] :: message.attachments.map fun attachment =>
        attachmentHeaders attachment :: enclosedHeaders attachment) := by
    have hd : isDigest ⟨Text.lower "multipart/mixed".toList, some boundary⟩ = false :=
      (by decide +kernel :
        decide (Text.lower "multipart/mixed".toList = "multipart/digest".toList) = false)
    rw [hd]
    refine .cons parts_text ?_
    rw [List.map_map]
    refine List.forall₂_map_left_iff.mpr (List.forall₂_map_right_iff.mpr ?_)
    exact List.forall₂_same.mpr fun attachment ha =>
      parts_attachment (hm.types attachment ha) (hm.names attachment ha)
  rw [ofText_toMail hb hm,
    parts_eq (split_headers (isHeader_headHeaders hb message) _) (ofHeaders_head hb message) hl hi]
  rfl

end MailScreen.OutlookMessage
