import MailScreen.Proofs.Attachment.Containment
import MailScreen.Proofs.Attachment.PartHeaders
import MailScreen.Proofs.Header.OneParameter
import MailScreen.Proofs.Header.Primary

/-!
# The headers written for an attachment

The part that stands for an attachment of an Outlook message has two headers, each with the file
name as its only parameter. This module says what they are read as. **The record of such a part
has the type and the name of the attachment, except that line breaks in a name that is ASCII have
been unfolded** (`OutlookMessage.recordOf?_attachmentPart`): such a name is quoted, and a quotation
does not keep line breaks. Every other name is percent-encoded and comes through as it is.
-/
namespace MailScreen

open Ascii Header

/-! ## Unfolding -/

namespace Header

/-- A quoted text starts with a character that is not escaped exactly if the text does. -/
theorem head?_quoteChar_eq_iff {d : Char} (h1 : d ≠ '\\') (h2 : d ≠ '"') (t s : Text) :
    (t.flatMap OutlookMessage.quoteChar ++ '"' :: s).head? = some d ↔ t.head? = some d := by
  cases t with
  | nil => simp [Ne.symm h2]
  | cons c rest =>
    by_cases hc : c = '\\' ∨ c = '"'
    · have hd : c ≠ d := by
        rintro rfl
        rcases hc with hc | hc
        · exact h1 hc
        · exact h2 hc
      simp [OutlookMessage.quoteChar, hc, hd, Ne.symm h1]
    · simp [OutlookMessage.quoteChar, hc]

theorem startsWithSpace_iff (t : Text) :
    startsWithSpace t = true ↔ t.head? = some ' ' ∨ t.head? = some '\t' := by
  cases t with
  | nil => simp [startsWithSpace]
  | cons c rest => simp [startsWithSpace, isSpaceOrTab]

theorem startsWithSpace_quoteChar (t s : Text) :
    startsWithSpace (t.flatMap OutlookMessage.quoteChar ++ '"' :: s) = startsWithSpace t := by
  rw [Bool.eq_iff_iff, startsWithSpace_iff, startsWithSpace_iff,
    head?_quoteChar_eq_iff (by decide) (by decide), head?_quoteChar_eq_iff (by decide) (by decide)]

/-- **Quoting and unfolding can be exchanged.** -/
theorem unfoldLines_quoteChar (t s : Text) :
    unfoldLines (t.flatMap OutlookMessage.quoteChar ++ '"' :: s) =
      (unfoldLines t).flatMap OutlookMessage.quoteChar ++ '"' :: unfoldLines s := by
  fun_induction unfoldLines t with
  | case1 =>
    show unfoldLines (['"'] ++ s) = _
    rw [unfoldLines_append (by decide)]
    rfl
  | case2 rest h ih =>
    show unfoldLines ('\r' :: '\n' :: (rest.flatMap OutlookMessage.quoteChar ++ '"' :: s)) = _
    rw [unfoldLines, if_pos ((startsWithSpace_quoteChar rest s).trans h), ih]
  | case3 rest h ih =>
    show unfoldLines ('\r' :: '\n' :: (rest.flatMap OutlookMessage.quoteChar ++ '"' :: s)) = _
    rw [unfoldLines, if_neg (by rw [startsWithSpace_quoteChar]; exact h), ih]
    rfl
  | case4 rest h _ ih =>
    show unfoldLines ('\n' :: (rest.flatMap OutlookMessage.quoteChar ++ '"' :: s)) = _
    rw [unfoldLines, if_pos rfl, if_pos ((startsWithSpace_quoteChar rest s).trans h), ih]
    exact fun _ h => absurd h (by decide)
  | case5 rest h _ ih =>
    show unfoldLines ('\n' :: (rest.flatMap OutlookMessage.quoteChar ++ '"' :: s)) = _
    rw [unfoldLines, if_pos rfl, if_neg (by rw [startsWithSpace_quoteChar]; exact h), ih]
    · rfl
    · exact fun _ h => absurd h (by decide)
  | case6 rest hx _ ih =>
    show unfoldLines ('\r' :: (rest.flatMap OutlookMessage.quoteChar ++ '"' :: s)) = _
    rw [unfoldLines, if_neg (by decide), if_pos rfl, ih]
    · rfl
    · -- a line feed after the carriage return is not escaped, so it is one of the text
      intro left _ hl
      have hh : rest.head? = some '\n' :=
        (head?_quoteChar_eq_iff (by decide) (by decide) rest s).mp (by rw [hl]; rfl)
      obtain ⟨left', rfl⟩ : ∃ left', rest = '\n' :: left' := by
        cases rest with
        | nil => cases hh
        | cons c rest => exact ⟨rest, by rw [Option.some.inj hh]⟩
      exact hx left' rfl rfl
  | case7 c rest hx hn hr ih =>
    have hq : NoBreak (OutlookMessage.quoteChar c) := by
      unfold OutlookMessage.quoteChar
      split
      · simp [NoBreak, hn, hr]
      · simp [NoBreak, hn, hr]
    rw [List.flatMap_cons, List.flatMap_cons, List.append_assoc, unfoldLines_append hq, ih,
      List.append_assoc]

end Header

namespace OutlookMessage

/-! ## What is written -/

/-- A type and a subtype, each a token, with a slash between them. -/
def IsTypeName (t : Text) : Prop :=
  ∃ kind subtype, IsToken kind ∧ IsToken subtype ∧ t = kind ++ '/' :: subtype

/-- A parameter as it is written after a primary value, unless it is empty. -/
def parameterText (name : String) (value : Text) : Text :=
  if value.isEmpty then [] else "; ".toList ++ formatParameter name value

/-- The value of the Content-Type of an attachment. -/
def typeValue (attachment : OutlookAttachment) : Text :=
  typeName attachment ++ parameterText "name" (fileName attachment)

/-- The value of the Content-Disposition of an attachment. -/
def dispositionValue (attachment : OutlookAttachment) : Text :=
  "attachment".toList ++ parameterText "filename" (fileName attachment)

/-! ## What is read -/

/-- The name that a name is read as: line breaks are lost if it is quoted. -/
def readName (value : Text) : Text :=
  if value.all (·.toNat < 0x80) then unfoldLines value else value

/-- A parameter as it stands when its header has been unfolded. -/
def unfoldedText (name : String) (value : Text) : Text :=
  if value.isEmpty then []
  else if value.all (·.toNat < 0x80) then
    "; ".toList ++ (name.toList ++ '=' :: '"' :: ((unfoldLines value).flatMap quoteChar ++ ['"']))
  else "; ".toList ++ ((name.toList ++ ['*']) ++ '=' :: extendedValue value)

/-- What a header starts with: it is no blank, ends in none and has no line breaks. -/
structure IsStart (t : Text) : Prop where
  ne_nil : t ≠ []
  noBlank : ∀ c ∈ t, isBlank c = false

theorem parameterText_eq (name : String) (value : Text) :
    parameterText name value =
      if value.isEmpty then []
      else if value.all (·.toNat < 0x80) then
        "; ".toList ++ (name.toList ++ '=' :: '"' :: (value.flatMap quoteChar ++ ['"']))
      else "; ".toList ++ ((name.toList ++ ['*']) ++ '=' :: extendedValue value) := by
  rw [parameterText, formatParameter_eq]
  split
  · rfl
  · split <;> rfl

theorem noBlank_extendedValue (t : Text) : ∀ c ∈ extendedValue t, isBlank c = false :=
  forall_mem_extendedValue t (by decide +kernel)

theorem unfoldLines_parameterText {name : String} (hn : IsToken name.toList) (value : Text) :
    unfoldLines (parameterText name value) = unfoldedText name value := by
  rw [parameterText_eq, unfoldedText]
  have hb : ∀ s u : Text, NoBreak s →
      unfoldLines ("; ".toList ++ (name.toList ++ (s ++ u))) =
        "; ".toList ++ (name.toList ++ (s ++ unfoldLines u)) := by
    intro s u hs
    rw [unfoldLines_append (by decide), unfoldLines_append (.of_isToken hn),
      unfoldLines_append hs]
  split
  · rfl
  · split
    · rw [show '=' :: '"' :: (value.flatMap quoteChar ++ ['"']) =
        ['=', '"'] ++ (value.flatMap quoteChar ++ '"' :: []) from rfl, hb _ _ (by decide),
        unfoldLines_quoteChar]
      rfl
    · have he : NoBreak (extendedValue value) := .of_noBlank (noBlank_extendedValue value)
      rw [List.append_assoc, show ['*'] ++ '=' :: extendedValue value =
        ['*', '='] ++ extendedValue value from rfl, hb _ _ (by decide), unfoldLines_of_noBreak he]

/-- A parameter ends in no blank. -/
theorem unfoldedText_getLast? (name : String) (value : Text) :
    ∀ c ∈ (unfoldedText name value).getLast?, isBlank c = false := by
  unfold unfoldedText
  split
  · simp
  · split
    · intro c hc
      rw [List.getLast?_append_of_ne_nil _ (by simp), List.getLast?_append_of_ne_nil _ (by simp),
        show '=' :: '"' :: ((unfoldLines value).flatMap quoteChar ++ ['"']) =
          ('=' :: '"' :: (unfoldLines value).flatMap quoteChar) ++ ['"'] from rfl,
        List.getLast?_append_of_ne_nil _ (by simp)] at hc
      obtain rfl : '"' = c := Option.some.inj hc
      decide
    · intro c hc
      have he : extendedValue value ≠ [] := List.append_ne_nil_of_left_ne_nil (by decide) _
      rw [List.getLast?_append_of_ne_nil _ (by simp), List.getLast?_append_of_ne_nil _ (by simp),
        show '=' :: extendedValue value = ['='] ++ extendedValue value from rfl,
        List.getLast?_append_of_ne_nil _ he] at hc
      exact noBlank_extendedValue value c (List.mem_of_getLast? hc)

/-- **Unfolding a header that is written here unfolds a name in quotation marks.** -/
theorem unfold_written {start : Text} {name : String} (hs : IsStart start)
    (hn : IsToken name.toList) (value : Text) :
    unfold (start ++ parameterText name value) = start ++ unfoldedText name value := by
  rw [unfold, unfoldLines_append (.of_noBlank hs.noBlank), unfoldLines_parameterText hn,
    Text.trim_of_ends]
  · exact Text.forall_head?_append hs.ne_nil hs.noBlank
  · exact Text.forall_getLast?_append (fun c hc => hs.noBlank c (List.mem_of_getLast? hc))
      (unfoldedText_getLast? name value)

/-! ## Reading what is written -/

theorem IsTypeName.isStart {t : Text} (ht : IsTypeName t) : IsStart t := by
  obtain ⟨kind, subtype, hk, hs, rfl⟩ := ht
  refine ⟨by simp, ?_⟩
  intro c hc
  rcases List.mem_append.mp hc with hc | hc
  · exact isBlank_of_isToken hk c hc
  · rcases List.mem_cons.mp hc with rfl | hc
    · decide
    · exact isBlank_of_isToken hs c hc

theorem unfoldedText_head? (name : String) (value : Text) :
    ∀ c ∈ (unfoldedText name value).head?, c = ';' := by
  unfold unfoldedText
  split
  · simp
  · split
    · intro c hc
      exact (Option.some.inj hc).symm
    · intro c hc
      exact (Option.some.inj hc).symm

/-- The parameters of a header that is written here. -/
def readParameters (name : String) (value : Text) : Table Text :=
  if value.isEmpty then [] else [(name.toList, readName value)]

variable {settings : Settings} {name : String}

theorem parameters_unfoldedText (hd : settings.decodeEncodedWords = false)
    (hn : IsName name.toList) (value : Text) :
    (parameters settings (unfoldedText name value)).result = .ok (readParameters name value) := by
  unfold unfoldedText readParameters readName
  split
  · rw [parameters_result, items_nil, combine_result, hd]
    rfl
  · split
    · exact parameters_of_quoted hd hn _
    · exact parameters_of_extended hd hn _

/-- A parameter ends a primary value, and so does nothing. -/
theorem endsPrimary_unfoldedText (name : String) (value : Text) :
    EndsPrimary (unfoldedText name value) := by
  have hh := unfoldedText_head? name value
  refine ⟨fun c hc => by rw [hh c hc]; decide, ?_⟩
  rw [skipBlanks_of_head fun c hc => by rw [hh c hc]; decide]
  intro h
  exact absurd (hh '=' h) (by decide)

/-- **A Content-Disposition that is written here is read back**, line breaks in a quoted name
apart. -/
theorem parseDisposition_written (hd : settings.decodeEncodedWords = false)
    (hn : IsName name.toList) {primary : Text} (hp : IsToken primary) (value : Text) :
    (parseDisposition settings (primary ++ parameterText name value)).result =
      .ok ⟨Text.lower primary, readParameters name value⟩ := by
  have hs : IsStart primary := ⟨hp.ne_nil, isBlank_of_isToken hp⟩
  exact parseDisposition_of_unfold (unfold_written hs hn.toIsToken value) hp
    (endsPrimary_unfoldedText name value) (parameters_unfoldedText hd hn value)

/-- **A Content-Type that is written here is read back**, line breaks in a quoted name apart. -/
theorem parseContentType_written (hd : settings.decodeEncodedWords = false)
    (hn : IsName name.toList) {type : Text} (ht : IsTypeName type) (value : Text) :
    (parseContentType settings (type ++ parameterText name value)).result =
      .ok ⟨Text.lower type, readParameters name value⟩ := by
  have hs : IsStart type := ht.isStart
  obtain ⟨kind, subtype, hk, hsub, rfl⟩ := ht
  exact parseContentType_of_unfold (unfold_written hs hn.toIsToken value) hk hsub
    (endsPrimary_unfoldedText name value) (parameters_unfoldedText hd hn value)

/-! ## The record of a part -/

/-- The headers of the part that stands for an attachment. -/
def attachmentHeaders (attachment : OutlookAttachment) : List (Text × Text) :=
  [("Content-Type".toList, typeValue attachment),
    ("Content-Disposition".toList, dispositionValue attachment)]

/-- The record of an attachment by the name that is read. -/
def attachmentRecord (attachment : OutlookAttachment) (index : Nat) : AttachmentRecord where
  name := readName (fileName attachment)
  extension := FileName.extension (readName (fileName attachment))
  mimeType := Text.lower (typeName attachment)
  effectiveType :=
    if FileName.isWebPage (readName (fileName attachment)) then "text/html".toList
    else Text.lower (typeName attachment)
  disposition := "attachment".toList
  partIndex := (index : Int)

theorem isName_name : IsName "name".toList := by decide

theorem isName_filename : IsName "filename".toList := by decide

theorem lower_names :
    Text.lower "Content-Type".toList = "content-type".toList ∧
      Text.lower "Content-Disposition".toList = "content-disposition".toList := by
  decide +kernel

theorem header?_type (attachment : OutlookAttachment) :
    (Part.ofHeaders (attachmentHeaders attachment)).header? "content-type".toList =
      some (typeValue attachment) :=
  Part.header?_first (by decide +kernel)

theorem header?_disposition (attachment : OutlookAttachment) :
    (Part.ofHeaders (attachmentHeaders attachment)).header? "content-disposition".toList =
      some (dispositionValue attachment) :=
  (Part.header?_skip (by decide +kernel)).trans (Part.header?_first (by decide +kernel))

theorem header?_encoding (attachment : OutlookAttachment) :
    (Part.ofHeaders (attachmentHeaders attachment)).header? "content-transfer-encoding".toList =
      none :=
  (Part.header?_skip (by decide +kernel)).trans
    ((Part.header?_skip (by decide +kernel)).trans (Part.header?_nil _))

theorem IsStart.isAllBlank_append {t : Text} (ht : IsStart t) (s : Text) :
    Text.isAllBlank (t ++ s) = false := by
  obtain ⟨c, rest, rfl⟩ := List.exists_cons_of_ne_nil ht.ne_nil
  simp [Text.isAllBlank, ht.noBlank c (List.mem_cons_self ..)]

/-- A parameter is found under its name if it is written, and not under another. -/
theorem find?_readParameters (name : String) (value other : Text) :
    (readParameters name value).find? other =
      if value.isEmpty || name.toList ≠ other then none else some (readName value) := by
  unfold readParameters
  by_cases hv : value.isEmpty
  · simp [hv, Table.find?]
  · by_cases hn : name.toList = other
    · simp [hv, Table.find?, hn]
    · simp [hv, Table.find?, hn]

variable {attachment : OutlookAttachment}

theorem parseContentType_typeValue (hd : settings.decodeEncodedWords = false)
    (ht : IsTypeName (typeName attachment)) :
    (parseContentType settings (typeValue attachment)).result =
      .ok ⟨Text.lower (typeName attachment), readParameters "name" (fileName attachment)⟩ :=
  parseContentType_written hd isName_name ht _

theorem isToken_attachment : IsToken "attachment".toList := by decide

theorem parseDisposition_dispositionValue (hd : settings.decodeEncodedWords = false)
    (attachment : OutlookAttachment) :
    (parseDisposition settings (dispositionValue attachment)).result =
      .ok ⟨"attachment".toList, readParameters "filename" (fileName attachment)⟩ := by
  have hl : Text.lower "attachment".toList = "attachment".toList := by decide +kernel
  rw [← hl]
  exact parseDisposition_written hd isName_filename isToken_attachment _

/-- The part that stands for an attachment has no unusable headers. -/
theorem not_unusable_attachmentPart (ht : IsTypeName (typeName attachment)) :
    ¬ (Part.ofHeaders (attachmentHeaders attachment)).Unusable := by
  -- whether a header is unusable does not depend on the settings, so any will do
  let settings : Settings := { decodeEncodedWords := false }
  rintro (⟨raw, hr, hu⟩ | ⟨raw, hr, hu⟩)
  · rw [header?_disposition] at hr
    obtain rfl := Option.some.inj hr
    rw [← parseDisposition_fault_iff settings, parseDisposition_dispositionValue rfl] at hu
    exact not_failsUnexpectedly_ok _ hu
  · rw [header?_type] at hr
    obtain rfl := Option.some.inj hr
    rw [← parseContentType_fault_iff settings, parseContentType_typeValue rfl ht] at hu
    exact not_failsUnexpectedly_ok _ hu

/-- **The part that stands for an attachment has its record**, under the name that is read. -/
theorem recordOf?_attachmentPart (hd : settings.decodeEncodedWords = false)
    (ht : IsTypeName (typeName attachment)) (index : Nat) :
    Attachment.recordOf? settings (Part.ofHeaders (attachmentHeaders attachment)) index =
      some (attachmentRecord attachment index) := by
  have hdb : Text.isAllBlank (dispositionValue attachment) = false :=
    IsStart.isAllBlank_append ⟨by decide, by decide⟩ _
  have htb : Text.isAllBlank (typeValue attachment) = false := ht.isStart.isAllBlank_append _
  have hda := Attachment.absorb_of_ok hdb (parseDisposition_dispositionValue hd attachment)
  have hta := Attachment.absorb_of_ok htb (parseContentType_typeValue hd ht)
  have hname : Attachment.fileName
      { value := "attachment".toList, params := readParameters "filename" (fileName attachment) }
      { value := Text.lower (typeName attachment),
        params := readParameters "name" (fileName attachment) } =
      readName (fileName attachment) := by
    unfold Attachment.fileName
    rw [find?_readParameters, find?_readParameters]
    by_cases hv : (fileName attachment).isEmpty
    · rw [List.isEmpty_iff.mp hv]
      rfl
    · simp [hv]
  have hc : (readParameters "name" (fileName attachment)).find? "charset".toList = none := by
    rw [find?_readParameters, if_pos]
    simp
  unfold Attachment.recordOf?
  rw [header?_disposition, header?_type, header?_encoding, hda, hta]
  simp only [hname, hc, ne_eq, not_true_eq_false, decide_false, Bool.and_false, Bool.false_eq_true,
    if_false]
  rfl

end OutlookMessage

end MailScreen
