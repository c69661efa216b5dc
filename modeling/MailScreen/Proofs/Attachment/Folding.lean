import MailScreen.Attachment.Extraction
import MailScreen.Proofs.Attachment.PartHeaders
import MailScreen.Proofs.Header.Primary

/-!
# Folded headers

A header that stands on one line may be folded: a line feed, with or without a carriage return
before it, is put before any of its spaces and tabs, be they between parameters, inside a quotation
or a comment, or at either end. Reading starts with unfolding, which gives the line back
(`Header.FoldsTo.unfoldLines_eq`). So **folding changes neither what a header is read as nor the
record of a part** (`Attachment.read_as_unfolded`), nor anything that is noted on the way.
-/
namespace MailScreen

namespace Header

/-- The second text is the first with line breaks put before some of its spaces and tabs. -/
inductive FoldsTo : Text → Text → Prop
  | nil : FoldsTo [] []
  /-- A character that nothing is put before. -/
  | keep {c : Char} {t folded : Text} (h : FoldsTo t folded) : FoldsTo (c :: t) (c :: folded)
  /-- A space or tab that a line break is put before. -/
  | fold {c : Char} {t folded lineBreak : Text} (hc : isSpaceOrTab c = true)
    (hb : lineBreak = "\n".toList ∨ lineBreak = "\r\n".toList) (h : FoldsTo t folded) :
    FoldsTo (c :: t) (lineBreak ++ c :: folded)

namespace FoldsTo

variable {t folded : Text}

theorem refl (t : Text) : FoldsTo t t := by
  induction t with
  | nil => exact .nil
  | cons c rest ih => exact .keep ih

theorem append {s folded' : Text} (h : FoldsTo t folded) (hs : FoldsTo s folded') :
    FoldsTo (t ++ s) (folded ++ folded') := by
  induction h with
  | nil => exact hs
  | keep _ ih => exact .keep ih
  | fold hc hb _ ih =>
    rw [List.append_assoc]
    exact .fold hc hb ih

/-- A line break before a space or tab is taken out. -/
theorem unfoldLines_lineBreak {c : Char} {lineBreak : Text} (hc : isSpaceOrTab c = true)
    (hb : lineBreak = "\n".toList ∨ lineBreak = "\r\n".toList) (s : Text) :
    unfoldLines (lineBreak ++ c :: s) = unfoldLines (c :: s) := by
  have hs : startsWithSpace (c :: s) = true := hc
  rcases hb with rfl | rfl
  · show unfoldLines ('\n' :: c :: s) = _
    rw [unfoldLines]
    · rw [if_pos rfl, if_pos hs]
    · simp
  · show unfoldLines ('\r' :: '\n' :: c :: s) = _
    rw [unfoldLines, if_pos hs]

/-- **Unfolding undoes folding.** -/
theorem unfoldLines_eq (h : FoldsTo t folded) (ht : NoBreak t) : unfoldLines folded = t := by
  -- what is not a line break stays, so the induction is on how the text was folded
  have keep {c : Char} {t : Text} (ht : NoBreak (c :: t)) (s : Text) :
      unfoldLines (c :: s) = c :: unfoldLines s :=
    unfoldLines_append (s := [c]) fun d hd => ht d (by simp_all)
  induction h with
  | nil => rfl
  | keep _ ih =>
    rw [keep ht, ih fun d hd => ht d (List.mem_cons_of_mem _ hd)]
  | fold hc hb _ ih =>
    rw [unfoldLines_lineBreak hc hb, keep ht, ih fun d hd => ht d (List.mem_cons_of_mem _ hd)]

theorem unfold_eq (h : FoldsTo t folded) (ht : NoBreak t) : unfold folded = unfold t := by
  rw [unfold, unfold, h.unfoldLines_eq ht, unfoldLines_of_noBreak ht]

/-- A folded header is blank if the header is. -/
theorem isAllBlank_eq (h : FoldsTo t folded) : Text.isAllBlank folded = Text.isAllBlank t := by
  unfold Text.isAllBlank
  induction h with
  | nil => rfl
  | keep _ ih => rw [List.all_cons, List.all_cons, ih]
  | @fold c t folded lineBreak _ hb _ ih =>
    have hl : lineBreak.all isBlank = true := by rcases hb with rfl | rfl <;> decide
    rw [List.all_append, hl, Bool.true_and, List.all_cons, List.all_cons, ih]

variable (settings : Settings)

/-- A folded Content-Type is read as it was before. -/
theorem parseContentType_eq (h : FoldsTo t folded) (ht : NoBreak t) :
    parseContentType settings folded = parseContentType settings t := by
  rw [parseContentType, parseContentType, h.unfold_eq ht]

/-- A folded Content-Disposition is read as it was before. -/
theorem parseDisposition_eq (h : FoldsTo t folded) (ht : NoBreak t) :
    parseDisposition settings folded = parseDisposition settings t := by
  rw [parseDisposition, parseDisposition, h.unfold_eq ht]

end FoldsTo
end Header

/-! ## Parts -/

namespace Part

open Header

/-- The names of the structured headers. -/
def structuredNames : List Text := ["content-disposition".toList, "content-type".toList]

/-- A header before and after a part is folded: the same, or a structured header on one line that
has been folded. -/
def FoldsHeader (name before after : Text) : Prop :=
  after = before ∨ Text.lower name ∈ structuredNames ∧ NoBreak before ∧ FoldsTo before after

/-- The second part is the first with structured headers folded: it has the same headers, and each
is as it was or has been folded. -/
def IsFolded (part folded : Part) : Prop :=
  ∀ name, Option.Rel (FoldsHeader name) (part.header? name) (folded.header? name)

/-- **Folding the lines of a header section folds the part.** -/
theorem isFolded_ofHeaders {headers folded : List (Text × Text)}
    (h : List.Forall₂ (fun header other => header.1 = other.1 ∧
      FoldsHeader header.1 header.2 other.2) headers folded) :
    (ofHeaders headers).IsFolded (ofHeaders folded) := by
  intro name
  rw [header?_ofHeaders, header?_ofHeaders]
  induction h with
  | nil => exact .none
  | @cons header other headers folded hf _ ih =>
    obtain ⟨hn, hv⟩ := hf
    by_cases hk : Text.lower header.1 = Text.lower name
    · rw [List.find?_cons_of_pos (by simpa using hk),
        List.find?_cons_of_pos (by simpa [← hn] using hk)]
      exact .some (hv.imp_right fun hs => ⟨hk ▸ hs.1, hs.2⟩)
    · rw [List.find?_cons_of_neg (by simpa using hk),
        List.find?_cons_of_neg (by simpa [← hn] using hk)]
      exact ih

/-- A header that is not structured is as it was. -/
theorem eq_of_foldsHeader {name : Text} (hn : Text.lower name ∉ structuredNames)
    {before after : Option Text} (h : Option.Rel (FoldsHeader name) before after) :
    after = before := by
  cases h with
  | none => rfl
  | some hf => exact congrArg some (hf.resolve_right fun hs => hn hs.1)

end Part

namespace Attachment

open Header

/-- A structured header of a part is read as it was before it was folded. -/
theorem readStructured_eq_of_foldsHeader
    {parse : Text → Noted HeaderFault StructuredHeader}
    (hp : ∀ {t folded}, Header.FoldsTo t folded → NoBreak t → parse folded = parse t)
    {name : Text} {before after : Option Text} (h : Option.Rel (Part.FoldsHeader name) before after)
    (label : String) (index : Nat) :
    readStructured parse label index after = readStructured parse label index before := by
  cases h with
  | none => rfl
  | some hf =>
    rcases hf with rfl | ⟨-, hb, hf⟩
    · rfl
    · rw [readStructured, readStructured, hf.isAllBlank_eq, hp hf hb]

/-- **Folding changes nothing.** A structured header that stands on one line is read, or refused, in
the same way when it has been folded, and a part with folded headers has the same record. -/
theorem read_as_unfolded (settings : Settings) :
    (∀ t folded, NoBreak t → Header.FoldsTo t folded →
      parseContentType settings folded = parseContentType settings t ∧
      parseDisposition settings folded = parseDisposition settings t) ∧
    ∀ (part folded : Part) index, part.IsFolded folded →
      record? settings folded index = record? settings part index := by
  constructor
  · intro t folded ht hf
    exact ⟨hf.parseContentType_eq settings ht, hf.parseDisposition_eq settings ht⟩
  · intro part folded index h
    have hd := readStructured_eq_of_foldsHeader (fun hf ht => hf.parseDisposition_eq settings ht)
      (h "content-disposition".toList) "Content-Disposition" index
    have ht := readStructured_eq_of_foldsHeader (fun hf ht => hf.parseContentType_eq settings ht)
      (h "content-type".toList) "Content-Type" index
    have he := Part.eq_of_foldsHeader (by decide +kernel) (h "content-transfer-encoding".toList)
    rw [record?, record?, hd, ht, he]

/-- Line breaks before a parameter, inside a quotation and at the end. -/
theorem read_as_unfolded_of_quotation :
    NoBreak "attachment; filename=\"a\t b\" ".toList ∧
      (parseDisposition {} "attachment;\r\n filename=\"a\n\t\r\n b\"\n ".toList =
        parseDisposition {} "attachment; filename=\"a\t b\" ".toList) ∧
      record? {} (.ofHeaders [("Content-Type".toList, "text/plain\n ; name=x".toList),
          ("content-transfer-encoding".toList, "base64".toList)]) 3 =
        record? {} (.ofHeaders [("Content-Type".toList, "text/plain ; name=x".toList),
          ("content-transfer-encoding".toList, "base64".toList)]) 3 := by
  have lineFeed : "\n".toList = "\n".toList ∨ "\n".toList = "\r\n".toList := .inl rfl
  have both : "\r\n".toList = "\n".toList ∨ "\r\n".toList = "\r\n".toList := .inr rfl
  refine ⟨by decide, ?_, ?_⟩
  · refine ((read_as_unfolded {}).1 _ _ (by decide) ?_).2
    have hend : Header.FoldsTo "b\" ".toList "b\"\n ".toList :=
      .keep (.keep (.fold (by decide) lineFeed .nil))
    exact .append (.refl "attachment;".toList) (.fold (by decide) both
      (.append (.refl "filename=\"a".toList) (.fold (by decide) lineFeed
        (.fold (by decide) both hend))))
  · refine (read_as_unfolded {}).2 _ _ 3 (Part.isFolded_ofHeaders (.cons ⟨rfl, .inr ?_⟩
      (.cons ⟨rfl, .inl rfl⟩ .nil)))
    exact ⟨by decide +kernel, by decide,
      .append (.refl "text/plain".toList) (.fold (by decide) lineFeed (.refl "; name=x".toList))⟩

end Attachment
end MailScreen
