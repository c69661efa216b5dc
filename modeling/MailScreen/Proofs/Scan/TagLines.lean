import MailScreen.Proofs.Attachment.Extension
import MailScreen.Proofs.Attachment.SeparateHeaders
import MailScreen.Proofs.Rule.Names
import MailScreen.Proofs.Scan.Report
import MailScreen.Proofs.Text.Join
import MailScreen.Report.TagHeaders

/-!
# Header lines that no message can forge

A report is shown as header lines, which a mail filter adds to the message, and much of what they
show was written by the sender. A file name may well have line breaks in it, percent-encoded or in
an encoded word, but what is shown of it is its extension, which is a word. A content type is made
of tokens, and lower case brings in no line break. The names of rules are words of their lines. **So
the lines of a report are the lines of its text** (`Scanner.scanParts_tagLines`): there are no
others, whatever the message is and whatever the rules are.
-/
namespace MailScreen

namespace ScanReport

/-- **A text that has the lines of a report on the message called `name` and no others.** -/
structure HasTagLines (report : ScanReport) (settings : Settings) (name t : Text) : Prop where
  /-- There is no carriage return in it. -/
  noReturn : '\r' ∉ t
  /-- Cut at line feeds, it is four lines, and a fifth if rules hold. -/
  lines : List.splitOn '\n' t =
    ["==> ".toList ++ name,
      "X-Spam-Attachment-Count: ".toList ++ Nat.toDigits 10 report.attachments.records.length,
      "X-Spam-Attachment-Types: ".toList ++
        List.intercalate settings.tagSeparator report.attachments.tally.types,
      "X-Spam-Attachment-Exts: ".toList ++
        List.intercalate settings.tagSeparator report.attachments.tally.extensions] ++
    if report.hits = [] then []
    else ["X-Spam-Attachment-Rules: ".toList ++ List.intercalate [','] report.hits]

/-- A report that shows nothing with a line break in it. -/
structure Unbroken (report : ScanReport) : Prop where
  /-- There is none in a type. -/
  types : ∀ type ∈ report.attachments.tally.types, NoBreak type
  /-- There is none in an extension. -/
  extensions : ∀ extension ∈ report.attachments.tally.extensions, NoBreak extension
  /-- There is none in the name of a rule that holds. -/
  hits : ∀ name ∈ report.hits, NoBreak name

end ScanReport

/-! ## What is shown -/

/-- An extension is a word in lower case. -/
theorem FileName.noBreak_extension (name : Text) : NoBreak (extension name) := by
  have hbreaks : ∀ c ∈ ['\r', '\n'], isWord c = false ∧ ¬ IsSmall c := by decide
  have hne : ∀ c ∈ ['\r', '\n'], c ∉ extension name := by
    intro c hc hm
    obtain ⟨hw, hs⟩ := hbreaks c hc
    rcases isWord_or_isSmall_of_mem_extension hm with h | h
    · rw [hw] at h
      cases h
    · exact hs h
  intro c hc
  exact ⟨fun h => hne '\r' (by decide) (h ▸ hc), fun h => hne '\n' (by decide) (h ▸ hc)⟩

/-- What the Content-Type of a part comes to has no line break in its value. -/
theorem Part.noBreak_typeReading (settings : Settings) (part : Part) :
    NoBreak (part.typeReading settings).value := by
  unfold typeReading
  rcases Attachment.value_absorb_cases (Header.parseContentType settings)
    (part.header? "content-type".toList) with h | ⟨raw, header, -, hp, h⟩
  · rw [h]
    exact fun _ hc => absurd hc List.not_mem_nil
  · rw [h]
    exact Header.noBreak_of_parseContentType hp

/-- The types and extensions of the attachments that are found among parts have no line breaks. -/
theorem Extraction.noBreak_tally {ε : Type} {settings : Settings} {parts : List Part}
    {found : Attachments}
    (hf : (ofParts settings {} parts : Noted ε Extraction).result = .ok { found := found }) :
    (∀ type ∈ found.tally.types, NoBreak type) ∧
      ∀ extension ∈ found.tally.extensions, NoBreak extension := by
  have ht : found.Tallied := .of_ofParts hf
  have hr : ∀ record ∈ found.records, ∃ part, record.TellsOf settings part := by
    rw [(ofParts_eq_ok_iff.mp hf).2, Attachment.records_foldl_add]
    intro record hm
    obtain ⟨⟨part, index⟩, -, h⟩ := List.mem_filterMap.mp hm
    exact ⟨part, Attachment.tellsOf_of_recordOf? h⟩
  constructor
  · intro type hm
    rw [ht.types, Tally.mem_distinct_iff, List.mem_map] at hm
    obtain ⟨⟨record, hm, rfl⟩, -⟩ := hm
    obtain ⟨part, hp⟩ := hr record hm
    rw [hp.mimeType]
    exact part.noBreak_typeReading settings
  · intro extension hm
    rw [ht.extensions, Tally.mem_distinct_iff, List.mem_map] at hm
    obtain ⟨⟨record, hm, rfl⟩, -⟩ := hm
    obtain ⟨part, hp⟩ := hr record hm
    rw [hp.extension]
    exact FileName.noBreak_extension record.name

/-- The rules that hold are rules of the set. -/
theorem ScanReport.mem_names_of_mem_hits {report : ScanReport} {name : Text}
    (h : name ∈ report.hits) : name ∈ report.results.names := by
  rw [hits_eq_map] at h
  obtain ⟨entry, hm, rfl⟩ := List.mem_map.mp h
  exact List.mem_map_of_mem (List.mem_of_mem_filter hm)

/-! ## The lines -/

namespace ScanReport

variable {report : ScanReport} {settings : Settings} {name : Text}

/-- The lines of a report that shows no line break are not cut. -/
theorem Unbroken.noBreak_headerLines (h : report.Unbroken) (hn : NoBreak name)
    (hs : NoBreak settings.tagSeparator) :
    ∀ line ∈ report.headerLines settings name, NoBreak line := by
  have hc : NoBreak (toString report.attachments.tally.count).toList := by
    rw [toList_toString_nat]
    exact .of_forall (by decide) (by decide) fun _ =>
      Nat.isDigit_of_mem_toDigits (by decide) (by decide)
  have ht {label : String} {value : Text} (hl : NoBreak label.toList) (hv : NoBreak value) :
      NoBreak (tagHeader label value) := by
    have hx : NoBreak "X-Spam-Attachment-".toList := by decide
    exact ((hx.append hl).append (by decide)).append hv
  have hr : ∀ line ∈ report.ruleHeaders, NoBreak line := by
    unfold ruleHeaders
    split
    · exact fun _ hl => absurd hl List.not_mem_nil
    · exact List.forall_mem_singleton.mpr (ht (by decide) (.intercalate (by decide) h.hits))
  have hh : NoBreak "==> ".toList := by decide
  refine List.forall_mem_append.mpr ⟨?_, hr⟩
  simp only [List.forall_mem_cons, List.not_mem_nil, false_implies, implies_true, and_true]
  exact ⟨hh.append hn, ht (by decide) hc, ht (by decide) (.intercalate hs h.types),
    ht (by decide) (.intercalate hs h.extensions)⟩

/-- **A report that shows no line break has the lines of its text.** -/
theorem Unbroken.hasTagLines (h : report.Unbroken) (ht : report.attachments.Tallied)
    (hn : NoBreak name) (hs : NoBreak settings.tagSeparator) :
    report.HasTagLines settings name ((ScanOutcome.found report).headerText settings name) := by
  have hl := h.noBreak_headerLines hn hs
  refine ⟨?_, ?_⟩
  · intro hc
    rcases Text.mem_intercalate hc with hc | ⟨line, hm, hc⟩
    · revert hc
      decide
    · exact (hl line hm _ hc).1 rfl
  · have hj : List.splitOn '\n' (List.intercalate ['\n'] (report.headerLines settings name)) =
        report.headerLines settings name :=
      List.splitOn_intercalate '\n' (fun line hm hc => (hl line hm _ hc).2 rfl)
        (List.cons_ne_nil _ _)
    rw [ScanOutcome.headerText, ScanOutcome.headerLines, hj, headerLines, ruleHeaders, ht.count,
      toList_toString_nat]
    simp only [List.isEmpty_iff]
    rfl

end ScanReport

namespace Scanner

/-- **No message forges a header line.** With rules that are loaded and parts that are searched
without a fault there is a report, and its text has the lines of the report and no others, whatever
the format is in which the message came, if neither what the message is called nor what stands
between the entries of a tag has a line break in it. -/
theorem scanParts_tagLines {strict : Bool} {t : Text} {set : RuleSet} {settings : Settings}
    {parts : List Part} {found : Attachments} {name : Text}
    (hs : (RuleSet.ofText strict t).result = .ok set)
    (hf : (Extraction.ofParts settings {} parts : Noted ScanFault Extraction).result =
      .ok { found := found })
    (hn : NoBreak name) (hb : NoBreak settings.tagSeparator) (outlook : Option OutlookReader) :
    ∃ report, ((ofRules set outlook).scanParts settings parts).result = .ok report ∧
      ∀ format, report.HasTagLines settings name
        ((ScanOutcome.found { report with format := format }).headerText settings name) := by
  refine ⟨_, scanParts_result (RuleSet.wellFormed_of_ofLines hs) (RuleSet.evaluable_of_ofLines hs)
    outlook hf, fun format => ?_⟩
  obtain ⟨ht, he⟩ := Extraction.noBreak_tally hf
  have hu : ScanReport.Unbroken
      { attachments := found, results := set.results found.records, format := format } := by
    refine ⟨ht, he, fun rule hm => .of_noBlank ?_⟩
    have hr := ScanReport.mem_names_of_mem_hits hm
    rw [RuleSet.names_results] at hr
    exact RuleSet.noBlank_of_ofLines hs rule hr
  -- the format is not shown, so the lines are those of the report without it
  have hl := hu.hasTagLines (.of_ofParts hf) hn hb
  exact ⟨hl.noReturn, hl.lines⟩

/-- A file name with a header line in it, percent-encoded, and a rule that holds of it. -/
theorem scanParts_tagLines_of_encodedLine :
    ∃ set report, (RuleSet.ofText false "attachment BAD ext == exe".toList).result = .ok set ∧
      ((ofRules set none).scanParts {} [Part.ofHeaders [
        ("Content-Type".toList, "Application/Zip".toList),
        ("Content-Disposition".toList,
          "attachment; filename*=us-ascii''a%0AX-Spam%3A%20no%0D.exe".toList)]]).result =
            .ok report ∧
      report.attachments.records.map (·.name) = ["a\nX-Spam: no\r.exe".toList] ∧
      report.HasTagLines {} "a.eml".toList
        ((ScanOutcome.found report).headerText {} "a.eml".toList) := by
  let set : RuleSet :=
    { attachmentRules := [("BAD".toList, ⟨"BAD".toList,
        [⟨.extension, .equal, .literal "exe".toList, "ext == exe".toList⟩]⟩)] }
  have hs : (RuleSet.ofText false "attachment BAD ext == exe".toList).result = .ok set := by
    decide +kernel
  have hf : (Extraction.ofParts {} {} [Part.ofHeaders [
      ("Content-Type".toList, "Application/Zip".toList),
      ("Content-Disposition".toList,
        "attachment; filename*=us-ascii''a%0AX-Spam%3A%20no%0D.exe".toList)]] :
      Noted ScanFault Extraction).result = .ok { found := {
        records := [
          { name := "a\nX-Spam: no\r.exe".toList, extension := "exe".toList,
            mimeType := "application/zip".toList, effectiveType := "application/zip".toList,
            disposition := "attachment".toList }],
        tally := ⟨1, ["application/zip".toList], ["exe".toList]⟩ } } := by
    decide +kernel
  have hn : NoBreak "a.eml".toList := by decide
  obtain ⟨report, hr, hl⟩ := scanParts_tagLines hs hf hn (by decide) none
  have hm := scanParts_result (RuleSet.wellFormed_of_ofLines hs) (RuleSet.evaluable_of_ofLines hs)
    none hf
  obtain rfl := Except.ok.inj (hr.symm.trans hm)
  exact ⟨set, _, hs, hr, rfl, hl none⟩

end Scanner
end MailScreen
