import MailScreen.Proofs.Scan.Report

/-!
# The order of parts, and more parts

Who sends a message may put its parts in another order, or parts among them that were not there.
**Neither of it keeps a rule from holding** (`Scanner.scanParts_perm_and_sublist`). In another order
the parts give the same results, and the same report but for the order and the places of
attachments. With more parts, an attachment rule that held still holds, and so does a rule that asks
for a mime error; a rule that asks for a number may not.

All of it comes from the records. Without their places they are those of the parts, one by one
(`Extraction.map_unplaced_of_ofParts`), and a rule looks neither at the place of a record nor at the
order of records, whatever its clauses compare and also where they deny.
-/
namespace MailScreen

/-- **Reports that differ at most in the order and the places of attachments.** -/
structure ScanReport.SameButForOrder (report other : ScanReport) (settings : Settings) : Prop where
  /-- The records are the same, in some order and without their places. -/
  records : (report.attachments.records.map (·.unplaced)).Perm
    (other.attachments.records.map (·.unplaced))
  /-- The rules have the same results. -/
  results : report.results = other.results
  /-- There is a mime error in both or in none. -/
  mimeError : report.mimeError = other.mimeError
  /-- The same number is reported. -/
  count : (report.tags settings).lookup "ATTACHMENT_COUNT" =
    (other.tags settings).lookup "ATTACHMENT_COUNT"
  /-- The distinct types are the same, in some order. -/
  types : report.attachments.tally.types.Perm other.attachments.tally.types
  /-- The distinct extensions are the same, in some order. -/
  extensions : report.attachments.tally.extensions.Perm other.attachments.tally.extensions

/-- **A report that keeps what another one says against a message.** -/
structure ScanReport.Keeps (later earlier : ScanReport) (set : RuleSet) : Prop where
  /-- An attachment rule that held still holds. -/
  rule : ∀ entry ∈ set.attachmentRules, earlier.results.find? entry.1 = some true →
    later.results.find? entry.1 = some true
  /-- A rule that asks for a mime error and held still holds. -/
  mimeErrorRule : ∀ entry ∈ set.checkRules, entry.2.check.name = Check.mimeErrorName.toList →
    earlier.results.find? entry.1 = some true → later.results.find? entry.1 = some true
  /-- A mime error stays. -/
  mimeError : earlier.mimeError = true → later.mimeError = true

/-! ## What rules look at -/

theorem Target.valueIn_unplaced (target : Target) (record : AttachmentRecord) :
    target.valueIn record.unplaced = target.valueIn record := by
  cases target <;> rfl

section

variable {records others : List AttachmentRecord}

/-- No clause looks at the place of a record. -/
theorem AttachmentRule.holdsAmong_map_unplaced (rule : AttachmentRule)
    (records : List AttachmentRecord) :
    rule.holdsAmong (records.map (·.unplaced)) = rule.holdsAmong records := by
  rw [holdsAmong, List.any_map]
  simp only [Function.comp_def, Target.valueIn_unplaced]
  rfl

theorem Check.mimeErrorHolds_map_unplaced (records : List AttachmentRecord) :
    mimeErrorHolds (records.map (·.unplaced)) = mimeErrorHolds records := by
  rw [mimeErrorHolds, List.any_map]
  rfl

/-- **No rule looks at the order of records.** -/
theorem AttachmentRule.holdsAmong_perm (rule : AttachmentRule)
    (h : (records.map (·.unplaced)).Perm (others.map (·.unplaced))) :
    rule.holdsAmong records = rule.holdsAmong others := by
  rw [← rule.holdsAmong_map_unplaced records, ← rule.holdsAmong_map_unplaced others]
  exact h.any_eq

theorem Check.mimeErrorHolds_perm
    (h : (records.map (·.unplaced)).Perm (others.map (·.unplaced))) :
    mimeErrorHolds records = mimeErrorHolds others := by
  rw [← mimeErrorHolds_map_unplaced records, ← mimeErrorHolds_map_unplaced others]
  exact h.any_eq

/-- **No check looks at the order of records.** -/
theorem Check.holdsAmong_perm (check : Check)
    (h : (records.map (·.unplaced)).Perm (others.map (·.unplaced))) :
    check.holdsAmong records = check.holdsAmong others := by
  have hl : records.length = others.length := by
    simpa only [List.length_map] using h.length_eq
  simp only [holdsAmong, countHolds, hl, mimeErrorHolds_perm h]

/-- The results of a rule set are those on the records in any order and in any places. -/
theorem RuleSet.results_perm (set : RuleSet)
    (h : (records.map (·.unplaced)).Perm (others.map (·.unplaced))) :
    set.results records = set.results others := by
  simp only [results, AttachmentRule.holdsAmong_perm _ h, Check.holdsAmong_perm _ h]

/-- Of a field that is not the place, records in another order have the same values. -/
theorem Tally.distinct_map_perm {field : AttachmentRecord → Text}
    (hf : ∀ record, field record.unplaced = field record)
    (h : (records.map (·.unplaced)).Perm (others.map (·.unplaced))) :
    (distinct (records.map field)).Perm (distinct (others.map field)) := by
  have hm := h.map field
  simp only [List.map_map, Function.comp_def, hf] at hm
  exact distinct_perm hm

/-- **A rule that holds among records holds among more**: one of them satisfies its clauses. -/
theorem AttachmentRule.holdsAmong_mono (rule : AttachmentRule)
    (h : records.map (·.unplaced) ⊆ others.map (·.unplaced))
    (held : rule.holdsAmong records = true) : rule.holdsAmong others = true := by
  rw [← rule.holdsAmong_map_unplaced] at held ⊢
  obtain ⟨record, hm, hr⟩ := List.any_eq_true.mp held
  exact List.any_eq_true.mpr ⟨record, h hm, hr⟩

/-- A mime error among records is one among more. -/
theorem Check.mimeErrorHolds_mono (h : records.map (·.unplaced) ⊆ others.map (·.unplaced))
    (held : mimeErrorHolds records = true) : mimeErrorHolds others = true := by
  rw [← mimeErrorHolds_map_unplaced] at held ⊢
  obtain ⟨record, hm, hr⟩ := List.any_eq_true.mp held
  exact List.any_eq_true.mpr ⟨record, h hm, hr⟩

end

/-! ## Reports -/

namespace Attachments

variable {found others : Attachments} {set : RuleSet}

/-- Records that are the same in another order and in other places make reports that are the same
but for that. -/
theorem sameButForOrder (hf : found.Tallied) (ho : others.Tallied)
    (h : (found.records.map (·.unplaced)).Perm (others.records.map (·.unplaced)))
    (settings : Settings) :
    ScanReport.SameButForOrder { attachments := found, results := set.results found.records }
      { attachments := others, results := set.results others.records } settings where
  records := h
  results := set.results_perm h
  mimeError := Check.mimeErrorHolds_perm h
  count := by
    have hl := h.length_eq
    rw [List.length_map, List.length_map] at hl
    rw [ScanReport.lookup_tags_count hf, ScanReport.lookup_tags_count ho, hl]
  types := by
    show found.tally.types.Perm others.tally.types
    rw [hf.types, ho.types]
    exact Tally.distinct_map_perm (fun _ => rfl) h
  extensions := by
    show found.tally.extensions.Perm others.tally.extensions
    rw [hf.extensions, ho.extensions]
    exact Tally.distinct_map_perm (fun _ => rfl) h

/-- More records keep what was said of some of them. -/
theorem keeps (hw : set.WellFormed)
    (h : found.records.map (·.unplaced) ⊆ others.records.map (·.unplaced)) :
    ScanReport.Keeps { attachments := others, results := set.results others.records }
      { attachments := found, results := set.results found.records } set := by
  refine ⟨?_, ?_, Check.mimeErrorHolds_mono h⟩
  · intro entry hm held
    rw [hw.find?_results_rule _ hm, Option.some.injEq] at held ⊢
    exact entry.2.holdsAmong_mono h held
  · intro entry hm he held
    rw [hw.find?_results_check _ hm, Check.holdsAmong_of_mimeError he, Option.some.injEq] at held ⊢
    exact Check.mimeErrorHolds_mono h held

end Attachments

/-! ## Scans -/

/-- Parts that are searched without a fault are so in any order, and have the same records. -/
theorem Extraction.ofParts_perm {ε : Type} {settings : Settings} {parts other : List Part}
    {found : Attachments}
    (hf : (ofParts settings {} parts : Noted ε Extraction).result = .ok { found := found })
    (hp : other.Perm parts) :
    ∃ again, (ofParts settings {} other : Noted ε Extraction).result = .ok { found := again } ∧
      (found.records.map (·.unplaced)).Perm (again.records.map (·.unplaced)) := by
  have hu := (ofParts_eq_ok_iff.mp hf).1
  have ho := ofParts_result (ε := ε) settings (fun part hm => hu part (hp.mem_iff.mp hm)) {}
  refine ⟨_, ho, ?_⟩
  rw [map_unplaced_of_ofParts hf, map_unplaced_of_ofParts ho]
  exact (hp.filterMap _).symm

namespace Scanner

/-- **The order of parts and more parts keep no rule from holding.** With rules that are loaded, and
parts that are searched without a fault, a scan of the parts in another order reports the same but
for the order and the places of attachments; and if there are more parts among them, and these are
searched without a fault, what was said against the message still is. -/
theorem scanParts_perm_and_sublist {strict : Bool} {t : Text} {set : RuleSet} {settings : Settings}
    {parts : List Part} {found : Attachments} (hs : (RuleSet.ofText strict t).result = .ok set)
    (hf : (Extraction.ofParts settings {} parts : Noted ScanFault Extraction).result =
      .ok { found := found }) (outlook : Option OutlookReader) :
    ∃ report, ((ofRules set outlook).scanParts settings parts).result = .ok report ∧
      (∀ other, other.Perm parts →
        ∃ again, ((ofRules set outlook).scanParts settings other).result = .ok again ∧
          report.SameButForOrder again settings) ∧
      ∀ more added, parts.Sublist more →
        (Extraction.ofParts settings {} more : Noted ScanFault Extraction).result =
          .ok { found := added } →
        ∃ again, ((ofRules set outlook).scanParts settings more).result = .ok again ∧
          again.Keeps report set := by
  have hw := RuleSet.wellFormed_of_ofLines hs
  have he := RuleSet.evaluable_of_ofLines hs
  refine ⟨_, scanParts_result hw he outlook hf, ?_, ?_⟩
  · intro other hp
    obtain ⟨again, ha, hr⟩ := Extraction.ofParts_perm hf hp
    exact ⟨_, scanParts_result hw he outlook ha,
      Attachments.sameButForOrder (.of_ofParts hf) (.of_ofParts ha) hr settings⟩
  · intro more added hp ha
    refine ⟨_, scanParts_result hw he outlook ha, Attachments.keeps hw ?_⟩
    rw [Extraction.map_unplaced_of_ofParts hf, Extraction.map_unplaced_of_ofParts ha]
    exact (hp.filterMap _).subset

/-- A rule that denies twice holds of one of two parts, in either order and with a third between. -/
theorem scanParts_perm_and_sublist_of_denial :
    ∃ set report again later,
      (RuleSet.ofText true "attachment A name !~ /a/ type != text/html".toList).result = .ok set ∧
      ((ofRules set none).scanParts {} [
        Part.ofHeaders [("Content-Type".toList, "text/html; name=a.htm".toList)],
        Part.ofHeaders [("Content-Disposition".toList, "attachment; filename=b.txt".toList)]]
        ).result = .ok report ∧
      report.hits = ["A".toList] ∧
      ((ofRules set none).scanParts {} [
        Part.ofHeaders [("Content-Disposition".toList, "attachment; filename=b.txt".toList)],
        Part.ofHeaders [("Content-Type".toList, "text/html; name=a.htm".toList)]]).result =
          .ok again ∧
      report.SameButForOrder again {} ∧
      ((ofRules set none).scanParts {} [
        Part.ofHeaders [("Content-Type".toList, "text/html; name=a.htm".toList)],
        Part.ofHeaders [("Content-Type".toList, "text/plain; name=c.txt".toList)],
        Part.ofHeaders [("Content-Disposition".toList, "attachment; filename=b.txt".toList)]]
        ).result = .ok later ∧
      later.Keeps report set := by
  have hf : (Extraction.ofParts {} {} [
      Part.ofHeaders [("Content-Type".toList, "text/html; name=a.htm".toList)],
      Part.ofHeaders [("Content-Disposition".toList, "attachment; filename=b.txt".toList)]] :
      Noted ScanFault Extraction).result = .ok { found := {
        records := [
          { name := "a.htm".toList, extension := "htm".toList, mimeType := "text/html".toList,
            effectiveType := "text/html".toList },
          { name := "b.txt".toList, extension := "txt".toList,
            disposition := "attachment".toList, partIndex := 1 }],
        tally := ⟨2, ["text/html".toList], ["htm".toList, "txt".toList]⟩ } } := by
    decide +kernel
  have ha : (Extraction.ofParts {} {} [
      Part.ofHeaders [("Content-Type".toList, "text/html; name=a.htm".toList)],
      Part.ofHeaders [("Content-Type".toList, "text/plain; name=c.txt".toList)],
      Part.ofHeaders [("Content-Disposition".toList, "attachment; filename=b.txt".toList)]] :
      Noted ScanFault Extraction).result = .ok { found := {
        records := [
          { name := "a.htm".toList, extension := "htm".toList, mimeType := "text/html".toList,
            effectiveType := "text/html".toList },
          { name := "c.txt".toList, extension := "txt".toList, mimeType := "text/plain".toList,
            effectiveType := "text/plain".toList, partIndex := 1 },
          { name := "b.txt".toList, extension := "txt".toList,
            disposition := "attachment".toList, partIndex := 2 }],
        tally := ⟨3, ["text/html".toList, "text/plain".toList],
          ["htm".toList, "txt".toList]⟩ } } := by
    decide +kernel
  have hh : ((RuleSet.ofText true "attachment A name !~ /a/ type != text/html".toList
      ).result.toOption.map fun set => ((ofRules set none).scanParts {} [
        Part.ofHeaders [("Content-Type".toList, "text/html; name=a.htm".toList)],
        Part.ofHeaders [("Content-Disposition".toList, "attachment; filename=b.txt".toList)]]
        ).result.toOption.map (·.hits)) = some (some ["A".toList]) := by
    decide +kernel
  cases hs : (RuleSet.ofText true "attachment A name !~ /a/ type != text/html".toList).result with
  | error fault => rw [hs] at hh; cases hh
  | ok set =>
    obtain ⟨report, hr, hperm, hmore⟩ := scanParts_perm_and_sublist hs hf none
    obtain ⟨again, hagain, hsame⟩ := hperm _ (List.Perm.swap ..)
    obtain ⟨later, hlater, hkeeps⟩ := hmore _ _ (.cons_cons _ (List.sublist_cons_self ..)) ha
    rw [hs] at hh
    have hhits := Option.some.inj hh
    beta_reduce at hhits
    rw [hr] at hhits
    exact ⟨set, report, again, later, rfl, hr, Option.some.inj hhits, hagain, hsame, hlater,
      hkeeps⟩

end Scanner
end MailScreen
