import MailScreen.Proofs.Attachment.Tally
import MailScreen.Proofs.Rule.Evaluation
import MailScreen.Proofs.Text.Integer
import MailScreen.Report.ScanDocument

/-!
# What a scan reports

A report says several things of the same records, each of which comes about in its own way: the
results and the hits from the rules, the number from the tally, the mime error from the records.
**They agree** (`Scanner.scanParts_agrees`). That no rule has its result written over by another one
is what well-formedness gives, that every rule has a result is what evaluability gives, and that the
number is right is what the tally keeps.

What a scan comes to is told without any failure in it by `Scanner.scanParts_result`: the records
that were found and the results of the rules on them.
-/
namespace MailScreen

/-- **A report that says one thing throughout**, of its records and of the rules of a set. -/
structure ScanReport.Agrees (report : ScanReport) (settings : Settings) (set : RuleSet) :
    Prop where
  /-- The rules with a result are those of the set, in its order. -/
  names : report.results.names = set.names
  /-- No rule has two results. -/
  nodup : report.results.names.Nodup
  /-- The hits are the rules of the set that hold, in its order. -/
  hits : report.hits = set.names.filter fun name => report.results.find? name == some true
  /-- The number in the tags is that of the records. -/
  count : (report.tags settings).lookup "ATTACHMENT_COUNT" =
    some (Nat.toDigits 10 report.attachments.records.length)
  /-- There is a mime error if there is one in a record. -/
  mimeError : report.mimeError = true ↔ ∃ record ∈ report.attachments.records, 0 < record.mimeErrors
  /-- A rule that asks for a mime error holds if there is one. -/
  mimeErrorRule : ∀ entry ∈ set.checkRules, entry.2.check.name = Check.mimeErrorName.toList →
    report.results.find? entry.1 = some report.mimeError
  /-- A rule that asks for a number of attachments holds if the number of records is in range. -/
  countRule : ∀ entry ∈ set.checkRules, ∀ least most, entry.2.check = .count least most →
    ∃ held, report.results.find? entry.1 = some held ∧
      (held = true ↔ least ≤ report.attachments.records.length ∧
        report.attachments.records.length ≤ most)

/-! ## Hits and tags -/

namespace ScanReport

/-- The hits are the names of the results that are true. -/
theorem hits_eq_map (report : ScanReport) :
    report.hits = (report.results.filter (·.2)).map (·.1) := by
  unfold hits
  generalize report.results = results
  induction results with
  | nil => rfl
  | cons entry rest ih =>
    obtain ⟨name, held⟩ := entry
    cases held with
    | false => exact ih
    | true => exact congrArg (name :: ·) ih

/-- Where no rule has two results, the hits are the rules under whose names it says so. -/
theorem hits_eq_filter {report : ScanReport} (hn : report.results.names.Nodup) :
    report.hits =
      report.results.names.filter fun name => report.results.find? name == some true := by
  rw [hits_eq_map, Table.names, List.filter_map]
  refine congrArg (List.map Prod.fst) (List.filter_congr ?_)
  rintro ⟨name, held⟩ hm
  show held = (report.results.find? name == some true)
  rw [Table.find?_of_mem hn hm]
  cases held <;> rfl

/-- The number in the tags is that of the records, if the tally is theirs. -/
theorem lookup_tags_count {report : ScanReport} (ht : report.attachments.Tallied)
    (settings : Settings) :
    (report.tags settings).lookup "ATTACHMENT_COUNT" =
      some (Nat.toDigits 10 report.attachments.records.length) := by
  rw [tags, Tally.tags, List.lookup_cons_self, ht.count, toList_toString_nat]

theorem mimeError_iff (report : ScanReport) :
    report.mimeError = true ↔
      ∃ record ∈ report.attachments.records, 0 < record.mimeErrors := by
  simp [mimeError, Check.mimeErrorHolds]

end ScanReport

/-! ## Scanning -/

namespace Scanner

/-- A scanner evaluates the rules of its set, also if it keeps nothing of a set without rules. -/
theorem evaluate_rules_ofRules (set : RuleSet) (outlook : Option OutlookReader)
    (records : List AttachmentRecord) :
    (ofRules set outlook).rules.evaluate records = set.evaluate records := by
  by_cases hz : set.size = 0
  · obtain ⟨ha, hc⟩ : set.attachmentRules = [] ∧ set.checkRules = [] := by
      simpa [RuleSet.size] using hz
    rw [ofRules, if_pos hz, RuleSet.evaluate, RuleSet.evaluate, ha, hc]
  · rw [ofRules, if_neg hz]

/-- **A scan reports what was found, and the results of the rules on it.** -/
theorem scanParts_result {set : RuleSet} (hw : set.WellFormed) (he : set.Evaluable)
    (outlook : Option OutlookReader) {settings : Settings} {parts : List Part} {found : Attachments}
    (hf : (Extraction.ofParts settings {} parts : Noted ScanFault Extraction).result =
      .ok { found := found }) :
    ((ofRules set outlook).scanParts settings parts).result =
      .ok { attachments := found, results := set.results found.records } := by
  have hr : ((set.evaluate found.records).mapFailure ScanFault.evaluation).result =
      .ok (set.results found.records) := by
    show (set.evaluate found.records).result.mapError ScanFault.evaluation = _
    rw [RuleSet.evaluate_result hw he]
    rfl
  rw [scanParts, Noted.result_bind, hf]
  show Noted.result (_ >>= _) = _
  rw [Noted.result_bind, evaluate_rules_ofRules, hr]
  show Noted.result (if _ then _ else _) = _
  split
  · rfl
  · rfl

end Scanner

namespace RuleSet

/-- What is reported of records with their tally agrees. -/
theorem WellFormed.agrees {set : RuleSet} (hw : set.WellFormed) {found : Attachments}
    (ht : found.Tallied) (settings : Settings) :
    ScanReport.Agrees { attachments := found, results := set.results found.records } settings
      set := by
  have hn : (set.results found.records).names.Nodup := by
    rw [names_results]
    exact hw.nodup
  refine ⟨names_results .., hn, ?_, ScanReport.lookup_tags_count ht settings,
    ScanReport.mimeError_iff _, ?_, ?_⟩
  · rw [ScanReport.hits_eq_filter hn, names_results]
  · intro entry hm hc
    show (set.results found.records).find? entry.1 = _
    rw [hw.find?_results_check _ hm, Check.holdsAmong_of_mimeError hc]
    rfl
  · intro entry hm least most hc
    refine ⟨_, hw.find?_results_check _ hm, ?_⟩
    rw [hc, Check.holdsAmong_count]
    simp [Check.countHolds]

end RuleSet

namespace Scanner

/-- **A report agrees with itself and with the rules.** With rules that are loaded and parts that
are searched without a fault there is a report, of the attachments that were found, in which the
results, the hits, the number and the mime error all say the same. -/
theorem scanParts_agrees {strict : Bool} {t : Text} {set : RuleSet} {settings : Settings}
    {parts : List Part} {found : Attachments} (hs : (RuleSet.ofText strict t).result = .ok set)
    (hf : (Extraction.ofParts settings {} parts : Noted ScanFault Extraction).result =
      .ok { found := found }) (outlook : Option OutlookReader) :
    ∃ report, ((ofRules set outlook).scanParts settings parts).result = .ok report ∧
      report.attachments = found ∧ report.Agrees settings set := by
  have hw := RuleSet.wellFormed_of_ofLines hs
  exact ⟨_, scanParts_result hw (RuleSet.evaluable_of_ofLines hs) outlook hf, rfl,
    hw.agrees (.of_ofParts hf) settings⟩

/-- A rule of each kind, of which one takes its name from another, and a part with a bad header. -/
theorem scanParts_agrees_of_badHeader :
    ∃ set report, (RuleSet.ofText true ("attachment A name =~ /a/\nbody B eval:" ++
        "check_attachment_count(1, 3)\nbody A eval:check_attachment_mime_error()").toList).result =
          .ok set ∧
      set.names = ["B".toList, "A".toList] ∧
      ((ofRules set none).scanParts {} [Part.ofHeaders [
        ("Content-Disposition".toList, "attachment; filename=a.txt".toList),
        ("Content-Transfer-Encoding".toList, "9bit".toList)]]).result = .ok report ∧
      report.attachments.records.length = 1 ∧ report.Agrees {} set := by
  have hn : (RuleSet.ofText true ("attachment A name =~ /a/\nbody B eval:" ++
      "check_attachment_count(1, 3)\nbody A eval:check_attachment_mime_error()").toList
        ).result.toOption.map (·.names) = some ["B".toList, "A".toList] := by
    decide +kernel
  have hf : (Extraction.ofParts {} {} [Part.ofHeaders [
      ("Content-Disposition".toList, "attachment; filename=a.txt".toList),
      ("Content-Transfer-Encoding".toList, "9bit".toList)]] : Noted ScanFault Extraction).result =
      .ok { found := {
        records := [
          { name := "a.txt".toList, extension := "txt".toList,
            disposition := "attachment".toList, encoding := "9bit".toList, mimeErrors := 1 }],
        tally := { count := 1, extensions := ["txt".toList] } } } := by
    decide +kernel
  cases hs : (RuleSet.ofText true ("attachment A name =~ /a/\nbody B eval:" ++
      "check_attachment_count(1, 3)\nbody A eval:check_attachment_mime_error()").toList).result with
  | error fault => rw [hs] at hn; cases hn
  | ok set =>
    rw [hs] at hn
    obtain ⟨report, hr, ha, hagrees⟩ := scanParts_agrees hs hf none
    exact ⟨set, report, rfl, Option.some.inj hn, hr, by rw [ha]; rfl, hagrees⟩

end Scanner
end MailScreen
