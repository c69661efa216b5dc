import MailScreen.Proofs.Command.Outcomes
import MailScreen.Proofs.Rule.Loading

/-!
# What a run keeps of its rules

A run loads its rules, builds a scanner on them and reports the lines that were refused from what
the scanner holds. A scanner takes a rule set without rules for no rule set at all, and what such a
rule set has on record goes with it. **So the scanner holds what was loaded, and the refused lines
are reported one by one, exactly if a line defines a rule or no line is refused**
(`RuleSet.keepsRefusals_iff`). A file all of whose rules are bad is reported as a file without bad
rules (`Scanner.rules_ofRules_of_onlyRefused`).
-/
namespace MailScreen

namespace RuleSet

open RuleLine

/-! ## When a rule set has rules -/

/-- A rule that is defined counts, whichever rules its name is taken from. -/
theorem size_take_eq_zero_iff (set : RuleSet) (number : Nat) (said : LineVerdict) :
    (set.take number said).size = 0 ↔ set.size = 0 ∧ said.defines = false := by
  cases said with
  | passed => simp [take, LineVerdict.defines]
  | refused error => simp [take, reject, size, LineVerdict.defines]
  | rule rule =>
    simp [take, define, size, LineVerdict.defines, Table.insert_ne_nil]
  | check rule =>
    simp [take, defineCheck, size, LineVerdict.defines, Table.insert_ne_nil]

theorem size_takeAll_eq_zero_iff (set : RuleSet) (number : Nat) (said : List LineVerdict) :
    (set.takeAll number said).size = 0 ↔ set.size = 0 ∧ ∀ v ∈ said, v.defines = false := by
  induction said generalizing set number with
  | nil => simp [takeAll]
  | cons v rest ih =>
    rw [takeAll, ih, size_take_eq_zero_iff, List.forall_mem_cons, and_assoc]

/-- A rule set that is loaded is without rules exactly if no line defines one. -/
theorem size_eq_zero_iff {strict : Bool} {lines : List Text} {set : RuleSet}
    (h : (ofLines strict lines).result = .ok set) :
    set.size = 0 ↔ ∀ line ∈ lines, defines strict line = false := by
  rw [ofLines_result] at h
  obtain ⟨said, hm, rfl⟩ := map_eq_ok_iff.mp h
  have hs := mapM_eq_ok_iff.mp hm
  rw [size_takeAll_eq_zero_iff, and_iff_right (by rfl)]
  clear hm h
  induction hs with
  | nil => simp
  | cons hv _ ih =>
    rw [List.forall_mem_cons, List.forall_mem_cons]
    exact and_congr (by rw [defines, hv]) ih

/-- Nothing is on record in a rule set that is loaded exactly if no line is refused. -/
theorem rejections_eq_nil_iff {strict : Bool} {lines : List Text} {set : RuleSet}
    (h : (ofLines strict lines).result = .ok set) :
    set.rejections = [] ↔ ∀ line ∈ lines, isRefused strict line = false := by
  rw [(isolatesRefusals_of_ofLines h).recorded, List.filterMap_eq_nil_iff]
  constructor
  · intro hn line hl
    obtain ⟨i, hi, rfl⟩ := List.mem_iff_getElem.mp hl
    have he : (lines[i], 1 + i) ∈ lines.zipIdx 1 := by
      rw [List.mem_zipIdx_iff_le_and_getElem?_sub]
      exact ⟨Nat.le_add_right 1 i, by simp [hi]⟩
    rw [← isSome_rejection? strict (lines[i], 1 + i), hn _ he]
    rfl
  · intro hn entry he
    have hr := isSome_rejection? strict entry
    rw [hn entry.1 (List.fst_mem_of_mem_zipIdx he)] at hr
    exact Option.isSome_eq_false_iff.mp hr |> Option.isNone_iff_eq_none.mp

end RuleSet

/-! ## What a scanner holds -/

namespace Scanner

/-- A rule set is kept exactly if it has rules or has nothing on record. -/
theorem rules_ofRules_eq_iff (rules : RuleSet) (outlook : Option OutlookReader) :
    (ofRules rules outlook).rules = rules ↔ rules.size ≠ 0 ∨ rules.rejections = [] := by
  obtain ⟨attachmentRules, checkRules, rejections⟩ := rules
  by_cases hz : (RuleSet.mk attachmentRules checkRules rejections).size = 0
  · have hn : attachmentRules = [] ∧ checkRules = [] := by simpa [RuleSet.size] using hz
    obtain ⟨rfl, rfl⟩ := hn
    simp [ofRules, RuleSet.size, eq_comm]
  · simp [ofRules, hz]

end Scanner

namespace ScanRequest

/-- What a run loads is what the text of its rule file defines. -/
theorem loadRules_result {request : ScanRequest} {settings : Settings} {files : FileAccess}
    {path : Path} {data : Octets} (hp : request.rules = some path)
    (hd : files.read path = .ok data) :
    (request.loadRules settings files).result =
      (RuleSet.ofText (request.strict || settings.strictRules) (Utf8.decode data)).result.mapError
        .rules := by
  simp only [loadRules, hp, hd, Noted.result_bind]
  rfl

/-- A run reports the lines that the scanner has on record, whatever it finds in the files. -/
theorem run_result {request : ScanRequest} {settings : Settings} {files : FileAccess}
    {set : RuleSet} (outlook : Option OutlookReader)
    (hl : (request.loadRules settings files).result = .ok set) :
    ∃ results, (request.run settings files outlook).result =
      request.report settings files results
        ((Scanner.ofRules set outlook).rules.rejections.map request.rejectionReport) :=
  ⟨_, run_eq_report outlook hl⟩

end ScanRequest

namespace RuleSet

open RuleLine

/-- **What a text has loaded, and what it has refused, comes through**: a scanner that is built on
the rule set holds it as it is, and a run whose rule file reads as the text reports the refused
lines in order, each once. -/
structure KeepsRefusals (strict : Bool) (t : Text) (set : RuleSet) : Prop where
  /-- A scanner holds the rule set as it was loaded. -/
  held : ∀ outlook, (Scanner.ofRules set outlook).rules = set
  /-- A run reports each refused line with its number, in the order of lines. -/
  reported : ∀ (request : ScanRequest) settings (files : FileAccess) path data outlook,
    request.rules = some path → files.read path = .ok data → Utf8.decode data = t →
    (request.strict || settings.strictRules) = strict →
    ∃ results, (request.run settings files outlook).result =
      request.report settings files results
        ((((Text.lines t).zipIdx 1).filterMap (rejection? strict)).map request.rejectionReport)

/-- **A rule set that is loaded comes through exactly if a line of its text defines a rule or no
line is refused.** -/
theorem keepsRefusals_iff {strict : Bool} {t : Text} {set : RuleSet}
    (h : (ofText strict t).result = .ok set) :
    KeepsRefusals strict t set ↔
      (∃ line ∈ Text.lines t, defines strict line = true) ∨
        ∀ line ∈ Text.lines t, isRefused strict line = false := by
  have hs : set.size ≠ 0 ↔ ∃ line ∈ Text.lines t, defines strict line = true := by
    rw [Ne, size_eq_zero_iff h]
    simp
  rw [← hs, ← rejections_eq_nil_iff h]
  constructor
  · intro hk
    exact (Scanner.rules_ofRules_eq_iff set none).mp (hk.held none)
  · intro hc
    have held : ∀ outlook, (Scanner.ofRules set outlook).rules = set :=
      fun outlook => (Scanner.rules_ofRules_eq_iff set outlook).mpr hc
    refine ⟨held, ?_⟩
    intro request settings files path data outlook hp hd ht hstrict
    have hl : (request.loadRules settings files).result = .ok set := by
      rw [ScanRequest.loadRules_result hp hd, ht, hstrict, h]
      rfl
    obtain ⟨results, hr⟩ := ScanRequest.run_result outlook hl
    rw [held, (isolatesRefusals_of_ofLines h).recorded] at hr
    exact ⟨results, hr⟩

/-- A bad rule beside a good one is kept on record. -/
theorem keepsRefusals_of_mixed :
    KeepsRefusals false "attachment A size == 1\nattachment B ext == b".toList
      { attachmentRules := [("B".toList, ⟨"B".toList,
          [⟨.extension, .equal, .literal "b".toList, "ext == b".toList⟩]⟩)]
        rejections := [⟨"A".toList, 1,
          "rule A: unknown key 'size' (near 'size == 1')"⟩] } :=
  (keepsRefusals_iff (by decide +kernel)).mpr
    (.inl ⟨"attachment B ext == b".toList, by decide +kernel, by decide +kernel⟩)

end RuleSet

/-- A bad rule alone is on record after loading, but the scanner has no record of it. -/
theorem Scanner.rules_ofRules_of_onlyRefused :
    ∃ set, (RuleSet.ofText false "attachment A size == 1".toList).result = .ok set ∧
      set.rejections.length = 1 ∧ (Scanner.ofRules set none).rules.rejections = [] := by
  refine ⟨{ rejections := [⟨"A".toList, 1, "rule A: unknown key 'size' (near 'size == 1')"⟩] },
    ?_, rfl, rfl⟩
  decide +kernel

end MailScreen
