import MailScreen.Proofs.Rule.Content
import MailScreen.Proofs.Rule.Uncompilable
import MailScreen.Proofs.Rule.Verdict
import MailScreen.Proofs.Text.Line

/-!
# Loading rules

A rule file with bad lines in it is meant to load as if they were not there, each of them on record
once with its number. **That is what happens exactly as long as no line is uncompilable**
(`RuleSet.isolatesRefusals_iff`): an `attachment` line in which a clause asks for a pattern that is
refused for a reason other than its form. Such a line is not put on record but ends the reading, and
the rules before and after it are lost with it (`RuleSet.ofText_of_hugeRepeat`).

The argument reads a file as the list of its verdicts. What a rule set has on record after them are
the refusals among them in order (`RuleSet.rejections_takeAll`), and what it defines is what the
others define (`RuleSet.withoutRejections_takeAll`).
-/
namespace MailScreen

namespace RuleLine

/-- An `attachment` line whose definition is uncompilable. -/
def Uncompilable (line : Text) : Prop :=
  let (word, value) := firstWord (content line)
  let (name, definition) := firstWord value
  Text.lower word = "attachment".toList ∧ definition ≠ [] ∧
    AttachmentRule.Uncompilable name definition

/-! ## When a line ends the reading -/

theorem isMalformed_of_readArguments {call : CheckCall} {fault : RuleFault}
    (h : readArguments call = .error fault) : fault.isMalformed = true := by
  unfold readArguments at h
  split at h
  · cases h
  · obtain ⟨-, piece, -, -, -, hp⟩ := mapM_eq_error_iff.mp h
    simp only [readArgument] at hp
    split at hp
    · cases hp
    · exact AttachmentRule.isMalformed_of_refuse hp

theorem isMalformed_of_readCheck {call : CheckCall} {fault : RuleFault}
    (h : readCheck call = .error fault) : fault.isMalformed = true := by
  unfold readCheck at h
  split at h
  · cases h
  · rcases bind_eq_error_iff.mp h with h | ⟨arguments, -, h⟩
    · exact isMalformed_of_readArguments h
    · split at h
      · exact AttachmentRule.isMalformed_of_refuse h
      · split at h
        · exact AttachmentRule.isMalformed_of_refuse h
        · cases h

/-- A check call may be malformed, but nothing else goes wrong with it. -/
theorem isMalformed_of_bodyVerdict {value : Text} {fault : RuleFault}
    (h : bodyVerdict value = .error fault) : fault.isMalformed = true := by
  unfold bodyVerdict at h
  split at h
  · cases h
  · exact isMalformed_of_readCheck (map_eq_error_iff.mp h)

theorem attachmentVerdict_fault_iff (strict : Bool) (value : Text) :
    (∃ fault, attachmentVerdict strict value = .error fault ∧ fault.isMalformed = false) ↔
      (firstWord value).2 ≠ [] ∧
        AttachmentRule.Uncompilable (firstWord value).1 (firstWord value).2 := by
  rw [← AttachmentRule.compile_fault_iff strict]
  unfold attachmentVerdict
  by_cases hd : (firstWord value).2 = []
  · simp only [hd, List.isEmpty_nil, if_true]
    constructor
    · rintro ⟨fault, h, hm⟩
      rw [AttachmentRule.isMalformed_of_refuse h] at hm
      cases hm
    · rintro ⟨h, -⟩
      exact absurd rfl h
  · have hd' : (firstWord value).2.isEmpty = false := by simpa using hd
    simp only [hd', Bool.false_eq_true, if_false, map_eq_error_iff]
    exact ⟨fun h => ⟨hd, h⟩, fun h => h.2⟩

theorem settle_eq_error_iff {said : Except RuleFault LineVerdict} :
    (∃ fault, settle said = .error fault) ↔
      ∃ fault, said = .error fault ∧ fault.isMalformed = false := by
  cases said with
  | ok said => simp [settle]
  | error fault =>
    cases fault with
    | malformed error => simp [settle, RuleFault.isMalformed]
    | _ => simp [settle, RuleFault.isMalformed]

/-- **A line of a text ends the reading exactly if it is uncompilable.** -/
theorem verdict_fault_iff (strict : Bool) {line : Text} (hl : '\n' ∉ line) :
    (∃ fault, verdict strict line = .error fault) ↔ Uncompilable line := by
  unfold verdict Uncompilable
  by_cases he : content line = []
  · have hw : Text.lower (firstWord (content line)).1 ≠ "attachment".toList := by
      rw [he]; decide
    rw [if_pos (by simp [he])]
    constructor
    · rintro ⟨fault, h⟩
      cases h
    · rintro ⟨h, -⟩
      exact absurd h hw
  · rw [if_neg (by simpa using he), settle_eq_error_iff]
    simp only [contentVerdict, value_contains_lineFeed hl, Bool.false_eq_true, if_false]
    split
    · rename_i hk
      rw [attachmentVerdict_fault_iff]
      exact ⟨fun h => ⟨hk, h⟩, fun h => h.2⟩
    · rename_i hk
      constructor
      · rintro ⟨fault, h, hm⟩
        split at h
        · rw [isMalformed_of_bodyVerdict h] at hm
          cases hm
        · cases h
      · rintro ⟨h, -⟩
        exact absurd h hk

end RuleLine

namespace RuleSet

open RuleLine

/-- A rule set with nothing on record. -/
def withoutRejections (set : RuleSet) : RuleSet := { set with rejections := [] }

/-! ## What verdicts leave on record, and what they define -/

theorem rejections_take (set : RuleSet) (number : Nat) (said : LineVerdict) :
    (set.take number said).rejections = set.rejections ++ (said.rejection? number).toList := by
  cases said <;> simp [take, define, defineCheck, release, reject, LineVerdict.rejection?]

theorem rejections_takeAll (set : RuleSet) (number : Nat) (said : List LineVerdict) :
    (set.takeAll number said).rejections =
      set.rejections ++ (said.zipIdx number).filterMap fun entry => entry.1.rejection? entry.2 := by
  induction said generalizing set number with
  | nil => simp [takeAll]
  | cons v rest ih =>
    rw [takeAll, ih, rejections_take, List.append_assoc, List.zipIdx_cons, List.filterMap_cons]
    cases v.rejection? number with
    | none => rfl
    | some rejection => rfl

/-- A refusal defines nothing, and any other verdict defines the same whatever is on record. -/
theorem withoutRejections_take (set : RuleSet) (number other : Nat) (said : LineVerdict) :
    (set.take number said).withoutRejections =
      if said.isRefused then set.withoutRejections else set.withoutRejections.take other said := by
  cases said <;> rfl

theorem withoutRejections_takeAll (set : RuleSet) (number other : Nat)
    (said : List LineVerdict) :
    (set.takeAll number said).withoutRejections =
      set.withoutRejections.takeAll other (said.filter fun v => !v.isRefused) := by
  induction said generalizing set number other with
  | nil => rfl
  | cons v rest ih =>
    -- numbers are kept only with refusals, so those of the lines that are left do not matter
    rw [takeAll, ih _ _ (other + 1), withoutRejections_take set number other]
    cases h : v.isRefused with
    | true =>
      rw [List.filter_cons_of_neg (by simp [h]), if_pos rfl, ← ih set number, ih set number other]
    | false => rw [List.filter_cons_of_pos (by simp [h]), takeAll]; rfl

/-! ## From verdicts to lines -/

/-- The refusals among lines are those among their verdicts. -/
theorem filterMap_rejection? {strict : Bool} {lines : List Text} {said : List LineVerdict}
    (h : List.Forall₂ (fun line v => verdict strict line = .ok v) lines said) (number : Nat) :
    (lines.zipIdx number).filterMap (rejection? strict) =
      (said.zipIdx number).filterMap fun entry => entry.1.rejection? entry.2 := by
  induction h generalizing number with
  | nil => rfl
  | cons hv _ ih =>
    rw [List.zipIdx_cons, List.zipIdx_cons, List.filterMap_cons, List.filterMap_cons, ih]
    simp only [rejection?, hv]

/-- The lines that are not refused say what is not a refusal. -/
theorem mapM_verdict_filter {strict : Bool} {lines : List Text} {said : List LineVerdict}
    (h : List.Forall₂ (fun line v => verdict strict line = .ok v) lines said) :
    (lines.filter fun line => !isRefused strict line).mapM (verdict strict) =
      .ok (said.filter fun v => !v.isRefused) := by
  rw [mapM_eq_ok_iff]
  induction h with
  | nil => exact .nil
  | @cons line v lines said hv _ ih =>
    have hr : isRefused strict line = v.isRefused := by simp only [isRefused, hv]
    cases hc : v.isRefused with
    | true =>
      rw [List.filter_cons_of_neg (by simp [hr, hc]), List.filter_cons_of_neg (by simp [hc])]
      exact ih
    | false =>
      rw [List.filter_cons_of_pos (by simp [hr, hc]), List.filter_cons_of_pos (by simp [hc])]
      exact .cons hv ih

theorem line_of_rejection? {strict : Bool} {entry : Text × Nat} {rejection : Rejection}
    (h : rejection? strict entry = some rejection) : rejection.line = entry.2 := by
  unfold rejection? at h
  split at h
  · rename_i said _
    cases said with
    | refused error =>
      obtain rfl := Option.some.inj h
      rfl
    | _ => cases h
  · cases h

theorem isSome_rejection? (strict : Bool) (entry : Text × Nat) :
    (rejection? strict entry).isSome = isRefused strict entry.1 := by
  unfold rejection? isRefused
  cases verdict strict entry.1 with
  | error fault => rfl
  | ok said => cases said <;> rfl

/-- Consecutive numbers increase. -/
theorem pairwise_zipIdx (lines : List Text) (number : Nat) :
    (lines.zipIdx number).Pairwise fun a b => a.2 < b.2 := by
  induction lines generalizing number with
  | nil => exact .nil
  | cons line rest ih =>
    rw [List.zipIdx_cons, List.pairwise_cons]
    refine ⟨?_, ih (number + 1)⟩
    intro entry he
    exact List.le_snd_of_mem_zipIdx he

/-- The numbers of refused lines increase. -/
theorem pairwise_line_rejection? (strict : Bool) (lines : List Text) (number : Nat) :
    (((lines.zipIdx number).filterMap (rejection? strict)).map Rejection.line).Pairwise
      (· < ·) := by
  rw [List.pairwise_map]
  refine (pairwise_zipIdx lines number).filterMap _ ?_
  intro a b hab r hr s hs
  rw [line_of_rejection? hr, line_of_rejection? hs]
  exact hab

/-! ## Loading -/

/-- **A rule set in which refused lines are isolated**: what is on record are the refused lines in
order, each once with its number, and what is defined is what the other lines define alone. -/
structure IsolatesRefusals (strict : Bool) (lines : List Text) (set : RuleSet) : Prop where
  /-- The refused lines are on record with their names, numbers and reasons. -/
  recorded : set.rejections = (lines.zipIdx 1).filterMap (rejection? strict)
  /-- The numbers on record increase. -/
  increasing : (set.rejections.map Rejection.line).Pairwise (· < ·)
  /-- Each refused line is on record once. -/
  once : ∀ line number, (line, number) ∈ lines.zipIdx 1 → isRefused strict line = true →
    (set.rejections.map Rejection.line).count number = 1
  /-- Without the refused lines the same rules are defined, and nothing is put on record. -/
  unaffected : (ofLines strict (lines.filter fun line => !isRefused strict line)).result =
    .ok set.withoutRejections

/-- Whatever is loaded isolates refused lines. -/
theorem isolatesRefusals_of_ofLines {strict : Bool} {lines : List Text} {set : RuleSet}
    (h : (ofLines strict lines).result = .ok set) : set.IsolatesRefusals strict lines := by
  rw [ofLines_result] at h
  cases hm : lines.mapM (verdict strict) with
  | error fault => rw [hm] at h; cases h
  | ok said =>
    rw [hm] at h
    obtain rfl : takeAll {} 1 said = set := Except.ok.inj h
    have hs := mapM_eq_ok_iff.mp hm
    have hr : (takeAll {} 1 said).rejections = (lines.zipIdx 1).filterMap (rejection? strict) := by
      rw [rejections_takeAll, filterMap_rejection? hs]
      rfl
    have hi := pairwise_line_rejection? strict lines 1
    refine ⟨hr, hr ▸ hi, ?_, ?_⟩
    · intro line number hl href
      obtain ⟨rejection, hj⟩ := Option.isSome_iff_exists.mp
        ((isSome_rejection? strict (line, number)).trans href)
      have hn : number ∈ ((lines.zipIdx 1).filterMap (rejection? strict)).map Rejection.line :=
        List.mem_map.mpr ⟨rejection, List.mem_filterMap.mpr ⟨_, hl, hj⟩, line_of_rejection? hj⟩
      have hd : (((lines.zipIdx 1).filterMap (rejection? strict)).map Rejection.line).Nodup :=
        hi.imp fun hlt => Nat.ne_of_lt hlt
      rw [hr, hd.count, if_pos hn]
    · rw [ofLines_result, mapM_verdict_filter hs, withoutRejections_takeAll _ _ 1]
      rfl

/-- **Loading a text isolates its refused lines exactly if none of its lines is uncompilable**, for
a strict reader as for a lenient one. Otherwise nothing is loaded at all. -/
theorem isolatesRefusals_iff (strict : Bool) (t : Text) :
    (∃ set, (ofText strict t).result = .ok set ∧ set.IsolatesRefusals strict (Text.lines t)) ↔
      ∀ line ∈ Text.lines t, ¬ RuleLine.Uncompilable line := by
  have hv : ∀ line ∈ Text.lines t, (∃ said, verdict strict line = .ok said) ↔
      ¬ RuleLine.Uncompilable line := by
    intro line hl
    rw [← verdict_fault_iff strict (Text.lineFeed_notMem_of_mem_lines hl)]
    cases verdict strict line <;> simp
  constructor
  · rintro ⟨set, h, -⟩ line hl
    rw [ofText, ofLines_result] at h
    cases hm : (Text.lines t).mapM (verdict strict) with
    | error fault => rw [hm] at h; cases h
    | ok said => exact (hv line hl).mp (exists_mapM_eq_ok_iff.mp ⟨said, hm⟩ line hl)
  · intro h
    obtain ⟨said, hm⟩ := exists_mapM_eq_ok_iff.mpr fun line hl => (hv line hl).mpr (h line hl)
    have hl : (ofText strict t).result = .ok (takeAll {} 1 said) := by
      rw [ofText, ofLines_result, hm]
      rfl
    exact ⟨_, hl, isolatesRefusals_of_ofLines hl⟩

/-- A number of repetitions that does not fit ends the reading: the rule on the next line, which is
well formed, is lost. -/
theorem ofText_of_hugeRepeat :
    (ofText false
      "attachment A name =~ /a\x7b99999999999\x7d/\nattachment B ext == b".toList).result =
      .error (.pattern "a\x7b99999999999\x7d".toList .hugeRepeat) := by
  decide +kernel

end RuleSet
end MailScreen
