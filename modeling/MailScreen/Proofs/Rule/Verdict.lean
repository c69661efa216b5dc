import MailScreen.Proofs.FirstFailure
import MailScreen.Rule.Lines

/-!
# What a line of rules comes to

Reading a line hands the rules read so far through to their new state, but what the line *says* does
not depend on them: it defines a rule, defines a check, is refused, or is passed over, and in rare
cases it ends the reading. This module splits reading into the two. `RuleLine.verdict` is what a
line says; `RuleSet.take` is what a rule set makes of it. One line is one `take`
(`RuleSet.readLine_result`) and a file is all of them in order (`RuleSet.readLines_result`), so
whatever is to be said about a rule file can be said about the list of its verdicts.

A verdict that defines something comes from a definition that compiles or from a call that asks for
a check (`RuleLine.grounded_of_verdict`). What every such verdict keeps of a rule set is true of all
rule sets that lines define (`RuleSet.keeps_of_ofLines`).
-/
namespace MailScreen

/-- What a line says, whatever has been read before it. -/
inductive LineVerdict where
  /-- Nothing is defined. -/
  | passed
  /-- An attachment rule is defined. -/
  | rule (rule : AttachmentRule)
  /-- A check rule is defined. -/
  | check (rule : CheckRule)
  /-- A rule is malformed and not defined. -/
  | refused (error : RuleError)
  deriving DecidableEq, Repr

namespace LineVerdict

/-- Whether a line is refused. -/
def isRefused : LineVerdict → Bool
  | refused _ => true
  | _ => false

/-- Whether a line defines a rule of either kind. -/
def defines : LineVerdict → Bool
  | rule _ | check _ => true
  | _ => false

/-- The entry that a verdict on the line of a number puts on record, if any. -/
def rejection? (number : Nat) : LineVerdict → Option Rejection
  | refused error => some ⟨error.rule, number, error.message⟩
  | _ => none

end LineVerdict

namespace RuleLine

/-- What the value of an `attachment` line says. -/
def attachmentVerdict (strict : Bool) (value : Text) : Except RuleFault LineVerdict :=
  let (name, definition) := firstWord value
  if definition.isEmpty then
    AttachmentRule.refuse (if value.isEmpty then "<unnamed>".toList else value) .incomplete none
  else (AttachmentRule.compile strict name definition).result.map .rule

/-- What the value of a `body` line says. -/
def bodyVerdict (value : Text) : Except RuleFault LineVerdict :=
  match readCall? value with
  | none => .ok .passed
  | some call =>
    (readCheck call).map fun asked =>
      match asked with
      | none => .passed
      | some check => .check ⟨call.name, check⟩

/-- What the content of a line says. -/
def contentVerdict (strict : Bool) (content : Text) : Except RuleFault LineVerdict :=
  let (word, value) := firstWord content
  let keyword := Text.lower word
  if value.contains '\n' then .error .brokenLine
  else if keyword = "attachment".toList then attachmentVerdict strict value
  else if keyword = "body".toList && Text.hasPiece "eval:".toList value then bodyVerdict value
  else .ok .passed

/-- A malformed rule is refused; any other fault stays one. -/
def settle : Except RuleFault LineVerdict → Except RuleFault LineVerdict
  | .error (.malformed error) => .ok (.refused error)
  | other => other

/-- What a line says. -/
def verdict (strict : Bool) (line : Text) : Except RuleFault LineVerdict :=
  if (content line).isEmpty then .ok .passed else settle (contentVerdict strict (content line))

/-- **Where a verdict comes from.** A rule comes from a definition that compiles under the word
before it, and a check from a call that asks for it. -/
inductive Grounded (strict : Bool) : LineVerdict → Prop
  /-- Nothing is defined. -/
  | passed : Grounded strict .passed
  /-- A line is refused. -/
  | refused (error : RuleError) : Grounded strict (.refused error)
  /-- A definition compiles. -/
  | rule {value : Text} {rule : AttachmentRule}
    (h : (AttachmentRule.compile strict (firstWord value).1 (firstWord value).2).result =
      .ok rule) : Grounded strict (.rule rule)
  /-- A call asks for a check. -/
  | check {value : Text} {call : CheckCall} {check : Check} (hc : readCall? value = some call)
    (h : readCheck call = .ok (some check)) : Grounded strict (.check ⟨call.name, check⟩)

/-- Whether a line is refused. -/
def isRefused (strict : Bool) (line : Text) : Bool :=
  match verdict strict line with
  | .ok said => said.isRefused
  | .error _ => false

/-- Whether a line defines a rule of either kind. -/
def defines (strict : Bool) (line : Text) : Bool :=
  match verdict strict line with
  | .ok said => said.defines
  | .error _ => false

/-- The entry that a line with its number puts on record, if any. -/
def rejection? (strict : Bool) (line : Text × Nat) : Option Rejection :=
  match verdict strict line.1 with
  | .ok said => said.rejection? line.2
  | .error _ => none

/-! ## Where verdicts come from -/

theorem grounded_of_attachmentVerdict {strict : Bool} {value : Text} {said : LineVerdict}
    (h : attachmentVerdict strict value = .ok said) : Grounded strict said := by
  unfold attachmentVerdict at h
  simp only at h
  split at h
  · cases h
  · obtain ⟨rule, hc, rfl⟩ := map_eq_ok_iff.mp h
    exact .rule hc

theorem grounded_of_bodyVerdict {strict : Bool} {value : Text} {said : LineVerdict}
    (h : bodyVerdict value = .ok said) : Grounded strict said := by
  unfold bodyVerdict at h
  split at h
  · obtain rfl := Except.ok.inj h
    exact .passed
  · rename_i call hcall
    obtain ⟨asked, hc, rfl⟩ := map_eq_ok_iff.mp h
    cases asked with
    | none => exact .passed
    | some check => exact .check hcall hc

theorem grounded_of_contentVerdict {strict : Bool} {content : Text} {said : LineVerdict}
    (h : contentVerdict strict content = .ok said) : Grounded strict said := by
  unfold contentVerdict at h
  simp only at h
  split at h
  · cases h
  · split at h
    · exact grounded_of_attachmentVerdict h
    · split at h
      · exact grounded_of_bodyVerdict h
      · obtain rfl := Except.ok.inj h
        exact .passed

/-- **What a line says has a ground in it.** -/
theorem grounded_of_verdict {strict : Bool} {line : Text} {said : LineVerdict}
    (h : verdict strict line = .ok said) : Grounded strict said := by
  unfold verdict at h
  split at h
  · obtain rfl := Except.ok.inj h
    exact .passed
  · cases hc : contentVerdict strict (content line) with
    | ok found =>
      rw [hc] at h
      obtain rfl := Except.ok.inj h
      exact grounded_of_contentVerdict hc
    | error fault =>
      rw [hc] at h
      cases fault with
      | malformed error =>
        obtain rfl := Except.ok.inj h
        exact .refused error
      | _ => cases h

/-- What lines say has a ground in each of them. -/
theorem grounded_of_mapM {strict : Bool} {lines : List Text} {said : List LineVerdict}
    (h : lines.mapM (verdict strict) = .ok said) : ∀ v ∈ said, Grounded strict v := by
  have hf := mapM_eq_ok_iff.mp h
  clear h
  induction hf with
  | nil => exact fun _ hv => absurd hv List.not_mem_nil
  | cons hv _ ih => exact List.forall_mem_cons.mpr ⟨grounded_of_verdict hv, ih⟩

end RuleLine

namespace RuleSet

open RuleLine

/-- What a rule set becomes by a verdict on the line of a number. -/
def take (set : RuleSet) (number : Nat) : LineVerdict → RuleSet
  | .passed => set
  | .rule rule => set.define rule
  | .check rule => set.defineCheck rule
  | .refused error => set.reject ⟨error.rule, number, error.message⟩

/-- What a rule set becomes by verdicts on the lines from a number on. -/
def takeAll (set : RuleSet) (number : Nat) : List LineVerdict → RuleSet
  | [] => set
  | said :: rest => takeAll (set.take number said) (number + 1) rest

/-! ## One line -/

@[simp] theorem warnTaken_result (set : RuleSet) (name : Text) :
    (set.warnTaken name).result = .ok () := by
  unfold warnTaken
  split <;> rfl

theorem readAttachment_result (strict : Bool) (set : RuleSet) (number : Nat) (value : Text) :
    (readAttachment strict set value).result =
      (attachmentVerdict strict value).map (set.take number) := by
  unfold readAttachment attachmentVerdict
  simp only
  split
  · rfl
  · simp only [Noted.result_bind, warnTaken_result, Noted.result_pure]
    cases h : (AttachmentRule.compile strict (firstWord value).1 (firstWord value).2).result with
    | error fault => rfl
    | ok rule => rfl

theorem readBody_result (set : RuleSet) (number : Nat) (value : Text) :
    (readBody set value).result = (bodyVerdict value).map (set.take number) := by
  unfold readBody bodyVerdict
  cases readCall? value with
  | none => rfl
  | some call =>
    simp only [Noted.result_bind, Noted.result_ofExcept]
    cases readCheck call with
    | error fault => rfl
    | ok asked =>
      cases asked with
      | none => rfl
      | some check =>
        show ((set.warnTaken call.name >>= fun _ => _ : Noted RuleFault RuleSet)).result = _
        rw [Noted.result_bind, warnTaken_result]
        rfl

theorem readContent_result (strict : Bool) (set : RuleSet) (number : Nat) (content : Text) :
    (readContent strict set number content).result =
      (contentVerdict strict content).map (set.take number) := by
  unfold readContent contentVerdict
  simp only
  split
  · rfl
  · split
    · exact readAttachment_result strict set number _
    · split
      · exact readBody_result set number _
      · rfl

/-- **One line.** What a line says does not depend on the rules read before it, and it changes them
by what it says. -/
theorem readLine_result (strict : Bool) (set : RuleSet) (number : Nat) (line : Text) :
    (readLine strict set number line).result = (verdict strict line).map (set.take number) := by
  unfold readLine verdict
  simp only
  split
  · rfl
  · rw [Noted.result_bind, Noted.result_attempt, readContent_result]
    cases contentVerdict strict (content line) with
    | ok said => rfl
    | error fault => cases fault <;> rfl

/-! ## All lines -/

/-- **All lines.** Reading lines is hearing what each says and taking it in order. -/
theorem readLines_result (strict : Bool) (set : RuleSet) (number : Nat) (lines : List Text) :
    (readLines strict set number lines).result =
      (lines.mapM (verdict strict)).map (set.takeAll number) := by
  induction lines generalizing set number with
  | nil => rfl
  | cons line rest ih =>
    simp only [readLines, Noted.result_bind, readLine_result, List.mapM_cons]
    cases verdict strict line with
    | error fault => rfl
    | ok said =>
      show (readLines strict (set.take number said) (number + 1) rest).result = _
      rw [ih]
      cases rest.mapM (verdict strict) <;> rfl

theorem ofLines_result (strict : Bool) (lines : List Text) :
    (ofLines strict lines).result =
      (lines.mapM (verdict strict)).map (takeAll {} 1) := by
  unfold ofLines
  simp only [Noted.result_bind, Noted.result_pure, readLines_result]
  cases lines.mapM (verdict strict) <;> rfl

/-! ## What verdicts keep -/

/-- What each of some verdicts keeps, all of them keep. -/
theorem keeps_takeAll {p : RuleSet → Prop} {said : List LineVerdict}
    (hstep : ∀ set number, ∀ v ∈ said, p set → p (set.take number v)) {set : RuleSet} (h : p set)
    (number : Nat) : p (set.takeAll number said) := by
  induction said generalizing set number with
  | nil => exact h
  | cons v rest ih =>
    exact ih (fun set number w hw => hstep set number w (List.mem_cons_of_mem v hw))
      (hstep set number v (List.mem_cons_self ..) h) (number + 1)

/-- **What holds of no rules and is kept by every verdict that has a ground holds of whatever lines
define.** -/
theorem keeps_of_ofLines {p : RuleSet → Prop} {strict : Bool} {lines : List Text} {set : RuleSet}
    (hempty : p {}) (hstep : ∀ set number said, Grounded strict said → p set →
      p (RuleSet.take set number said))
    (h : (ofLines strict lines).result = .ok set) : p set := by
  rw [ofLines_result] at h
  obtain ⟨said, hm, rfl⟩ := map_eq_ok_iff.mp h
  have hg := grounded_of_mapM hm
  exact keeps_takeAll (fun set number v hv => hstep set number v (hg v hv)) hempty 1

end RuleSet
end MailScreen
