import MailScreen.Proofs.Rule.Compiled
import MailScreen.Proofs.Rule.Composition
import MailScreen.Rule.Evaluation

/-!
# Evaluating what was loaded

Evaluating a rule may fail: a comparison may not be supported, a text may be looked for as if it
were a pattern, a check may not be known, or be asked with too few or too many arguments. **None of
it happens with rules that are compiled or loaded** (`RuleSet.compiled_and_evaluated`): compiling
gives clauses whose comparisons can be made, and a line defines no check that is not known, and none
whose arguments do not fit (`RuleLine.readCheck_spec`). This is an invariant of verdicts like any
other (`RuleSet.Evaluable.take`), and so it holds of whatever a text defines.

With it evaluation is told without any failure in it. A rule holds if one record satisfies all its
clauses (`AttachmentRule.holdsAmong`), and the results of a rule set are those of its rules under
their names, in the order of the names (`RuleSet.evaluate_result`).
-/
namespace MailScreen

/-! ## What rules say, without failures -/

/-- Whether a value satisfies a clause whose comparison can be made. -/
def Clause.isSatisfiedBy (clause : Clause) (value : Text) : Bool :=
  match clause.operator, clause.operand with
  | .equal, .literal text => value == text
  | .notEqual, .literal text => value != text
  | .matching, .pattern compiled => compiled.occursIn value
  | .notMatching, .pattern compiled => !compiled.occursIn value
  | _, _ => false

/-- Whether one of the records satisfies all clauses of a rule. -/
def AttachmentRule.holdsAmong (rule : AttachmentRule) (records : List AttachmentRecord) : Bool :=
  records.any fun record =>
    rule.clauses.all fun clause => clause.isSatisfiedBy (clause.target.valueIn record)

/-- Whether a check that can be evaluated holds. -/
def Check.holdsAmong (check : Check) (records : List AttachmentRecord) : Bool :=
  if check.name = countName.toList then
    match check.arguments with
    | [least, most] => countHolds least most records
    | _ => false
  else check.name = mimeErrorName.toList && mimeErrorHolds records

/-- Whether a check is known. -/
def Check.IsKnown (check : Check) : Prop :=
  check.name = countName.toList ∨ check.name = mimeErrorName.toList

instance (check : Check) : Decidable check.IsKnown :=
  inferInstanceAs (Decidable (check.name = Check.countName.toList ∨
    check.name = Check.mimeErrorName.toList))

/-- Whether the check of a number is asked with two arguments, if a check is that one. -/
def Check.ArgumentsFit (check : Check) : Prop :=
  check.name = countName.toList → check.arguments.length = 2

instance (check : Check) : Decidable check.ArgumentsFit :=
  inferInstanceAs (Decidable (check.name = Check.countName.toList → check.arguments.length = 2))

namespace RuleSet

/-- By name whether each rule holds: the attachment rules, and after them the check rules. -/
def results (set : RuleSet) (records : List AttachmentRecord) : Table Bool :=
  set.attachmentRules.map (fun entry => (entry.1, entry.2.holdsAmong records)) ++
    set.checkRules.map fun entry => (entry.1, entry.2.check.holdsAmong records)

/-- The value of a rule, or `false` if it cannot be evaluated. -/
def valueOrFalse : Except EvaluationFault Bool → Bool
  | .ok held => held
  | .error _ => false

/-- Values by name: those of the attachment rules, and after them those of the check rules. -/
def valuesBy (set : RuleSet) (f : AttachmentRule → Bool) (g : CheckRule → Bool) : Table Bool :=
  set.attachmentRules.map (fun entry => (entry.1, f entry.2)) ++
    set.checkRules.map fun entry => (entry.1, g entry.2)

/-- A rule set whose rules can be evaluated. -/
structure Evaluable (set : RuleSet) : Prop where
  /-- The comparisons of attachment rules can be made. -/
  wellTyped : ∀ entry ∈ set.attachmentRules, ∀ clause ∈ entry.2.clauses, clause.WellTyped
  /-- The checks are known. -/
  known : ∀ entry ∈ set.checkRules, entry.2.check.IsKnown
  /-- They are asked with as many arguments as they take. -/
  fit : ∀ entry ∈ set.checkRules, entry.2.check.ArgumentsFit

/-- **The rules of a set are evaluated on records without failure.** -/
structure EvaluatesOn (set : RuleSet) (records : List AttachmentRecord) : Prop where
  /-- Every attachment rule has a value. -/
  rule : ∀ entry ∈ set.attachmentRules, ∃ held, (entry.2.evaluate records).result = .ok held
  /-- Every check rule has a value. -/
  check : ∀ entry ∈ set.checkRules, ∃ held, entry.2.check.evaluate records = .ok held
  /-- The set has a result. -/
  returns : ∃ results, (set.evaluate records).result = .ok results
  /-- It is not noted of any rule that it cannot be evaluated. -/
  quiet : ∀ entry ∈ (set.evaluate records).log, entry.severity ≠ .error

end RuleSet

/-! ## What is noted -/

namespace Noted

variable {ε α β σ : Type}

/-- Nothing is noted as an error. -/
def Quiet (x : Noted ε α) : Prop := ∀ entry ∈ x.log, entry.severity ≠ .error

theorem quiet_pure (a : α) : (pure a : Noted ε α).Quiet := fun _ h => nomatch h

theorem quiet_ofExcept (r : Except ε α) : (ofExcept r).Quiet := fun _ h => nomatch h

theorem quiet_debug (message : String) : (debug message : Noted ε Unit).Quiet := by
  intro entry h
  obtain rfl := List.mem_singleton.mp h
  exact fun he => nomatch he

theorem Quiet.bind {x : Noted ε α} {f : α → Noted ε β} (hx : x.Quiet) (hf : ∀ a, (f a).Quiet) :
    (x >>= f).Quiet := by
  show (andThen x f).Quiet
  unfold andThen
  split
  · exact hx
  · rename_i a _
    intro entry h
    rcases List.mem_append.mp h with h | h
    · exact hx entry h
    · exact hf a entry h

theorem Quiet.foldlM {f : σ → α → Noted ε σ} {steps : List α}
    (h : ∀ step ∈ steps, ∀ state, (f state step).Quiet) (start : σ) :
    (steps.foldlM f start).Quiet := by
  induction steps generalizing start with
  | nil => exact quiet_pure start
  | cons step rest ih =>
    rw [List.forall_mem_cons] at h
    rw [List.foldlM_cons]
    exact (h.1 start).bind fun state => ih h.2 state

end Noted

/-! ## One rule -/

/-- A comparison that can be made is made. -/
theorem Clause.holdsOf_eq {clause : Clause} (h : clause.WellTyped) (value : Text) :
    clause.holdsOf value = .ok (clause.isSatisfiedBy value) := by
  obtain ⟨target, operator, operand, source⟩ := clause
  have hp := h.pattern_iff
  cases operator with
  | unsupported symbol => exact absurd rfl (h.supported symbol)
  | equal | notEqual =>
    cases operand with
    | literal text => rfl
    | pattern compiled => simp at hp
  | matching | notMatching =>
    cases operand with
    | literal text => simp at hp
    | pattern compiled => rfl

namespace AttachmentRule

theorem clausesHold_result (record : AttachmentRecord) {clauses : List Clause}
    (h : ∀ clause ∈ clauses, clause.WellTyped) :
    (clausesHold record clauses).result =
      .ok (clauses.all fun clause => clause.isSatisfiedBy (clause.target.valueIn record)) := by
  induction clauses with
  | nil => rfl
  | cons clause rest ih =>
    rw [List.forall_mem_cons] at h
    rw [clausesHold, Noted.result_bind, Noted.result_ofExcept, Clause.holdsOf_eq h.1, List.all_cons]
    cases clause.isSatisfiedBy (clause.target.valueIn record) with
    | false => rfl
    | true =>
      show Noted.result (if _ then _ else _) = _
      rw [if_pos rfl, Noted.result_bind, ih h.2]
      rfl

theorem quiet_clausesHold (record : AttachmentRecord) (clauses : List Clause) :
    (clausesHold record clauses).Quiet := by
  induction clauses with
  | nil => exact Noted.quiet_pure true
  | cons clause rest ih =>
    refine (Noted.quiet_ofExcept _).bind fun held => ?_
    cases held with
    | false => exact Noted.quiet_pure false
    | true => exact (Noted.quiet_debug _).bind fun _ => ih

theorem holdsOfSome_result {rule : AttachmentRule} (h : ∀ clause ∈ rule.clauses, clause.WellTyped)
    (records : List AttachmentRecord) :
    (rule.holdsOfSome records).result = .ok (rule.holdsAmong records) := by
  induction records with
  | nil => rfl
  | cons record rest ih =>
    rw [holdsOfSome, Noted.result_bind, clausesHold_result record h, holdsAmong, List.any_cons]
    cases rule.clauses.all fun clause => clause.isSatisfiedBy (clause.target.valueIn record) with
    | false => exact ih
    | true => rfl

theorem quiet_holdsOfSome (rule : AttachmentRule) (records : List AttachmentRecord) :
    (rule.holdsOfSome records).Quiet := by
  induction records with
  | nil => exact Noted.quiet_pure false
  | cons record rest ih =>
    refine (quiet_clausesHold record rule.clauses).bind fun held => ?_
    cases held with
    | false => exact ih
    | true => exact (Noted.quiet_debug _).bind fun _ => Noted.quiet_pure true

/-- **A rule holds if one record satisfies all its clauses.** -/
theorem evaluate_result {rule : AttachmentRule} (h : ∀ clause ∈ rule.clauses, clause.WellTyped)
    (records : List AttachmentRecord) :
    (rule.evaluate records).result = .ok (rule.holdsAmong records) := by
  rw [evaluate, Noted.result_bind, holdsOfSome_result h]
  rfl

theorem quiet_evaluate (rule : AttachmentRule) (records : List AttachmentRecord) :
    (rule.evaluate records).Quiet :=
  (Noted.quiet_debug _).bind fun _ => quiet_holdsOfSome rule records

end AttachmentRule

namespace Check

theorem mimeErrorName_ne_countName : mimeErrorName.toList ≠ countName.toList := by decide

/-- A check that is known is evaluated if its arguments fit. -/
theorem evaluate_eq {check : Check} (hk : check.IsKnown) (hf : check.ArgumentsFit)
    (records : List AttachmentRecord) :
    check.evaluate records = .ok (check.holdsAmong records) := by
  unfold evaluate holdsAmong
  rcases hk with hc | hm
  · obtain ⟨least, most, ha⟩ := List.length_eq_two.mp (hf hc)
    rw [if_pos hc, if_pos hc, ha]
  · have hc : check.name ≠ countName.toList := hm ▸ mimeErrorName_ne_countName
    rw [if_neg hc, if_neg hc, if_pos hm, decide_eq_true hm, Bool.true_and]

/-- A check that is not known is not evaluated. -/
theorem evaluate_of_not_isKnown {check : Check} (hk : ¬ check.IsKnown)
    (records : List AttachmentRecord) :
    check.evaluate records = .error (.unknownCheck check.name) := by
  obtain ⟨hc, hm⟩ := not_or.mp hk
  rw [evaluate, if_neg hc, if_neg hm]

/-- If the arguments of a check fit, a fault in it is one that rules are passed over for. -/
theorem isExpected_of_evaluate {check : Check} (hf : check.ArgumentsFit)
    {records : List AttachmentRecord} {fault : EvaluationFault}
    (h : check.evaluate records = .error fault) : fault.isExpected = true := by
  by_cases hk : check.IsKnown
  · rw [evaluate_eq hk hf] at h
    cases h
  · rw [evaluate_of_not_isKnown hk] at h
    obtain rfl := Except.error.inj h
    rfl

theorem holdsAmong_count (least most : Int) (records : List AttachmentRecord) :
    (count least most).holdsAmong records = countHolds least most records := by
  rw [holdsAmong, if_pos (show (count least most).name = countName.toList from rfl)]
  rfl

theorem holdsAmong_of_mimeError {check : Check} (h : check.name = mimeErrorName.toList)
    (records : List AttachmentRecord) : check.holdsAmong records = mimeErrorHolds records := by
  rw [holdsAmong, if_neg (h ▸ mimeErrorName_ne_countName), decide_eq_true h, Bool.true_and]

end Check

/-! ## All rules -/

namespace RuleSet

/-- A rule that has a value is evaluated as it is, and nothing is noted of it besides. -/
theorem heldOrNoted_of_ok (name : Text) {x : Noted EvaluationFault Bool} {held : Bool}
    (h : x.result = .ok held) : heldOrNoted name x = x := by
  obtain ⟨log, result⟩ := x
  obtain rfl : result = .ok held := h
  show (⟨log ++ [], .ok held⟩ : Noted EvaluationFault Bool) = _
  rw [List.append_nil]

theorem Evaluable.heldOrNoted_rule {set : RuleSet} (he : set.Evaluable)
    (records : List AttachmentRecord) {entry : Text × AttachmentRule}
    (hm : entry ∈ set.attachmentRules) :
    heldOrNoted entry.1 (entry.2.evaluate records) = entry.2.evaluate records :=
  heldOrNoted_of_ok _ (AttachmentRule.evaluate_result (he.wellTyped entry hm) records)

theorem Evaluable.heldOrNoted_check {set : RuleSet} (he : set.Evaluable)
    (records : List AttachmentRecord) {entry : Text × CheckRule} (hm : entry ∈ set.checkRules) :
    heldOrNoted entry.1 (Noted.ofExcept (entry.2.check.evaluate records)) =
      Noted.ofExcept (entry.2.check.evaluate records) :=
  heldOrNoted_of_ok _ (Check.evaluate_eq (he.known entry hm) (he.fit entry hm) records)

/-- Values that are written under new names come at the end, in the order of the names. -/
theorem foldlM_insert {α : Type} (f : Text → α → Noted EvaluationFault Bool) (g : α → Bool)
    {entries : Table α} (hf : ∀ entry ∈ entries, (f entry.1 entry.2).result = .ok (g entry.2))
    (start : Table Bool) (hn : (start.names ++ entries.names).Nodup) :
    (entries.foldlM (fun (results : Table Bool) (name, rule) => do
      let held ← f name rule
      return results.insert name held) start).result =
      .ok (start ++ entries.map fun entry => (entry.1, g entry.2)) := by
  induction entries generalizing start with
  | nil =>
    rw [List.map_nil, List.append_nil]
    rfl
  | cons entry rest ih =>
    rw [List.forall_mem_cons] at hf
    have hnew : entry.1 ∉ start.names := by
      intro hm
      exact (List.nodup_append.mp hn).2.2 _ hm _ (List.mem_cons_self ..) rfl
    have hnext : (Table.names (start ++ [(entry.1, g entry.2)]) ++ Table.names rest).Nodup := by
      rw [Table.names_append, List.append_assoc]
      exact hn
    rw [List.foldlM_cons, Noted.result_bind, Noted.result_bind, hf.1]
    show Noted.result (List.foldlM _ (start.insert entry.1 (g entry.2)) rest) = _
    rw [Table.insert_of_notMem hnew, ih hf.2 _ hnext, List.map_cons, List.append_assoc]
    rfl

/-- A rule that has a value counts as that, and one that cannot be evaluated as `false`. -/
theorem heldOrNoted_result (name : Text) {x : Noted EvaluationFault Bool}
    (h : ∀ fault, x.result = .error fault → fault.isExpected = true) :
    (heldOrNoted name x).result = .ok (valueOrFalse x.result) := by
  obtain ⟨log, result⟩ := x
  cases result with
  | ok held => rfl
  | error fault =>
    show Noted.result (if fault.isExpected = true then _ else _) = _
    rw [if_pos (h fault rfl)]
    rfl

section

variable {set : RuleSet} (f : AttachmentRule → Bool) (g : CheckRule → Bool)

theorem names_valuesBy (set : RuleSet) : (set.valuesBy f g).names = set.names := by
  rw [valuesBy, Table.names_append, Table.names_map, Table.names_map]
  rfl

/-- The value under the name of an attachment rule is that of the rule. -/
theorem find?_valuesBy_rule (hn : set.names.Nodup) {entry : Text × AttachmentRule}
    (hm : entry ∈ set.attachmentRules) : (set.valuesBy f g).find? entry.1 = some (f entry.2) :=
  Table.find?_of_mem (by rwa [names_valuesBy])
    (List.mem_append_left _ (List.mem_map.mpr ⟨entry, hm, rfl⟩))

/-- The value under the name of a check rule is that of the check. -/
theorem find?_valuesBy_check (hn : set.names.Nodup) {entry : Text × CheckRule}
    (hm : entry ∈ set.checkRules) : (set.valuesBy f g).find? entry.1 = some (g entry.2) :=
  Table.find?_of_mem (by rwa [names_valuesBy])
    (List.mem_append_right _ (List.mem_map.mpr ⟨entry, hm, rfl⟩))

end

/-- The results of a rule set in which no fault ends the evaluation: those of its rules, each by
itself, under their names and in their order. -/
theorem evaluate_result_eq {set : RuleSet} (hn : set.names.Nodup) {records : List AttachmentRecord}
    (hr : ∀ entry ∈ set.attachmentRules, ∀ fault,
      (entry.2.evaluate records).result = .error fault → fault.isExpected = true)
    (hc : ∀ entry ∈ set.checkRules, entry.2.check.ArgumentsFit) :
    (set.evaluate records).result =
      .ok (set.valuesBy (fun rule => valueOrFalse (rule.evaluate records).result)
        fun rule => valueOrFalse (rule.check.evaluate records)) := by
  have hnames : Table.names (set.attachmentRules.map fun entry =>
      (entry.1, valueOrFalse (entry.2.evaluate records).result)) = set.attachmentRules.names :=
    Table.names_map set.attachmentRules fun rule => valueOrFalse (rule.evaluate records).result
  have hfirst := foldlM_insert
    (fun name (rule : AttachmentRule) => heldOrNoted name (rule.evaluate records))
    (fun rule => valueOrFalse (rule.evaluate records).result)
    (fun entry hm => heldOrNoted_result entry.1 (hr entry hm)) [] (List.nodup_append.mp hn).1
  have hsecond := foldlM_insert
    (fun name (rule : CheckRule) => heldOrNoted name (Noted.ofExcept (rule.check.evaluate records)))
    (fun rule => valueOrFalse (rule.check.evaluate records))
    (fun entry hm => heldOrNoted_result entry.1 fun _ h =>
      Check.isExpected_of_evaluate (hc entry hm) h) _ (by rw [hnames]; exact hn)
  rw [evaluate, Noted.result_bind, hfirst]
  exact hsecond

/-- **The results of a rule set** are those of its rules, under their names and in their order. -/
theorem evaluate_result {set : RuleSet} (hw : set.WellFormed) (he : set.Evaluable)
    (records : List AttachmentRecord) :
    (set.evaluate records).result = .ok (set.results records) := by
  have hr : ∀ entry ∈ set.attachmentRules,
      (entry.2.evaluate records).result = .ok (entry.2.holdsAmong records) :=
    fun entry hm => AttachmentRule.evaluate_result (he.wellTyped entry hm) records
  have hfault : ∀ entry ∈ set.attachmentRules, ∀ fault,
      (entry.2.evaluate records).result = .error fault → fault.isExpected = true := by
    intro entry hm fault h
    rw [hr entry hm] at h
    cases h
  rw [evaluate_result_eq hw.nodup hfault he.fit, results, valuesBy]
  congr 2
  · exact List.map_congr_left fun entry hm => by rw [hr entry hm, valueOrFalse]
  · exact List.map_congr_left fun entry hm => by
      rw [Check.evaluate_eq (he.known entry hm) (he.fit entry hm), valueOrFalse]

theorem results_eq (set : RuleSet) (records : List AttachmentRecord) : set.results records =
    set.valuesBy (·.holdsAmong records) (·.check.holdsAmong records) := rfl

theorem names_results (set : RuleSet) (records : List AttachmentRecord) :
    (set.results records).names = set.names := by
  rw [results_eq, names_valuesBy]

/-- The result under the name of an attachment rule is that of the rule. -/
theorem WellFormed.find?_results_rule {set : RuleSet} (hw : set.WellFormed)
    (records : List AttachmentRecord) {entry : Text × AttachmentRule}
    (hm : entry ∈ set.attachmentRules) :
    (set.results records).find? entry.1 = some (entry.2.holdsAmong records) := by
  rw [results_eq]
  exact find?_valuesBy_rule _ _ hw.nodup hm

/-- The result under the name of a check rule is that of the check. -/
theorem WellFormed.find?_results_check {set : RuleSet} (hw : set.WellFormed)
    (records : List AttachmentRecord) {entry : Text × CheckRule} (hm : entry ∈ set.checkRules) :
    (set.results records).find? entry.1 = some (entry.2.check.holdsAmong records) := by
  rw [results_eq]
  exact find?_valuesBy_check _ _ hw.nodup hm

/-- Nothing is noted as an error where every rule has a value. -/
theorem quiet_evaluate {set : RuleSet} (he : set.Evaluable) (records : List AttachmentRecord) :
    (set.evaluate records).Quiet := by
  refine Noted.Quiet.bind (Noted.Quiet.foldlM ?_ _) fun _ => Noted.Quiet.foldlM ?_ _
  · intro entry hm results
    show Noted.Quiet (heldOrNoted entry.1 (entry.2.evaluate records) >>= _)
    rw [he.heldOrNoted_rule records hm]
    exact (AttachmentRule.quiet_evaluate entry.2 records).bind fun _ => Noted.quiet_pure _
  · intro entry hm results
    show Noted.Quiet (heldOrNoted entry.1 (Noted.ofExcept (entry.2.check.evaluate records)) >>= _)
    rw [he.heldOrNoted_check records hm]
    exact (Noted.quiet_ofExcept _).bind fun _ => Noted.quiet_pure _

theorem Evaluable.evaluatesOn {set : RuleSet} (he : set.Evaluable) (hw : set.WellFormed)
    (records : List AttachmentRecord) : set.EvaluatesOn records where
  rule := fun entry hm => ⟨_, AttachmentRule.evaluate_result (he.wellTyped entry hm) records⟩
  check := fun entry hm => ⟨_, Check.evaluate_eq (he.known entry hm) (he.fit entry hm) records⟩
  returns := ⟨_, evaluate_result hw he records⟩
  quiet := quiet_evaluate he records

end RuleSet

/-! ## What lines define -/

/-- A verdict that defines no rule that cannot be evaluated. -/
def LineVerdict.Evaluable : LineVerdict → Prop
  | rule defined => ∀ clause ∈ defined.clauses, clause.WellTyped
  | check defined => defined.check.IsKnown ∧ defined.check.ArgumentsFit
  | _ => True

namespace RuleLine

/-- **A call is read as a check that is known, with as many arguments as it takes**, or refused. -/
theorem readCheck_spec {call : CheckCall} {check : Check}
    (h : readCheck call = .ok (some check)) : check.IsKnown ∧ check.ArgumentsFit := by
  unfold readCheck at h
  split at h
  · cases h
  rename_i hknown
  obtain ⟨arguments, -, h⟩ := bind_eq_ok_iff.mp h
  split at h
  · cases h
  rename_i hcount
  split at h
  · cases h
  obtain rfl := Option.some.inj (Except.ok.inj h)
  refine ⟨?_, fun hc => not_not.mp fun hl => hcount ⟨hc, hl⟩⟩
  rw [not_and_or, not_not, not_not] at hknown
  exact hknown

/-- **What a line defines can be evaluated.** -/
theorem Grounded.evaluable {strict : Bool} {said : LineVerdict} (h : Grounded strict said) :
    said.Evaluable := by
  cases h with
  | passed | refused => trivial
  | rule hc => exact (AttachmentRule.compiledFrom_of_compile hc).wellTyped
  | check _ hc => exact readCheck_spec hc

end RuleLine

namespace RuleSet

/-- **One verdict keeps a rule set evaluable.** -/
theorem Evaluable.take {set : RuleSet} (he : set.Evaluable) (number : Nat) {said : LineVerdict}
    (hs : said.Evaluable) : (set.take number said).Evaluable := by
  cases said with
  | passed => exact he
  | refused error => exact ⟨he.wellTyped, he.known, he.fit⟩
  | rule rule =>
    rw [RuleSet.take, define_eq]
    refine ⟨List.forall_mem_append.mpr ⟨?_, ?_⟩, ?_, ?_⟩
    · exact fun entry hm => he.wellTyped entry (List.mem_of_mem_filter hm)
    · exact List.forall_mem_singleton.mpr hs
    · exact fun entry hm => he.known entry (List.mem_of_mem_filter hm)
    · exact fun entry hm => he.fit entry (List.mem_of_mem_filter hm)
  | check rule =>
    rw [RuleSet.take, defineCheck_eq]
    refine ⟨?_, List.forall_mem_append.mpr ⟨?_, ?_⟩, List.forall_mem_append.mpr ⟨?_, ?_⟩⟩
    · exact fun entry hm => he.wellTyped entry (List.mem_of_mem_filter hm)
    · exact fun entry hm => he.known entry (List.mem_of_mem_filter hm)
    · exact List.forall_mem_singleton.mpr hs.1
    · exact fun entry hm => he.fit entry (List.mem_of_mem_filter hm)
    · exact List.forall_mem_singleton.mpr hs.2

/-- What lines define can be evaluated. -/
theorem evaluable_of_ofLines {strict : Bool} {lines : List Text} {set : RuleSet}
    (h : (ofLines strict lines).result = .ok set) : set.Evaluable :=
  keeps_of_ofLines ⟨by simp, by simp, by simp⟩
    (fun _ number _ hg he => he.take number hg.evaluable) h

/-- **Compiled rules are well formed, and loaded rules never fail to be evaluated.** Every
definition that compiles gives clauses on different targets whose comparisons can be made, the last
ones on their targets, which stand in the definition in their order; and whatever a text defines has
a value on all records, without a rule being passed over because it cannot be evaluated. -/
theorem compiled_and_evaluated (strict : Bool) :
    (∀ name definition rule, (AttachmentRule.compile strict name definition).result = .ok rule →
      rule.CompiledFrom name definition) ∧
    ∀ t set, (ofText strict t).result = .ok set → ∀ records, set.EvaluatesOn records :=
  ⟨fun _ _ _ h => AttachmentRule.compiledFrom_of_compile h,
    fun _ _ h => (evaluable_of_ofLines h).evaluatesOn (wellFormed_of_ofLines h)⟩

/-- A definition in which a key comes twice, and a text with a rule of each kind and a bad line. -/
theorem compiled_and_evaluated_of_repeatedKey :
    (∃ rule, (AttachmentRule.compile true "R".toList
        "name =~ /^a/i ext != \"b c\" name !~ m\x7bz\x7d".toList).result = .ok rule ∧
      rule.clauses.length = 2 ∧
      rule.CompiledFrom "R".toList "name =~ /^a/i ext != \"b c\" name !~ m\x7bz\x7d".toList) ∧
    ∃ set, (ofText true ("attachment A type =~ /html/\nattachment B size == 1\n" ++
        "body C eval:check_attachment_count(1, 3)").toList).result = .ok set ∧
      set.size = 2 ∧ ∀ records, set.EvaluatesOn records := by
  have hr : (AttachmentRule.compile true "R".toList
      "name =~ /^a/i ext != \"b c\" name !~ m\x7bz\x7d".toList).result.toOption.map
        (·.clauses.length) = some 2 := by
    decide +kernel
  have hs : (ofText true ("attachment A type =~ /html/\nattachment B size == 1\n" ++
      "body C eval:check_attachment_count(1, 3)").toList).result.toOption.map (·.size) =
        some 2 := by
    decide +kernel
  constructor
  · cases hc : (AttachmentRule.compile true "R".toList
        "name =~ /^a/i ext != \"b c\" name !~ m\x7bz\x7d".toList).result with
    | error fault => rw [hc] at hr; cases hr
    | ok rule =>
      rw [hc] at hr
      exact ⟨rule, rfl, Option.some.inj hr, (compiled_and_evaluated true).1 _ _ rule hc⟩
  · cases hc : (ofText true ("attachment A type =~ /html/\nattachment B size == 1\n" ++
        "body C eval:check_attachment_count(1, 3)").toList).result with
    | error fault => rw [hc] at hs; cases hs
    | ok set =>
      rw [hc] at hs
      exact ⟨set, rfl, Option.some.inj hs, (compiled_and_evaluated true).2 _ set hc⟩

end RuleSet
end MailScreen
