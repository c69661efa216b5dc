import MailScreen.Proofs.Rule.Evaluation

/-!
# Rules that cannot be evaluated

Rules that are put together by hand may ask for a comparison that is not supported. Evaluation fails
where it gets to such a clause, and only there: a clause before it that a record does not satisfy
keeps evaluation from it, and so does a record before that satisfies the whole rule. What one record
comes to is told by `AttachmentRule.RecordOutcome`, and what all records come to by the one that
counts, the first that satisfies the rule or on which it fails (`AttachmentRule.RecordsOutcome`).

**A rule that fails does so for itself alone** (`RuleSet.evaluatesInOrder_and_isolates`). In a set
it counts as one that does not hold, like a check that is not known, and every other rule has the
value that it has by itself.
-/
namespace MailScreen

/-- The symbol of a comparison that is not supported. -/
def Operator.unsupported? : Operator → Option Text
  | .unsupported symbol => some symbol
  | _ => none

/-- A clause that looks for no text as if it were a pattern: its comparison can be made, or is not
supported. -/
def Clause.IsComparable (clause : Clause) : Prop :=
  clause.WellTyped ∨ ∃ symbol, clause.operator = .unsupported symbol

/-- Some element of a list has the first property, and no element before it has the second one. -/
def SomeBefore {α : Type} (p q : α → Prop) (items : List α) : Prop :=
  ∃ before item after, items = before ++ item :: after ∧ p item ∧ ∀ other ∈ before, ¬ q other

namespace AttachmentRule

/-- A record that satisfies all of some clauses. -/
def SatisfiesAll (record : AttachmentRecord) (clauses : List Clause) : Prop :=
  ∀ clause ∈ clauses, clause.isSatisfiedBy (clause.target.valueIn record) = true

/-- The symbol of the first clause whose comparison is not supported. -/
def firstUnsupported? (clauses : List Clause) : Option Text :=
  clauses.findSome? fun clause => clause.operator.unsupported?

/-- The clauses before the first one whose comparison is not supported. -/
def supportedStart (clauses : List Clause) : List Clause :=
  clauses.takeWhile fun clause => clause.operator.unsupported?.isNone

/-- A record on which clauses cannot be evaluated: there is one whose comparison is not supported,
and the record satisfies all clauses before the first one of this kind. -/
structure FaultsOn (record : AttachmentRecord) (clauses : List Clause) : Prop where
  /-- There is a clause whose comparison is not supported. -/
  unsupported : (firstUnsupported? clauses).isSome = true
  /-- The record satisfies the clauses before it. -/
  reached : SatisfiesAll record (supportedStart clauses)

/-- What the clauses of a rule come to on one record. -/
inductive RecordOutcome (record : AttachmentRecord) (clauses : List Clause) :
    Except EvaluationFault Bool → Prop where
  | met (h : SatisfiesAll record clauses) : RecordOutcome record clauses (.ok true)
  | faulted (symbol : Text) (hs : firstUnsupported? clauses = some symbol)
    (h : FaultsOn record clauses) :
    RecordOutcome record clauses (.error (.unsupportedOperator symbol))
  | failed (hm : ¬ SatisfiesAll record clauses) (hf : ¬ FaultsOn record clauses) :
    RecordOutcome record clauses (.ok false)

/-- A record satisfies a rule, and there is none before it on which the rule cannot be evaluated. -/
def MetAmong (rule : AttachmentRule) (records : List AttachmentRecord) : Prop :=
  SomeBefore (SatisfiesAll · rule.clauses) (FaultsOn · rule.clauses) records

/-- A rule cannot be evaluated on a record, and there is none before it that satisfies the rule. -/
def FaultsAmong (rule : AttachmentRule) (records : List AttachmentRecord) : Prop :=
  SomeBefore (FaultsOn · rule.clauses) (SatisfiesAll · rule.clauses) records

/-- What a rule comes to on records. -/
inductive RecordsOutcome (rule : AttachmentRule) (records : List AttachmentRecord) :
    Except EvaluationFault Bool → Prop where
  | met (h : rule.MetAmong records) : RecordsOutcome rule records (.ok true)
  | faulted (symbol : Text) (hs : firstUnsupported? rule.clauses = some symbol)
    (h : rule.FaultsAmong records) :
    RecordsOutcome rule records (.error (.unsupportedOperator symbol))
  | failed (hm : ¬ rule.MetAmong records) (hf : ¬ rule.FaultsAmong records) :
    RecordsOutcome rule records (.ok false)

/-- **A rule is evaluated record by record and clause by clause, until one record settles it.** -/
structure EvaluatesInOrder (rule : AttachmentRule) (records : List AttachmentRecord) : Prop where
  /-- When the rule holds. -/
  holds_iff : (rule.evaluate records).result = .ok true ↔ rule.MetAmong records
  /-- When evaluation fails, and that it then names the first comparison that is not supported. -/
  error_iff : ∀ fault, (rule.evaluate records).result = .error fault ↔
    rule.FaultsAmong records ∧
      (firstUnsupported? rule.clauses).map .unsupportedOperator = some fault
  /-- When evaluation fails, whatever it then says. -/
  fails_iff : (∃ fault, (rule.evaluate records).result = .error fault) ↔ rule.FaultsAmong records
  /-- The rule does not hold otherwise. -/
  otherwise : (rule.evaluate records).result = .ok false ↔
    ¬ rule.MetAmong records ∧ ¬ rule.FaultsAmong records

end AttachmentRule

/-- **Results in which a rule that cannot be evaluated touches no other rule.** -/
structure RuleSet.IsolatesIn (set : RuleSet) (records : List AttachmentRecord)
    (results : Table Bool) : Prop where
  /-- There is a result for each rule and no other. -/
  names_eq : results.names = set.names
  /-- An attachment rule that can be evaluated has the value that it has by itself. -/
  rule : ∀ entry ∈ set.attachmentRules, ¬ entry.2.FaultsAmong records →
    ∃ held, (entry.2.evaluate records).result = .ok held ∧ results.find? entry.1 = some held
  /-- An attachment rule that cannot be evaluated does not hold. -/
  faultyRule : ∀ entry ∈ set.attachmentRules, entry.2.FaultsAmong records →
    results.find? entry.1 = some false
  /-- A check that is known has the value that it has by itself. -/
  check : ∀ entry ∈ set.checkRules, entry.2.check.IsKnown →
    ∃ held, entry.2.check.evaluate records = .ok held ∧ results.find? entry.1 = some held
  /-- A check that is not known does not hold. -/
  unknownCheck : ∀ entry ∈ set.checkRules, ¬ entry.2.check.IsKnown →
    results.find? entry.1 = some false

/-! ## The first element that counts -/

section

variable {α : Type} {p q : α → Prop} {item : α} {rest : List α}

theorem not_someBefore_nil : ¬ SomeBefore p q [] := by
  rintro ⟨before, item, after, h, -, -⟩
  simp at h

theorem someBefore_cons :
    SomeBefore p q (item :: rest) ↔ p item ∨ ¬ q item ∧ SomeBefore p q rest := by
  constructor
  · rintro ⟨before, found, after, h, hp, hq⟩
    cases before with
    | nil =>
      obtain ⟨rfl, -⟩ := List.cons.inj h
      exact .inl hp
    | cons other before =>
      obtain ⟨rfl, rfl⟩ := List.cons.inj h
      rw [List.forall_mem_cons] at hq
      exact .inr ⟨hq.1, before, found, after, rfl, hp, hq.2⟩
  · rintro (hp | ⟨hq, before, found, after, rfl, hp, hb⟩)
    · exact ⟨[], item, rest, rfl, hp, by simp⟩
    · exact ⟨item :: before, found, after, rfl, hp, List.forall_mem_cons.mpr ⟨hq, hb⟩⟩

/-- Of two properties that exclude each other at most one is that of the first element that has
either. -/
theorem SomeBefore.not_swap (hd : ∀ a, p a → ¬ q a) {items : List α} (h : SomeBefore p q items) :
    ¬ SomeBefore q p items := by
  induction items with
  | nil => exact absurd h not_someBefore_nil
  | cons item rest ih =>
    rw [someBefore_cons] at h
    rw [someBefore_cons]
    rintro (hq | ⟨hp, hr⟩)
    · rcases h with hp | ⟨hn, -⟩
      · exact hd item hp hq
      · exact hn hq
    · rcases h with hp' | ⟨-, h⟩
      · exact hp hp'
      · exact ih h hr

end

/-! ## One record -/

theorem Operator.eq_of_unsupported? {operator : Operator} {symbol : Text}
    (h : operator.unsupported? = some symbol) : operator = .unsupported symbol := by
  cases operator with
  | unsupported other => rw [Option.some.inj h]
  | _ => cases h

theorem Clause.isSatisfiedBy_unsupported {clause : Clause} {symbol : Text}
    (h : clause.operator = .unsupported symbol) (value : Text) :
    clause.isSatisfiedBy value = false := by
  unfold Clause.isSatisfiedBy
  rw [h]

namespace AttachmentRule

variable {record : AttachmentRecord} {clause : Clause} {rest clauses : List Clause}

theorem satisfiesAll_cons : SatisfiesAll record (clause :: rest) ↔
    clause.isSatisfiedBy (clause.target.valueIn record) = true ∧ SatisfiesAll record rest :=
  List.forall_mem_cons

/-- A comparison that is not supported is the first one if it stands first. -/
theorem faultsOn_cons_of_unsupported {symbol : Text}
    (h : clause.operator.unsupported? = some symbol) : FaultsOn record (clause :: rest) := by
  refine ⟨?_, ?_⟩
  · rw [firstUnsupported?, List.findSome?_cons, h]
    rfl
  · rw [supportedStart, List.takeWhile_cons_of_neg (by simp [h])]
    exact List.forall_mem_nil _

theorem firstUnsupported?_cons (h : clause.operator.unsupported? = none) :
    firstUnsupported? (clause :: rest) = firstUnsupported? rest := by
  rw [firstUnsupported?, List.findSome?_cons, h]
  rfl

/-- A record gets past a clause that can be evaluated if it satisfies it. -/
theorem faultsOn_cons (h : clause.operator.unsupported? = none) :
    FaultsOn record (clause :: rest) ↔
      clause.isSatisfiedBy (clause.target.valueIn record) = true ∧ FaultsOn record rest := by
  have hs : supportedStart (clause :: rest) = clause :: supportedStart rest :=
    List.takeWhile_cons_of_pos (by simp [h])
  constructor
  · intro hf
    have hr := hf.reached
    rw [hs, satisfiesAll_cons] at hr
    exact ⟨hr.1, by rw [← firstUnsupported?_cons h]; exact hf.unsupported, hr.2⟩
  · rintro ⟨hv, hf⟩
    refine ⟨by rw [firstUnsupported?_cons h]; exact hf.unsupported, ?_⟩
    rw [hs, satisfiesAll_cons]
    exact ⟨hv, hf.reached⟩

/-- No record satisfies a rule on which it fails. -/
theorem FaultsOn.not_satisfiesAll (h : FaultsOn record clauses) :
    ¬ SatisfiesAll record clauses := by
  intro hm
  obtain ⟨symbol, hs⟩ := Option.isSome_iff_exists.mp h.unsupported
  obtain ⟨clause, hc, hu⟩ := List.exists_of_findSome?_eq_some hs
  have hv := hm clause hc
  rw [Clause.isSatisfiedBy_unsupported (Operator.eq_of_unsupported? hu)] at hv
  cases hv

/-- **What clauses come to on one record.** -/
theorem clausesHold_outcome (record : AttachmentRecord)
    (hc : ∀ clause ∈ clauses, clause.IsComparable) :
    RecordOutcome record clauses (clausesHold record clauses).result := by
  induction clauses with
  | nil => exact .met (List.forall_mem_nil _)
  | cons clause rest ih =>
    rw [List.forall_mem_cons] at hc
    rw [clausesHold, Noted.result_bind, Noted.result_ofExcept]
    cases hu : clause.operator.unsupported? with
    | some symbol =>
      have hv : ∀ value, clause.holdsOf value = .error (.unsupportedOperator symbol) := by
        intro value
        unfold Clause.holdsOf
        rw [Operator.eq_of_unsupported? hu]
      rw [hv]
      refine .faulted symbol ?_ (faultsOn_cons_of_unsupported hu)
      rw [firstUnsupported?, List.findSome?_cons, hu]
    | none =>
      have hw : clause.WellTyped := by
        refine hc.1.resolve_right ?_
        rintro ⟨symbol, hs⟩
        rw [hs] at hu
        cases hu
      rw [Clause.holdsOf_eq hw]
      cases hv : clause.isSatisfiedBy (clause.target.valueIn record) with
      | false =>
        refine .failed ?_ ?_
        · rw [satisfiesAll_cons, hv]
          exact fun h => Bool.false_ne_true h.1
        · rw [faultsOn_cons hu, hv]
          exact fun h => Bool.false_ne_true h.1
      | true =>
        show RecordOutcome record (clause :: rest) (Noted.result (if _ then _ else _))
        rw [if_pos rfl, Noted.result_bind]
        show RecordOutcome record (clause :: rest) (clausesHold record rest).result
        -- what the rest comes to is what all comes to
        have ho := ih hc.2
        generalize (clausesHold record rest).result = result at ho ⊢
        cases ho with
        | met h => exact .met (satisfiesAll_cons.mpr ⟨hv, h⟩)
        | faulted symbol hs h =>
          exact .faulted symbol (by rw [firstUnsupported?_cons hu, hs])
            ((faultsOn_cons hu).mpr ⟨hv, h⟩)
        | failed hm hf =>
          exact .failed (fun h => hm (satisfiesAll_cons.mp h).2)
            (fun h => hf ((faultsOn_cons hu).mp h).2)

/-! ## All records -/

variable {rule : AttachmentRule}

/-- **What a rule comes to on records**: what it comes to on the first one that settles it. -/
theorem holdsOfSome_outcome (hc : ∀ clause ∈ rule.clauses, clause.IsComparable)
    (records : List AttachmentRecord) :
    RecordsOutcome rule records (rule.holdsOfSome records).result := by
  induction records with
  | nil => exact .failed not_someBefore_nil not_someBefore_nil
  | cons record rest ih =>
    have ho := clausesHold_outcome record hc
    rw [holdsOfSome, Noted.result_bind]
    generalize (clausesHold record rule.clauses).result = result at ho ⊢
    cases ho with
    | met h => exact .met (someBefore_cons.mpr (.inl h))
    | faulted symbol hs h => exact .faulted symbol hs (someBefore_cons.mpr (.inl h))
    | failed hm hf =>
      have hmet : rule.MetAmong (record :: rest) ↔ rule.MetAmong rest := by
        rw [MetAmong, someBefore_cons, or_iff_right hm, and_iff_right hf]
        rfl
      have hfault : rule.FaultsAmong (record :: rest) ↔ rule.FaultsAmong rest := by
        rw [FaultsAmong, someBefore_cons, or_iff_right hf, and_iff_right hm]
        rfl
      show RecordsOutcome rule (record :: rest) (rule.holdsOfSome rest).result
      generalize (rule.holdsOfSome rest).result = result at ih ⊢
      cases ih with
      | met h => exact .met (hmet.mpr h)
      | faulted symbol hs h => exact .faulted symbol hs (hfault.mpr h)
      | failed hm hf => exact .failed (mt hmet.mp hm) (mt hfault.mp hf)

theorem FaultsAmong.not_metAmong {records : List AttachmentRecord}
    (h : rule.FaultsAmong records) : ¬ rule.MetAmong records :=
  SomeBefore.not_swap (fun _ hf => hf.not_satisfiesAll) h

theorem evaluate_outcome (hc : ∀ clause ∈ rule.clauses, clause.IsComparable)
    (records : List AttachmentRecord) :
    RecordsOutcome rule records (rule.evaluate records).result := by
  rw [evaluate, Noted.result_bind]
  exact holdsOfSome_outcome hc records

/-- The three outcomes exclude each other, so each is told by its condition. -/
theorem evaluatesInOrder (hc : ∀ clause ∈ rule.clauses, clause.IsComparable)
    (records : List AttachmentRecord) : rule.EvaluatesInOrder records := by
  have ho := evaluate_outcome hc records
  generalize hr : (rule.evaluate records).result = result at ho
  cases ho with
  | met h =>
    have hf : ¬ rule.FaultsAmong records := fun hf => hf.not_metAmong h
    constructor <;> simp [hr, h, hf]
  | faulted symbol hs h =>
    have hm := h.not_metAmong
    constructor <;> simp [hr, hs, h, hm]
  | failed hm hf => constructor <;> simp [hr, hm, hf]

/-- A fault in such a rule is one that rules are passed over for. -/
theorem EvaluatesInOrder.isExpected {records : List AttachmentRecord}
    (h : rule.EvaluatesInOrder records) {fault : EvaluationFault}
    (he : (rule.evaluate records).result = .error fault) : fault.isExpected = true := by
  have hs := ((h.error_iff _).mp he).2
  obtain ⟨symbol, -, rfl⟩ := Option.map_eq_some_iff.mp hs
  rfl

end AttachmentRule

/-! ## All rules -/

namespace RuleSet

theorem isolatesIn_of_comparable {set : RuleSet} {records : List AttachmentRecord}
    (hn : set.names.Nodup)
    (hc : ∀ entry ∈ set.attachmentRules, ∀ clause ∈ entry.2.clauses, clause.IsComparable)
    (hf : ∀ entry ∈ set.checkRules, entry.2.check.ArgumentsFit) :
    ∃ results, (set.evaluate records).result = .ok results ∧ set.IsolatesIn records results := by
  have ho : ∀ entry ∈ set.attachmentRules, entry.2.EvaluatesInOrder records :=
    fun entry hm => AttachmentRule.evaluatesInOrder (hc entry hm) records
  have hrule (entry) (hm : entry ∈ set.attachmentRules) := find?_valuesBy_rule
    (fun rule => valueOrFalse (rule.evaluate records).result)
    (fun rule => valueOrFalse (rule.check.evaluate records)) hn hm
  have hcheck (entry) (hm : entry ∈ set.checkRules) := find?_valuesBy_check
    (fun rule => valueOrFalse (rule.evaluate records).result)
    (fun rule => valueOrFalse (rule.check.evaluate records)) hn hm
  refine ⟨_, evaluate_result_eq hn (fun entry hm _ he => (ho entry hm).isExpected he) hf,
    names_valuesBy _ _ set, ?_, ?_, ?_, ?_⟩
  · intro entry hm hfaults
    cases he : (entry.2.evaluate records).result with
    | error fault => exact absurd ((ho entry hm).fails_iff.mp ⟨fault, he⟩) hfaults
    | ok held => exact ⟨held, rfl, by rw [hrule entry hm, he, valueOrFalse]⟩
  · intro entry hm hfaults
    obtain ⟨fault, he⟩ := (ho entry hm).fails_iff.mpr hfaults
    rw [hrule entry hm, he, valueOrFalse]
  · intro entry hm hk
    rw [hcheck entry hm, Check.evaluate_eq hk (hf entry hm)]
    exact ⟨_, rfl, rfl⟩
  · intro entry hm hk
    rw [hcheck entry hm, Check.evaluate_of_not_isKnown hk, valueOrFalse]

/-- **A rule is evaluated in order, and its faults are its own.** Every rule that looks for no text
as if it were a pattern holds, fails to be evaluated, or does not hold by what comes first among the
records; and every set of such rules and of any checks, no two of one name and those of a number
asked with two arguments, has results, in which faulty rules and checks that are not known do not
hold and all others have the values that they have by themselves. -/
theorem evaluatesInOrder_and_isolates (records : List AttachmentRecord) :
    (∀ rule : AttachmentRule, (∀ clause ∈ rule.clauses, clause.IsComparable) →
      rule.EvaluatesInOrder records) ∧
    ∀ set : RuleSet, set.names.Nodup →
      (∀ entry ∈ set.attachmentRules, ∀ clause ∈ entry.2.clauses, clause.IsComparable) →
      (∀ entry ∈ set.checkRules, entry.2.check.ArgumentsFit) →
      ∃ results, (set.evaluate records).result = .ok results ∧ set.IsolatesIn records results :=
  ⟨fun _ hc => AttachmentRule.evaluatesInOrder hc records,
    fun _ hn hc hf => isolatesIn_of_comparable hn hc hf⟩

/-- A rule set with a rule that compares in a way that is not supported, but not before it has asked
for an extension, with a rule that asks for the extension only, with a check that is not known and
with one that is. -/
def sampleOfFaults : RuleSet where
  attachmentRules := [
    ("F".toList, ⟨"F".toList, [
      ⟨.extension, .equal, .literal "exe".toList, []⟩,
      ⟨.name, .unsupported "<".toList, .literal "b".toList, []⟩]⟩),
    ("G".toList, ⟨"G".toList, [⟨.extension, .equal, .literal "exe".toList, []⟩]⟩)]
  checkRules := [("U".toList, ⟨"U".toList, ⟨"size".toList, []⟩⟩),
    ("N".toList, ⟨"N".toList, .count 1 2⟩)]

/-- A record that keeps evaluation from the comparison, and one after it that does not. -/
def recordsOfFaults : List AttachmentRecord :=
  [{ extension := "txt".toList }, { extension := "exe".toList }]

theorem evaluatesInOrder_and_isolates_of_sample :
    (∀ entry ∈ sampleOfFaults.attachmentRules, entry.2.EvaluatesInOrder recordsOfFaults) ∧
    (sampleOfFaults.evaluate recordsOfFaults).result =
      .ok [("F".toList, false), ("G".toList, true), ("U".toList, false), ("N".toList, true)] ∧
    ∃ results, (sampleOfFaults.evaluate recordsOfFaults).result = .ok results ∧
      sampleOfFaults.IsolatesIn recordsOfFaults results := by
  have hc : ∀ entry ∈ sampleOfFaults.attachmentRules, ∀ clause ∈ entry.2.clauses,
      clause.IsComparable := by
    have hw : Clause.WellTyped ⟨.extension, .equal, .literal "exe".toList, []⟩ :=
      ⟨by simp, by simp⟩
    have hu : Clause.IsComparable ⟨.name, .unsupported "<".toList, .literal "b".toList, []⟩ :=
      .inr ⟨_, rfl⟩
    intro entry hm
    rcases List.mem_cons.mp hm with rfl | hm
    · exact List.forall_mem_cons.mpr ⟨.inl hw, List.forall_mem_singleton.mpr hu⟩
    · obtain rfl := List.mem_singleton.mp hm
      exact List.forall_mem_singleton.mpr (.inl hw)
  exact ⟨fun entry hm => (evaluatesInOrder_and_isolates _).1 entry.2 (hc entry hm),
    by decide +kernel, (evaluatesInOrder_and_isolates _).2 _ (by decide +kernel) hc (by decide)⟩

end RuleSet
end MailScreen
