import Mathlib.Data.List.Nodup
import Mathlib.Data.List.Pairwise
import Mathlib.Data.List.TakeWhile
import MailScreen.Proofs.Rule.Uncompilable

/-!
# What a definition is compiled to

A definition that compiles gives a rule that can be relied on (`AttachmentRule.CompiledFrom`): it
has clauses, each on a target of its own, each with a pattern exactly if its operator looks for one,
and the clauses stand in the definition in their order, none of them in another one. Of the clauses
that are read, those are kept that are the last on their targets (`AttachmentRule.KeepsLast`).

Compiling is inverted once (`AttachmentRule.compile_eq_ok_iff`); the rest is about the two things it
is made of. The clauses come from the cut of the definition, whose text is the definition, so their
sources are found in it. The clauses that are replaced are dropped from the back, and every clause
that is kept has none on its target after it.
-/
namespace MailScreen

/-- Pieces that stand in a text one after the other, whatever is between them. -/
inductive Text.InOrder : List Text → Text → Prop where
  | nil (t : Text) : InOrder [] t
  | cons {pieces : List Text} {rest : Text} (gap piece : Text) (h : InOrder pieces rest) :
    InOrder (piece :: pieces) (gap ++ piece ++ rest)

/-- A clause whose comparison can be made. -/
structure Clause.WellTyped (clause : Clause) : Prop where
  /-- The comparison is one of the four. -/
  supported : ∀ symbol, clause.operator ≠ .unsupported symbol
  /-- There is a pattern exactly if the comparison looks for one. -/
  pattern_iff : (∃ compiled, clause.operand = .pattern compiled) ↔
    clause.operator = .matching ∨ clause.operator = .notMatching

namespace AttachmentRule

/-- Whether the clause at a place is the last one on its target. -/
def IsLastAt (clauses : List Clause) (place : Nat) : Prop :=
  ∃ clause, clauses[place]? = some clause ∧ ∀ later other, place < later →
    clauses[later]? = some other → other.target ≠ clause.target

/-- What is left of clauses if of those on one target the last one counts. -/
structure KeepsLast (clauses kept : List Clause) : Prop where
  /-- What is left stands where a target comes for the last time, and in this order. -/
  places : ∃ places : List Nat, places.Pairwise (· < ·) ∧
    (∀ place, place ∈ places ↔ IsLastAt clauses place) ∧
    places.map (clauses[·]?) = kept.map some
  /-- Of the clauses on a target the last one is left and no other. -/
  survivor : ∀ target, kept.filter (·.target == target) =
    (clauses.filter (·.target == target)).getLast?.toList

/-- **A rule that is compiled from a definition.** -/
structure CompiledFrom (rule : AttachmentRule) (name definition : Text) : Prop where
  /-- The rule has the name that it is compiled under. -/
  name_eq : rule.name = name
  /-- It has a clause. -/
  nonempty : rule.clauses ≠ []
  /-- Its clauses are on different targets. -/
  distinct : (rule.clauses.map (·.target)).Nodup
  /-- A clause has a pattern exactly if its operator looks for one. -/
  wellTyped : ∀ clause ∈ rule.clauses, clause.WellTyped
  /-- The clauses stand in the definition in their order, none of them in another one. -/
  inOrder : Text.InOrder (rule.clauses.map (·.source)) definition
  /-- Of the clauses that are read on one target the last one is kept. -/
  keepsLast : ∃ clauses,
    List.Forall₂ (fun written clause => compileClause name written = .ok clause)
      ((Cut.ofText definition).clauses.map (·.2)) clauses ∧ KeepsLast clauses rule.clauses

end AttachmentRule

/-! ## Pieces in order -/

namespace Text.InOrder

variable {pieces fewer : List Text} {t : Text}

/-- What stands before a text does not matter. -/
theorem prepend (h : InOrder pieces t) (before : Text) : InOrder pieces (before ++ t) := by
  cases h with
  | nil => exact .nil _
  | cons gap piece h =>
    have hc := InOrder.cons (before ++ gap) piece h
    rwa [List.append_assoc before, List.append_assoc before] at hc

/-- Pieces may be left out. -/
theorem sublist (h : InOrder pieces t) (hs : fewer.Sublist pieces) : InOrder fewer t := by
  induction h generalizing fewer with
  | nil t =>
    obtain rfl := List.sublist_nil.mp hs
    exact .nil t
  | cons gap piece _ ih =>
    cases hs with
    | cons _ hs => exact (ih hs).prepend _
    | cons_cons _ hs => exact .cons gap piece (ih hs)

end Text.InOrder

namespace Cut

/-- The clauses of a cut stand in its text in order. -/
theorem inOrder (cut : Cut) : Text.InOrder (cut.clauses.map (·.2.text)) cut.text := by
  obtain ⟨clauses, last⟩ := cut
  induction clauses with
  | nil => exact .nil _
  | cons first rest ih =>
    have hc := Text.InOrder.cons first.1 first.2.text ih
    rw [List.map_cons, text, List.flatMap_cons, List.append_assoc]
    exact hc

end Cut

/-! ## Clauses -/

namespace WrittenClause

/-- **A clause that has been read**, with what is left after it. -/
structure IsRead (clause : WrittenClause) (rest : Text) : Prop where
  /-- It has one of the four operators. -/
  isOperator : isOperator clause.operator.1 clause.operator.2 = true
  /-- Only blanks stand before the operator. -/
  before_blank : ∀ c ∈ clause.before, isBlank c = true
  /-- Only blanks stand after it. -/
  after_blank : ∀ c ∈ clause.after, isBlank c = true
  /-- The value has been read where the blanks end. -/
  takesValue : ∃ t, takeValue? t = some (clause.value, rest) ∧ ∀ c ∈ t.head?, isBlank c = false

theorem isRead_of_take? {t rest : Text} {clause : WrittenClause}
    (h : take? t = some (clause, rest)) : clause.IsRead rest := by
  unfold take? at h
  split at h
  · cases h
  · split at h
    · simp only at h
      split at h
      · rename_i first second r hr
        split at h
        · rename_i hop
          obtain ⟨⟨value, left⟩, hv, he⟩ := Option.map_eq_some_iff.mp h
          obtain ⟨rfl, rfl⟩ := Prod.mk.inj he
          refine ⟨hop, fun c hm => List.mem_takeWhile_imp hm, fun c hm => List.mem_takeWhile_imp hm,
            r.dropWhile isBlank, hv, fun c hm => ?_⟩
          have hd := List.head?_dropWhile_not isBlank r
          rw [Option.mem_def.mp hm] at hd
          simpa using hd
        · cases h
      · cases h
    · cases h

end WrittenClause

/-- Every clause of a cut has been read from somewhere in the text. -/
theorem Cut.exists_take?_of_mem_after {inWord : Bool} {gap t : Text} :
    ∀ entry ∈ (Cut.after inWord gap t).clauses,
      ∃ s rest, WrittenClause.take? s = some (entry.2, rest) := by
  fun_induction Cut.after inWord gap t with
  | case1 => simp
  | case2 inWord gap c rest clause left h cut ih =>
    have ht : WrittenClause.take? (c :: rest) = some (clause, left) := by
      split at h
      · cases h
      · exact h
    exact List.forall_mem_cons.mpr ⟨⟨_, _, ht⟩, ih⟩
  | case3 inWord gap c rest h ih => exact ih

theorem Cut.isRead_of_mem_after {inWord : Bool} {gap t : Text} :
    ∀ entry ∈ (Cut.after inWord gap t).clauses, ∃ rest, entry.2.IsRead rest := by
  intro entry hm
  obtain ⟨s, rest, ht⟩ := Cut.exists_take?_of_mem_after entry hm
  exact ⟨rest, WrittenClause.isRead_of_take? ht⟩

theorem Cut.isOperator_of_mem_after {inWord : Bool} {gap t : Text} :
    ∀ entry ∈ (Cut.after inWord gap t).clauses,
      WrittenClause.isOperator entry.2.operator.1 entry.2.operator.2 = true := by
  intro entry hm
  obtain ⟨rest, hr⟩ := Cut.isRead_of_mem_after entry hm
  exact hr.isOperator

/-- What a key stands for has that key. -/
theorem Target.key_of_ofKey? {t : Text} {target : Target} (h : ofKey? t = some target) :
    target.key.toList = t := by
  have hf := List.find?_some h
  exact beq_iff_eq.mp hf

namespace Operator

/-- What is read as an operator is one that is supported. -/
theorem ofSymbol_ne_unsupported {first second : Char}
    (h : WrittenClause.isOperator first second = true) (symbol : Text) :
    ofSymbol [first, second] ≠ unsupported symbol := by
  simp only [WrittenClause.isOperator, Bool.and_eq_true, Bool.or_eq_true, beq_iff_eq] at h
  obtain ⟨rfl | rfl, rfl | rfl⟩ := h <;> exact fun he => nomatch he

/-- An operator is written as its symbol. -/
theorem symbol_ofSymbol (t : Text) : (ofSymbol t).symbol = t := by
  grind [ofSymbol, Operator.symbol]

theorem takesPattern_iff (operator : Operator) :
    operator.takesPattern = true ↔ operator = matching ∨ operator = notMatching := by
  cases operator <;> simp [takesPattern]

end Operator

namespace AttachmentRule

/-- What an operator is compiled with: a pattern exactly if it takes one. -/
theorem isPattern_iff_of_compileOperand {rule : Text} {operator : Operator} {value : WrittenValue}
    {operand : Operand} (h : compileOperand rule operator value = .ok operand) :
    (∃ compiled, operand = .pattern compiled) ↔ operator.takesPattern = true := by
  unfold compileOperand at h
  by_cases ht : operator.takesPattern = true
  · rw [if_pos ht] at h
    obtain ⟨compiled, -, rfl⟩ := map_eq_ok_iff.mp h
    exact ⟨fun _ => ht, fun _ => ⟨compiled, rfl⟩⟩
  · rw [if_neg ht] at h
    obtain rfl := Except.ok.inj h
    constructor
    · rintro ⟨compiled, hc⟩
      cases hc
    · exact fun hp => absurd hp ht

/-- A pattern compiles if the value stands for one and its text does. -/
theorem compilePattern_eq_ok_iff {rule : Text} {value : WrittenValue}
    {compiled : CompiledPattern} :
    compilePattern rule value = .ok compiled ↔ ∃ body options,
      value.pattern? = some (body, options) ∧
        CompiledPattern.ofText options body = .ok compiled := by
  unfold compilePattern
  cases hp : value.pattern? with
  | none =>
    constructor
    · intro h
      cases h
    · rintro ⟨_, _, h, -⟩
      cases h
  | some found =>
    obtain ⟨body, options⟩ := found
    simp only [Option.some.injEq, Prod.mk.injEq]
    constructor
    · intro h
      refine ⟨body, options, ⟨rfl, rfl⟩, ?_⟩
      split at h
      · rename_i hc
        rw [hc, Except.ok.inj h]
      · cases h
      · cases h
    · rintro ⟨_, _, ⟨rfl, rfl⟩, hc⟩
      rw [hc]

/-- A pattern is malformed if the value stands for none or its text is. -/
theorem compilePattern_eq_malformed_iff {rule : Text} {value : WrittenValue} :
    (∃ error, compilePattern rule value = .error (.malformed error)) ↔
      value.pattern? = none ∨ ∃ body options problem place,
        value.pattern? = some (body, options) ∧
          CompiledPattern.ofText options body = .error (.malformed problem place) := by
  unfold compilePattern
  cases hp : value.pattern? with
  | none => exact ⟨fun _ => .inl rfl, fun _ => ⟨_, rfl⟩⟩
  | some found =>
    obtain ⟨body, options⟩ := found
    simp only [Option.some.injEq, Prod.mk.injEq, reduceCtorEq, false_or]
    constructor
    · rintro ⟨error, h⟩
      refine ⟨body, options, ?_⟩
      split at h
      · cases h
      · rename_i problem place hc
        exact ⟨problem, place, ⟨rfl, rfl⟩, hc⟩
      · cases h
    · rintro ⟨_, _, problem, place, ⟨rfl, rfl⟩, hc⟩
      rw [hc]
      exact ⟨_, rfl⟩

/-- What a clause is compiled to. -/
theorem compileClause_eq_ok {rule : Text} {written : WrittenClause} {clause : Clause}
    (h : compileClause rule written = .ok clause) :
    ∃ target operand, Target.ofKey? written.key = some target ∧
      compileOperand rule (Operator.ofSymbol [written.operator.1, written.operator.2])
        written.value = .ok operand ∧
      clause = ⟨target, Operator.ofSymbol [written.operator.1, written.operator.2], operand,
        written.text⟩ := by
  unfold compileClause at h
  cases hk : Target.ofKey? written.key with
  | none => rw [hk] at h; cases h
  | some target =>
    simp only [hk] at h
    cases ho : compileOperand rule (Operator.ofSymbol [written.operator.1, written.operator.2])
        written.value with
    | error fault => rw [ho] at h; cases h
    | ok operand =>
      rw [ho] at h
      exact ⟨target, operand, rfl, rfl, (Except.ok.inj h).symm⟩

theorem source_of_compileClause {rule : Text} {written : WrittenClause} {clause : Clause}
    (h : compileClause rule written = .ok clause) : clause.source = written.text := by
  obtain ⟨target, operand, -, -, rfl⟩ := compileClause_eq_ok h
  rfl

/-- **A clause that is read and compiled can be compared.** -/
theorem wellTyped_of_compileClause {rule : Text} {written : WrittenClause} {clause : Clause}
    (hop : WrittenClause.isOperator written.operator.1 written.operator.2 = true)
    (h : compileClause rule written = .ok clause) : clause.WellTyped := by
  obtain ⟨target, operand, -, ho, rfl⟩ := compileClause_eq_ok h
  exact ⟨Operator.ofSymbol_ne_unsupported hop,
    (isPattern_iff_of_compileOperand ho).trans (Operator.takesPattern_iff _)⟩

/-! ## The clauses that are kept -/

theorem lastClauses_sublist (clauses : List Clause) : (lastClauses clauses).Sublist clauses := by
  induction clauses with
  | nil => exact .slnil
  | cons clause rest ih =>
    rw [lastClauses]
    split
    · exact ih.cons clause
    · exact ih.cons_cons clause

/-- No clause that is kept has one on its target after it. -/
theorem nodup_target_lastClauses (clauses : List Clause) :
    ((lastClauses clauses).map (·.target)).Nodup := by
  induction clauses with
  | nil => exact List.nodup_nil
  | cons clause rest ih =>
    rw [lastClauses]
    split
    · exact ih
    · rename_i hn
      rw [List.map_cons, List.nodup_cons]
      refine ⟨?_, ih⟩
      intro hm
      obtain ⟨other, ho, he⟩ := List.mem_map.mp hm
      have hr := (lastClauses_sublist rest).subset ho
      exact hn (List.any_eq_true.mpr ⟨other, hr, by simpa using he⟩)

theorem isLastAt_succ (clause : Clause) (rest : List Clause) (place : Nat) :
    IsLastAt (clause :: rest) (place + 1) ↔ IsLastAt rest place := by
  unfold IsLastAt
  simp only [List.getElem?_cons_succ]
  refine exists_congr fun found => and_congr_right fun _ => ⟨fun h later other hl ho => ?_,
    fun h later other hl ho => ?_⟩
  · exact h (later + 1) other (Nat.succ_lt_succ hl) (by rwa [List.getElem?_cons_succ])
  · obtain ⟨before, rfl⟩ := Nat.exists_eq_succ_of_ne_zero (Nat.ne_of_gt (Nat.zero_lt_of_lt hl))
    exact h before other (Nat.lt_of_succ_lt_succ hl) (by rwa [List.getElem?_cons_succ] at ho)

theorem isLastAt_zero (clause : Clause) (rest : List Clause) :
    IsLastAt (clause :: rest) 0 ↔ rest.any (·.target == clause.target) = false := by
  rw [List.any_eq_false]
  constructor
  · rintro ⟨found, hf, h⟩ other hm he
    obtain rfl := Option.some.inj hf
    obtain ⟨i, hi⟩ := List.mem_iff_getElem?.mp hm
    exact h (i + 1) other (Nat.succ_pos i) (by rwa [List.getElem?_cons_succ]) (by simpa using he)
  · intro h
    refine ⟨clause, rfl, fun later other hl ho he => ?_⟩
    obtain ⟨before, rfl⟩ := Nat.exists_eq_succ_of_ne_zero (Nat.ne_of_gt hl)
    rw [List.getElem?_cons_succ] at ho
    exact h other (List.mem_of_getElem? ho) (by simpa using he)

/-- The places of the clauses that are kept. -/
theorem places_lastClauses (clauses : List Clause) :
    ∃ places : List Nat, places.Pairwise (· < ·) ∧
      (∀ place, place ∈ places ↔ IsLastAt clauses place) ∧
      places.map (clauses[·]?) = (lastClauses clauses).map some := by
  induction clauses with
  | nil => exact ⟨[], .nil, by simp [IsLastAt], rfl⟩
  | cons clause rest ih =>
    obtain ⟨places, hp, hm, he⟩ := ih
    have hshift : (places.map (· + 1)).Pairwise (· < ·) :=
      List.pairwise_map.mpr (hp.imp Nat.succ_lt_succ)
    have hmoved : (places.map (· + 1)).map ((clause :: rest)[·]?) =
        (lastClauses rest).map some := by
      rw [List.map_map, ← he]
      exact List.map_congr_left fun place _ => List.getElem?_cons_succ
    have hmem (place : Nat) : place + 1 ∈ places.map (· + 1) ↔
        IsLastAt (clause :: rest) (place + 1) := by
      rw [isLastAt_succ, ← hm]
      simp
    rw [lastClauses]
    by_cases ha : rest.any (·.target == clause.target) = true
    · rw [if_pos ha]
      refine ⟨places.map (· + 1), hshift, fun place => ?_, hmoved⟩
      cases place with
      | zero => simp [isLastAt_zero, ha]
      | succ place => exact hmem place
    · have hn := Bool.eq_false_iff.mpr ha
      rw [if_neg ha]
      refine ⟨0 :: places.map (· + 1), ?_, fun place => ?_, ?_⟩
      · exact List.pairwise_cons.mpr ⟨by simp, hshift⟩
      · cases place with
        | zero => simp [isLastAt_zero, hn]
        | succ place => rw [List.mem_cons, ← hmem place]; simp
      · rw [List.map_cons, List.map_cons, hmoved]
        rfl

/-- What is kept on a target is the last clause on it. -/
theorem filter_lastClauses (clauses : List Clause) (target : Target) :
    (lastClauses clauses).filter (·.target == target) =
      (clauses.filter (·.target == target)).getLast?.toList := by
  induction clauses with
  | nil => rfl
  | cons clause rest ih =>
    rw [lastClauses]
    by_cases ht : clause.target = target
    · have hpos : (clause.target == target) = true := by simpa using ht
      have hcons (tail : List Clause) : (clause :: tail).filter (·.target == target) =
          clause :: tail.filter (·.target == target) := List.filter_cons_of_pos hpos
      rw [hcons, List.getLast?_cons]
      split
      · -- a later clause on the target replaces this one
        rename_i ha
        rw [ih]
        obtain ⟨other, ho, he⟩ := List.any_eq_true.mp ha
        have hne : rest.filter (·.target == target) ≠ [] :=
          List.ne_nil_of_mem (List.mem_filter.mpr ⟨ho, by rw [← ht]; exact he⟩)
        rw [List.getLast?_eq_some_getLast hne]
        rfl
      · rename_i ha
        have hnil : rest.filter (·.target == target) = [] := by
          rw [List.filter_eq_nil_iff]
          intro other ho he
          exact ha (List.any_eq_true.mpr ⟨other, ho, by rw [ht]; exact he⟩)
        rw [hcons, ih, hnil]
        rfl
    · have hneg : ¬ (clause.target == target) = true := by simpa using ht
      have hcons (tail : List Clause) : (clause :: tail).filter (·.target == target) =
          tail.filter (·.target == target) := List.filter_cons_of_neg hneg
      rw [hcons]
      split
      · exact ih
      · rw [hcons, ih]

theorem keepsLast_lastClauses (clauses : List Clause) : KeepsLast clauses (lastClauses clauses) :=
  ⟨places_lastClauses clauses, filter_lastClauses clauses⟩

/-- Where there are clauses, one is kept. -/
theorem lastClauses_ne_nil {clauses : List Clause} (h : clauses ≠ []) :
    lastClauses clauses ≠ [] := by
  obtain ⟨clause, rest, rfl⟩ := List.exists_cons_of_ne_nil h
  intro hn
  have hf := filter_lastClauses (clause :: rest) clause.target
  rw [hn, List.filter_cons_of_pos (by simp), List.getLast?_cons] at hf
  cases hf

/-! ## Definitions -/

/-- **A definition compiles exactly if** its clauses compile, there is one, and a strict reader
finds nothing else in it. The rule has the clauses that are the last on their targets. -/
theorem compile_eq_ok_iff {strict : Bool} {name definition : Text} {rule : AttachmentRule} :
    (compile strict name definition).result = .ok rule ↔
      ∃ clauses, ((Cut.ofText definition).clauses.map (·.2)).mapM (compileClause name) =
          .ok clauses ∧ clauses ≠ [] ∧
        (strict = true → unrecognizedText (Cut.ofText definition) = []) ∧
        rule = ⟨name, lastClauses clauses⟩ := by
  rw [compile_result, bind_eq_ok_iff]
  refine exists_congr fun clauses => and_congr_right fun _ => ?_
  by_cases hn : clauses = []
  · rw [if_pos hn]
    exact ⟨(nomatch ·), fun h => absurd hn h.1⟩
  · rw [if_neg hn]
    by_cases hs : strict = true ∧ unrecognizedText (Cut.ofText definition) ≠ []
    · rw [if_pos hs]
      exact ⟨(nomatch ·), fun h => absurd (h.2.1 hs.1) hs.2⟩
    · rw [if_neg hs, Except.ok.injEq, eq_comm]
      rw [not_and, not_not] at hs
      exact ⟨fun h => ⟨hn, hs, h⟩, fun h => h.2.2⟩

/-- **A definition is found to be malformed exactly if** the first clause that fails is, or all
clauses compile and there is none, or a strict reader finds something else in it. -/
theorem compile_eq_malformed_iff {strict : Bool} {name definition : Text} :
    (∃ error, (compile strict name definition).result = .error (.malformed error)) ↔
      (∃ error, ((Cut.ofText definition).clauses.map (·.2)).mapM (compileClause name) =
          .error (.malformed error)) ∨
      ∃ clauses, ((Cut.ofText definition).clauses.map (·.2)).mapM (compileClause name) =
          .ok clauses ∧
        (clauses = [] ∨ strict = true ∧ unrecognizedText (Cut.ofText definition) ≠ []) := by
  simp only [compile_result, bind_eq_error_iff, exists_or]
  refine or_congr_right ?_
  rw [exists_comm]
  refine exists_congr fun clauses => ?_
  rw [exists_and_left]
  refine and_congr_right fun _ => ?_
  by_cases hn : clauses = []
  · rw [if_pos hn]
    exact ⟨fun _ => .inl hn, fun _ => ⟨_, rfl⟩⟩
  · rw [if_neg hn, or_iff_right hn]
    by_cases hs : strict = true ∧ unrecognizedText (Cut.ofText definition) ≠ []
    · rw [if_pos hs]
      exact ⟨fun _ => hs, fun _ => ⟨_, rfl⟩⟩
    · rw [if_neg hs]
      refine ⟨?_, fun h => absurd h hs⟩
      rintro ⟨error, h⟩
      cases h

theorem map_source_of_compiled {rule : Text} {written : List WrittenClause} {clauses : List Clause}
    (h : List.Forall₂ (fun w clause => compileClause rule w = .ok clause) written clauses) :
    clauses.map (·.source) = written.map (·.text) := by
  induction h with
  | nil => rfl
  | cons hc _ ih => rw [List.map_cons, List.map_cons, source_of_compileClause hc, ih]

/-- **What compiles is well formed**, for a strict reader as for a lenient one. -/
theorem compiledFrom_of_compile {strict : Bool} {name definition : Text} {rule : AttachmentRule}
    (h : (compile strict name definition).result = .ok rule) :
    rule.CompiledFrom name definition := by
  obtain ⟨clauses, hc, hn, -, rfl⟩ := compile_eq_ok_iff.mp h
  have hf := mapM_eq_ok_iff.mp hc
  have hkept := lastClauses_sublist clauses
  have hw : ∀ clause ∈ clauses, clause.WellTyped := by
    intro clause hm
    obtain ⟨written, hw, hclause⟩ := exists_of_mem_mapM hc hm
    obtain ⟨entry, he, rfl⟩ := List.mem_map.mp hw
    exact wellTyped_of_compileClause (Cut.isOperator_of_mem_after entry he) hclause
  have hi := (Cut.ofText definition).inOrder
  have hs := map_source_of_compiled hf
  rw [List.map_map] at hs
  rw [Cut.text_ofText, ← Function.comp_def, ← hs] at hi
  exact ⟨rfl, lastClauses_ne_nil hn, nodup_target_lastClauses clauses,
    fun clause hm => hw clause (hkept.subset hm), hi.sublist (hkept.map _),
    clauses, hf, keepsLast_lastClauses clauses⟩

end AttachmentRule
end MailScreen
