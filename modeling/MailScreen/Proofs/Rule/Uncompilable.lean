import MailScreen.Proofs.FirstFailure
import MailScreen.Rule.Definition

/-!
# Definitions that cannot be compiled

Compiling a definition fails in one of two ways. Either the rule is malformed, which is what the
reader of rules expects and reports; or a pattern in it is refused for a reason that has nothing to
do with its form: a number of repetitions or a code point that does not fit, a number of too many
digits, or classes that are asked to be those of ASCII and those of Unicode. The second way is
spelled out here: clauses are compiled in order, so it happens exactly if a clause asks for such a
pattern and every clause before it compiles (`AttachmentRule.compile_fault_iff`).
-/
namespace MailScreen

/-- Whether a pattern is refused for its form. -/
def Pattern.Fault.isFormal : Pattern.Fault → Bool
  | malformed .. => true
  | _ => false

/-- Whether a fault is that of a malformed rule. -/
def RuleFault.isMalformed : RuleFault → Bool
  | malformed _ => true
  | _ => false

/-- A clause asks for a pattern that is refused for a reason other than its form. -/
def WrittenClause.Uncompilable (clause : WrittenClause) : Prop :=
  Target.ofKey? clause.key ≠ none ∧
  (Operator.ofSymbol [clause.operator.1, clause.operator.2]).takesPattern = true ∧
  ∃ body options fault, clause.value.pattern? = some (body, options) ∧
    CompiledPattern.ofText options body = .error fault ∧ fault.isFormal = false

namespace AttachmentRule

/-- A definition in which a clause asks for such a pattern and every clause before it compiles. -/
def Uncompilable (name definition : Text) : Prop :=
  ∃ before clause after, (Cut.ofText definition).clauses.map (·.2) = before ++ clause :: after ∧
    (∀ c ∈ before, ∃ compiled, compileClause name c = .ok compiled) ∧ clause.Uncompilable

theorem isMalformed_of_refuse {α : Type} {rule : Text} {problem : RuleProblem}
    {fragment : Option Text} {fault : RuleFault}
    (h : (refuse rule problem fragment : Except RuleFault α) = .error fault) :
    fault.isMalformed = true := by
  obtain rfl := Except.error.inj h
  rfl

/-! ## One clause -/

theorem compilePattern_fault_iff (rule : Text) (value : WrittenValue) :
    (∃ fault, compilePattern rule value = .error fault ∧ fault.isMalformed = false) ↔
      ∃ body options fault, value.pattern? = some (body, options) ∧
        CompiledPattern.ofText options body = .error fault ∧ fault.isFormal = false := by
  unfold compilePattern
  cases hp : value.pattern? with
  | none =>
    constructor
    · rintro ⟨fault, h, hm⟩
      rw [isMalformed_of_refuse h] at hm
      cases hm
    · rintro ⟨_, _, _, h, -⟩
      cases h
  | some found =>
    obtain ⟨body, options⟩ := found
    simp only [Option.some.injEq, Prod.mk.injEq]
    cases hc : CompiledPattern.ofText options body with
    | ok compiled =>
      constructor
      · rintro ⟨fault, h, -⟩
        cases h
      · rintro ⟨_, _, fault, ⟨rfl, rfl⟩, h, -⟩
        rw [hc] at h
        cases h
    | error fault =>
      constructor
      · rintro ⟨outer, h, hm⟩
        refine ⟨body, options, fault, ⟨rfl, rfl⟩, hc, ?_⟩
        cases fault with
        | malformed problem place =>
          rw [isMalformed_of_refuse h] at hm
          cases hm
        | _ => rfl
      · rintro ⟨_, _, inner, ⟨rfl, rfl⟩, h, hf⟩
        obtain rfl := Except.error.inj (hc.symm.trans h)
        cases fault with
        | malformed problem place => cases hf
        | _ => exact ⟨_, rfl, rfl⟩

theorem compileOperand_fault_iff (rule : Text) (operator : Operator) (value : WrittenValue) :
    (∃ fault, compileOperand rule operator value = .error fault ∧ fault.isMalformed = false) ↔
      operator.takesPattern = true ∧
        ∃ fault, compilePattern rule value = .error fault ∧ fault.isMalformed = false := by
  unfold compileOperand
  by_cases ht : operator.takesPattern = true
  · simp only [ht, if_true, map_eq_error_iff, true_and]
  · rw [if_neg ht]
    constructor
    · rintro ⟨fault, h, -⟩; cases h
    · rintro ⟨h, -⟩; exact absurd h ht

/-- A clause fails, other than by being malformed, exactly if it is uncompilable. -/
theorem compileClause_fault_iff (rule : Text) (clause : WrittenClause) :
    (∃ fault, compileClause rule clause = .error fault ∧ fault.isMalformed = false) ↔
      clause.Uncompilable := by
  unfold compileClause WrittenClause.Uncompilable
  cases hk : Target.ofKey? clause.key with
  | none =>
    constructor
    · rintro ⟨fault, h, hm⟩
      rw [isMalformed_of_refuse h] at hm
      cases hm
    · rintro ⟨h, -⟩
      exact absurd rfl h
  | some target =>
    rw [← compilePattern_fault_iff rule, ← compileOperand_fault_iff]
    simp only [bind_eq_error_iff]
    constructor
    · rintro ⟨fault, h | ⟨operand, -, h⟩, hm⟩
      · exact ⟨by simp, fault, h, hm⟩
      · cases h
    · rintro ⟨-, fault, h, hm⟩
      exact ⟨fault, .inl h, hm⟩

/-! ## A definition -/

/-- The clauses are compiled in order. -/
theorem compileClauses_result (rule : Text) (clauses : List WrittenClause) :
    (compileClauses rule clauses).result = clauses.mapM (compileClause rule) := by
  induction clauses with
  | nil => rfl
  | cons clause rest ih =>
    rw [List.mapM_cons, ← ih]
    simp only [compileClauses, Noted.result_bind, Noted.result_ofExcept, Noted.debug,
      Noted.result_note, Noted.result_pure]
    rfl

theorem judgeUnrecognized_result (strict : Bool) (rule found : Text) :
    (judgeUnrecognized strict rule found).result =
      if strict = true ∧ found ≠ [] then refuse rule .unrecognized (some found) else .ok () := by
  cases found with
  | nil => exact (if_neg fun h => h.2 rfl).symm
  | cons c rest =>
    cases strict with
    | false => exact (if_neg fun h => Bool.false_ne_true h.1).symm
    | true => exact (if_pos ⟨rfl, List.cons_ne_nil c rest⟩).symm

theorem noteReplaced_result (rule : Text) (clauses : List Clause) :
    (noteReplaced rule clauses).result = .ok () := by
  induction clauses with
  | nil => rfl
  | cons clause rest ih =>
    unfold noteReplaced
    split
    · rw [Noted.result_bind, Noted.debug, Noted.result_note]
      exact ih
    · exact ih

/-- **What a definition comes to**: the fault of its first clause that does not compile, or else a
rule, if there is a clause and a strict reader finds nothing unrecognized. -/
theorem compile_result (strict : Bool) (name definition : Text) :
    (compile strict name definition).result =
      ((Cut.ofText definition).clauses.map (·.2)).mapM (compileClause name) >>= fun clauses =>
        if clauses = [] then
          refuse name .noClause
            (if (Text.trim definition).isEmpty then none else some (Text.trim definition))
        else if strict = true ∧ unrecognizedText (Cut.ofText definition) ≠ [] then
          refuse name .unrecognized (some (unrecognizedText (Cut.ofText definition)))
        else .ok ⟨name, lastClauses clauses⟩ := by
  rw [compile, Noted.result_bind, compileClauses_result]
  congr 1
  funext clauses
  cases clauses with
  | nil => rfl
  | cons first rest =>
    rw [if_neg (List.cons_ne_nil _ _)]
    show Noted.result (judgeUnrecognized strict name _ >>= fun _ => _) = _
    simp only [Noted.result_bind, judgeUnrecognized_result, noteReplaced_result, Noted.debug,
      Noted.result_note, Noted.result_pure]
    split <;> rfl

/-- What is done with compiled clauses fails only by finding the rule malformed. -/
theorem isMalformed_of_compile {strict : Bool} {name definition : Text} {clauses : List Clause}
    {fault : RuleFault}
    (hc : ((Cut.ofText definition).clauses.map (·.2)).mapM (compileClause name) = .ok clauses)
    (h : (compile strict name definition).result = .error fault) : fault.isMalformed = true := by
  rw [compile_result, hc] at h
  change (if clauses = [] then _ else _) = _ at h
  split at h
  · exact isMalformed_of_refuse h
  · split at h
    · exact isMalformed_of_refuse h
    · cases h

/-- **Compiling a definition fails, other than by finding the rule malformed, exactly if the
definition is uncompilable.** Whether unrecognized text is refused makes no difference. -/
theorem compile_fault_iff (strict : Bool) (name definition : Text) :
    (∃ fault, (compile strict name definition).result = .error fault ∧
      fault.isMalformed = false) ↔ Uncompilable name definition := by
  cases hc : ((Cut.ofText definition).clauses.map (·.2)).mapM (compileClause name) with
  | ok clauses =>
    constructor
    · rintro ⟨fault, h, hm⟩
      rw [isMalformed_of_compile hc h] at hm
      cases hm
    · rintro ⟨before, clause, after, hs, -, hu⟩
      obtain ⟨fault, hf, -⟩ := (compileClause_fault_iff name clause).mpr hu
      obtain ⟨compiled, hok⟩ := exists_mapM_eq_ok_iff.mp ⟨clauses, hc⟩ clause (by simp [hs])
      rw [hf] at hok
      cases hok
  | error fault =>
    have hr : (compile strict name definition).result = .error fault := by
      rw [compile_result, hc]
      rfl
    obtain ⟨before, clause, after, hs, hb, hf⟩ := mapM_eq_error_iff.mp hc
    constructor
    · rintro ⟨other, h, hm⟩
      obtain rfl := Except.error.inj (hr.symm.trans h)
      exact ⟨before, clause, after, hs, hb, (compileClause_fault_iff name clause).mp ⟨_, hf, hm⟩⟩
    · -- only one clause can be the first to fail, so `clause'` is the one that did
      rintro ⟨before', clause', after', hs', hb', hu⟩
      obtain ⟨other, ho, hm⟩ := (compileClause_fault_iff name clause').mpr hu
      have : FailsFirst (compileClause name) ((Cut.ofText definition).clauses.map (·.2)) other :=
        ⟨before', clause', after', hs', hb', ho⟩
      rw [← mapM_eq_error_iff, hc] at this
      obtain rfl := Except.error.inj this
      exact ⟨fault, hr, hm⟩

end AttachmentRule
end MailScreen
