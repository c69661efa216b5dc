import MailScreen.Noted
import MailScreen.Rule.Basic
import MailScreen.Rule.Delimiter
import MailScreen.Rule.Error

/-!
# Rule definitions

A definition is compiled clause by clause in the order in which the clauses are written. Of the
clauses on one target the last one counts. Text between the clauses is passed over with a warning,
or refused by a strict reader.
-/
namespace MailScreen

/-- The options that the letters after a pattern turn on. -/
def optionsOfLetters (letters : Text) : Pattern.Options :=
  letters.foldl
    (fun options c =>
      match Pattern.Options.ofLetter? c with
      | some more => options.union more
      | none => options)
    {}

namespace WrittenValue

/-- The text that a value stands for where a text is asked for. -/
def literal (value : WrittenValue) : Text := unquote value.text

/-- The body and the options of a value where a pattern is asked for. -/
def pattern? (value : WrittenValue) : Option (Text × Pattern.Options) :=
  (splitPattern? value.text).map fun (body, letters) => (body, optionsOfLetters letters)

end WrittenValue

namespace AttachmentRule

/-- A failure of a named rule near a fragment. -/
def refuse {α : Type} (rule : Text) (problem : RuleProblem) (fragment : Option Text) :
    Except RuleFault α :=
  .error (.malformed ⟨problem, rule, fragment⟩)

/-- Compiles the pattern that a value stands for. -/
def compilePattern (rule : Text) (value : WrittenValue) : Except RuleFault CompiledPattern :=
  match value.pattern? with
  | none => refuse rule .noDelimiters (some value.text)
  | some (body, options) =>
    match CompiledPattern.ofText options body with
    | .ok compiled => .ok compiled
    | .error (.malformed problem place) =>
      let fault := Pattern.Fault.malformed problem place
      refuse rule (.badPattern (fault.message body)) (some value.text)
    | .error fault => .error (.pattern body fault)

/-- Compiles what a clause compares with. -/
def compileOperand (rule : Text) (operator : Operator) (value : WrittenValue) :
    Except RuleFault Operand :=
  if operator.takesPattern then (compilePattern rule value).map .pattern
  else .ok (.literal value.literal)

/-- Compiles a clause. -/
def compileClause (rule : Text) (written : WrittenClause) : Except RuleFault Clause :=
  match Target.ofKey? written.key with
  | none => refuse rule (.unknownKey written.key) (some written.text)
  | some target => do
    let operator := Operator.ofSymbol [written.operator.1, written.operator.2]
    let operand ← compileOperand rule operator written.value
    return ⟨target, operator, operand, written.text⟩

/-- Compiles the clauses of a definition one after the other. -/
def compileClauses (rule : Text) : List WrittenClause → Noted RuleFault (List Clause)
  | [] => pure []
  | written :: rest => do
    let clause ← Noted.ofExcept (compileClause rule written)
    Noted.debug s!"Adding ({clause.describe}) to {String.ofList rule}"
    let clauses ← compileClauses rule rest
    return clause :: clauses

/-- The clauses that no later clause on the same target replaces. -/
def lastClauses : List Clause → List Clause
  | [] => []
  | clause :: rest =>
    if rest.any (·.target == clause.target) then lastClauses rest else clause :: lastClauses rest

/-- Notes the clauses that later clauses replace. -/
def noteReplaced (rule : Text) : List Clause → Noted RuleFault Unit
  | [] => pure ()
  | clause :: rest => do
    if rest.any (·.target == clause.target) then
      Noted.debug (s!"Clause ({clause.describe}) in {String.ofList rule} replaced by a later " ++
        s!"{clause.target.key} clause")
    noteReplaced rule rest

/-- What is neither blank nor part of a clause in a definition. -/
def unrecognizedText (cut : Cut) : Text :=
  List.intercalate [' '] ((cut.gaps.map Text.trim).filter fun piece => !piece.isEmpty)

/-- Refuses text between clauses, or warns of it. -/
def judgeUnrecognized (strict : Bool) (rule found : Text) : Noted RuleFault Unit :=
  if found.isEmpty then pure ()
  else if strict then Noted.ofExcept (refuse rule .unrecognized (some found))
  else
    Noted.warning (s!"Ignoring unrecognized text in attachment rule {String.ofList rule}: " ++
      s!"'{String.ofList found}'")

/-- Compiles a rule definition. -/
def compile (strict : Bool) (name definition : Text) : Noted RuleFault AttachmentRule := do
  let cut := Cut.ofText definition
  let clauses ← compileClauses name (cut.clauses.map (·.2))
  if clauses.isEmpty then
    let text := Text.trim definition
    Noted.ofExcept (refuse name .noClause (if text.isEmpty then none else some text))
  else
    judgeUnrecognized strict name (unrecognizedText cut)
    noteReplaced name clauses
    let kept := lastClauses clauses
    Noted.debug s!"Added attachment rule {String.ofList name} with {kept.length} clauses"
    return ⟨name, kept⟩

end AttachmentRule
end MailScreen
