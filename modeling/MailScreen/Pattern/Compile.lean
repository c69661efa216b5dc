import MailScreen.Pattern.Match
import MailScreen.Pattern.Reader

/-!
# Compiled patterns

A pattern is compiled from its text and the options it is given. When the text has been read, the
options for the whole pattern have to agree, every group that a condition asks about has to exist,
and every look behind has to be of one width.
-/
namespace MailScreen

open Pattern

/-- A regular expression that is ready to be matched. -/
structure CompiledPattern where
  /-- The text of the pattern. -/
  body : Text
  /-- The options that are on for the whole pattern. -/
  options : Options
  /-- The tree of the pattern. -/
  node : Node
  deriving DecidableEq, Repr

namespace CompiledPattern

/-- The name of a kind of repetition in messages. -/
def greedName : Greed → String
  | .greedy => "MAX_REPEAT"
  | .lazy => "MIN_REPEAT"
  | .possessive => "POSSESSIVE_REPEAT"

/-- The first problem of a tree that shows only when the whole pattern is known. -/
def treeProblem? (template : Bool) : Node → Option Problem
  | .empty | .char .. | .set .. | .any _ | .anchor _ | .backref .. => none
  | .cat a b | .alt a b => treeProblem? template a <|> treeProblem? template b
  | .group _ body | .atomic body | .ahead _ body => treeProblem? template body
  | .loop greed _ _ body =>
    if template then some (.templateRepeat (greedName greed)) else treeProblem? template body
  | .behind _ least most body =>
    if least > 0xFFFFFFFF then some .behindTooFar
    else if least ≠ most then some .behindNotFixed
    else treeProblem? template body
  | .ifGroup _ yes no => treeProblem? template yes <|> treeProblem? template no

/-- Reads a whole pattern: its tree and the options for all of it. -/
def read (options : Options) (body : Text) : Except Fault (Node × Options) := do
  let source ← Source.ofText body 0
  let scope : Reader.Scope := ⟨options, options.verbose, true⟩
  let start : ReaderState := { source := source, options := options }
  let (node, state) ← (Reader.readAlternatives (6 * body.length + 10) scope).run start
  if state.options.ascii && state.options.unicode then throw .conflictingClasses
  if state.source.next.isSome then throw (state.source.fault .unbalancedParenthesis)
  match state.conditions.find? fun condition => condition.1 ≥ state.widths.length + 1 with
  | some (number, place) => throw (.malformed (.invalidGroup number) (some place))
  | none =>
    match treeProblem? state.options.template node with
    | some problem => throw (.malformed problem none)
    | none => return (node, state.options)

/-- Compiles a pattern. -/
def ofText (options : Options) (body : Text) : Except Fault CompiledPattern := do
  let (node, options) ← read options body
  return ⟨body, options, node⟩

/-- Whether a pattern matches somewhere in a text. -/
def occursIn (pattern : CompiledPattern) (t : Text) : Bool :=
  pattern.node.occursIn pattern.options t

end CompiledPattern
end MailScreen
