import MailScreen.Charset.Utf8
import MailScreen.Rule.Definition
import MailScreen.Rule.RuleSet
import MailScreen.Text.Integer
import MailScreen.Text.Line

/-!
# Lines of rules

Each line of a rule file is a directive. `attachment NAME DEFINITION` defines an attachment rule and
`body NAME eval:CHECK(ARGUMENTS)` a check rule; other lines are passed over. A number sign starts a
comment unless a backslash stands before it. A line that is refused is put on record and the rest
is still read.
-/
namespace MailScreen

namespace RuleLine

/-- Whether a comment may run from here to the end of a line: no line feed comes but at the end. -/
def isLineTail (t : Text) : Bool :=
  match t.dropWhile (· ≠ '\n') with
  | [] => true
  | _ :: rest => rest.isEmpty

/-- A line without its comment. `escaped` says that the character before is a backslash. -/
def dropComment (escaped : Bool) : Text → Text
  | [] => []
  | c :: rest =>
    if c = '#' && !escaped && isLineTail rest then [] else c :: dropComment (c == '\\') rest

/-- A text with the backslashes before number signs taken out. -/
def unescape : Text → Text
  | [] => []
  | '\\' :: '#' :: rest => '#' :: unescape rest
  | c :: rest => c :: unescape rest

/-- What a line says: no comment, no escapes, no blanks at the ends. -/
def content (line : Text) : Text := Text.trim (unescape (dropComment false line))

/-- The first word of a text and what follows the blanks after it. -/
def firstWord (t : Text) : Text × Text :=
  (t.takeWhile fun c => !isBlank c, (t.dropWhile fun c => !isBlank c).dropWhile isBlank)

/-- A call of a check in a body rule. -/
structure CheckCall where
  /-- The name of the rule. -/
  name : Text
  /-- The name of the check. -/
  function : Text
  /-- What stands between the parentheses, without the blanks at its ends. -/
  arguments : Text
  deriving DecidableEq, Repr

/-- A text without a given start. -/
def afterPrefix? (start t : Text) : Option Text :=
  if start.isPrefixOf t then some (t.drop start.length) else none

/-- Reads `NAME eval:CHECK(ARGUMENTS)`. -/
def readCall? (t : Text) : Option CheckCall := do
  let (name, rest) := firstWord t
  let call ← afterPrefix? "eval:".toList rest
  let function := call.takeWhile isWord
  if name.isEmpty || function.isEmpty then none
  else
    match call.dropWhile isWord with
    | '(' :: inside =>
      match inside.reverse with
      | ')' :: arguments => some ⟨name, function, Text.trim arguments.reverse⟩
      | _ => none
    | _ => none

/-- Reads one argument of a check, which may stand in quotation marks. -/
def readArgument (call : CheckCall) (piece : Text) : Except RuleFault Int :=
  let argument := Text.trimBy WrittenClause.isQuotationMark (Text.trim piece)
  match readInteger argument with
  | .ok n => .ok n
  | .error _ => AttachmentRule.refuse call.name (.notInteger argument) (some call.arguments)

/-- Reads the arguments of a check. -/
def readArguments (call : CheckCall) : Except RuleFault (List Int) :=
  if call.arguments.isEmpty then .ok []
  else (List.splitOn ',' call.arguments).mapM (readArgument call)

/-- The check that a call asks for; `none` if there is no check of the name. -/
def readCheck (call : CheckCall) : Except RuleFault (Option Check) :=
  if call.function ≠ Check.countName.toList ∧ call.function ≠ Check.mimeErrorName.toList then
    .ok none
  else do
    let arguments ← readArguments call
    if call.function = Check.countName.toList ∧ arguments.length ≠ 2 then
      AttachmentRule.refuse call.name .countArguments (some call.arguments)
    else if call.function = Check.mimeErrorName.toList ∧ arguments ≠ [] then
      AttachmentRule.refuse call.name .mimeErrorArguments (some call.arguments)
    else return some ⟨call.function, arguments⟩

end RuleLine

namespace RuleSet

open RuleLine

/-- Warns when a name is taken. -/
def warnTaken (set : RuleSet) (name : Text) : Noted RuleFault Unit :=
  if set.has name then
    Noted.warning
      s!"Attachment rule {String.ofList name} redefined, keeping the last definition"
  else pure ()

/-- Reads the value of an `attachment` line. -/
def readAttachment (strict : Bool) (set : RuleSet) (value : Text) : Noted RuleFault RuleSet :=
  let (name, definition) := firstWord value
  if definition.isEmpty then
    let shown := if value.isEmpty then "<unnamed>".toList else value
    Noted.ofExcept (AttachmentRule.refuse shown .incomplete none)
  else do
    let rule ← AttachmentRule.compile strict name definition
    set.warnTaken name
    return set.define rule

/-- The arguments of a check as logs show them. -/
def showArguments (arguments : List Int) : String :=
  "(" ++ String.intercalate ", " (arguments.map toString) ++ ")"

/-- Reads the value of a `body` line. -/
def readBody (set : RuleSet) (value : Text) : Noted RuleFault RuleSet :=
  match readCall? value with
  | none => do
    Noted.debug s!"Ignoring body rule: {String.ofList value}"
    return set
  | some call => do
    match ← Noted.ofExcept (readCheck call) with
    | none =>
      Noted.debug
        s!"Ignoring eval rule {String.ofList call.name} for {String.ofList call.function}"
      return set
    | some check =>
      set.warnTaken call.name
      Noted.debug (s!"Added eval rule {String.ofList call.name}: {String.ofList call.function}" ++
        showArguments check.arguments)
      return set.defineCheck ⟨call.name, check⟩

/-- Reads what a line says. -/
def readContent (strict : Bool) (set : RuleSet) (number : Nat) (content : Text) :
    Noted RuleFault RuleSet :=
  let (word, value) := firstWord content
  let keyword := Text.lower word
  if value.contains '\n' then Noted.fail .brokenLine
  else if keyword = "attachment".toList then readAttachment strict set value
  else if keyword = "body".toList && Text.hasPiece "eval:".toList value then readBody set value
  else do
    Noted.debug s!"Ignoring line {number}: {String.ofList keyword}"
    return set

/-- Reads one line. A malformed rule is put on record and not defined. -/
def readLine (strict : Bool) (set : RuleSet) (number : Nat) (line : Text) :
    Noted RuleFault RuleSet :=
  let content := RuleLine.content line
  if content.isEmpty then pure set
  else do
    match ← (readContent strict set number content).attempt with
    | .ok set => return set
    | .error (.malformed error) =>
      Noted.error s!"Rejected attachment rule on line {number}: {error.message}"
      return set.reject ⟨error.rule, number, error.message⟩
    | .error fault => Noted.fail fault

/-- Reads lines from a given number on. -/
def readLines (strict : Bool) (set : RuleSet) (number : Nat) : List Text → Noted RuleFault RuleSet
  | [] => pure set
  | line :: rest => do
    let set ← readLine strict set number line
    readLines strict set (number + 1) rest

/-- The rule set that lines define. -/
def ofLines (strict : Bool) (lines : List Text) : Noted RuleFault RuleSet := do
  let set ← readLines strict {} 1 lines
  Noted.info s!"Loaded {set.size} attachment rules ({set.rejections.length} rejected)"
  return set

/-- The rule set that a text defines. -/
def ofText (strict : Bool) (t : Text) : Noted RuleFault RuleSet := ofLines strict (Text.lines t)

/-- The rule set that octets define: their text is UTF-8 with ill-formed pieces replaced. -/
def ofOctets (strict : Bool) (data : Octets) : Noted RuleFault RuleSet :=
  ofText strict (Utf8.decode data)

/-- Notes that a rule file is about to be read. -/
def noteFile {ε : Type} (path : Text) : Noted ε Unit :=
  Noted.info s!"Loading attachment rules from {String.ofList path}"

/-- The rule set that a file defines. -/
def ofFile (strict : Bool) (path : Text) (data : Octets) : Noted RuleFault RuleSet := do
  noteFile path
  ofOctets strict data

end RuleSet
end MailScreen
