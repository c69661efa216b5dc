import MailScreen.Text.Letter
import MailScreen.Text.Quoted

/-!
# Arguments of the command

The words of a command line, each told apart as an option or an operand by its spelling alone, and
then put together with the values that options take from the next word. Long options may be cut
short as long as only one of them starts that way. After two dashes that stand alone everything is
an operand.
-/
namespace MailScreen

/-- An option of the command. -/
inductive CommandOption where
  /-- Show how the command is used. -/
  | help
  /-- Read rules from a file. -/
  | rules
  /-- Refuse rule definitions that hold anything but clauses. -/
  | strictRules
  /-- Choose which log entries are shown. -/
  | logLevel
  /-- Write the report to a file. -/
  | output
  /-- Report as header lines. -/
  | headers
  deriving DecidableEq, Repr

namespace CommandOption

/-- The options and how they are spelled, in order. -/
def spelled : List (String × CommandOption) :=
  [("-h", help), ("--help", help), ("--rules", rules), ("--strict-rules", strictRules),
    ("--log-level", logLevel), ("--output", output), ("--headers", headers)]

/-- The name under which messages refer to an option: all its spellings. -/
def label (option : CommandOption) : String :=
  String.intercalate "/" ((spelled.filter (·.2 = option)).map (·.1))

/-- Whether an option takes a value. -/
def takesValue : CommandOption → Bool
  | rules | logLevel | output => true
  | help | strictRules | headers => false

/-- The option of a spelling. -/
def ofSpelling? (t : Text) : Option CommandOption := (spelled.find? (·.1.toList = t)).map (·.2)

/-- The options whose spelling starts as given. -/
def startingWith (start : Text) : List (String × CommandOption) :=
  spelled.filter fun entry => start.isPrefixOf entry.1.toList

end CommandOption

/-- What is wrong with a command line. -/
inductive UsageFault where
  /-- Several options start as the word does. -/
  | ambiguous (word : Text) (spellings : List String)
  /-- The value of an option is missing. -/
  | missingValue (option : CommandOption)
  /-- An option that takes no value has one. -/
  | unusedValue (option : CommandOption) (value : Text)
  /-- There is no such log level. -/
  | unknownLevel (value : Text) (levels : List String)
  /-- No message files are named. -/
  | noFiles
  /-- Words are left over. -/
  | unrecognized (words : List Text)
  deriving DecidableEq, Repr

/-- The wording of a usage fault. -/
def UsageFault.message : UsageFault → Text
  | ambiguous word spellings =>
    "ambiguous option: ".toList ++ word ++ " could match ".toList ++
      (String.intercalate ", " spellings).toList
  | missingValue option => s!"argument {option.label}: expected one argument".toList
  | unusedValue option value =>
    s!"argument {option.label}: ignored explicit argument ".toList ++ Text.quoted value
  | unknownLevel value levels =>
    s!"argument {CommandOption.logLevel.label}: invalid choice: ".toList ++ Text.quoted value ++
      " (choose from ".toList ++
      List.intercalate ", ".toList (levels.map fun level => Text.quoted level.toList) ++ [')']
  | noFiles => "the following arguments are required: files".toList
  | unrecognized words => "unrecognized arguments: ".toList ++ List.intercalate [' '] words

/-- What follows an option in its own word. -/
inductive AttachedValue where
  /-- Nothing. -/
  | absent
  /-- An equals sign and a value. -/
  | assigned (value : Text)
  /-- More letters, directly after a single dash and a letter. -/
  | adjacent (letters : Text)
  deriving DecidableEq, Repr

/-- What a word of a command line is. -/
inductive WordKind where
  /-- An operand. -/
  | operand
  /-- The two dashes after which everything is an operand. -/
  | separator
  /-- An option. -/
  | option (option : CommandOption) (value : AttachedValue)
  /-- It looks like an option, but there is none that it could be. -/
  | unknown
  deriving DecidableEq, Repr

/-- A word of a command line. -/
structure CommandWord where
  /-- The word as given. -/
  text : Text
  /-- What it is. -/
  kind : WordKind
  deriving DecidableEq, Repr

namespace CommandWord

/-- The two dashes after which everything is an operand. -/
def separatorText : Text := ['-', '-']

/-- Whether a text is digits only, possibly none, or such digits, a point and at least one digit. -/
def isUnsignedNumber (t : Text) : Bool :=
  match Text.cut? '.' t with
  | none => !t.isEmpty && t.all isDecimalDigit
  | some (whole, fraction) =>
    whole.all isDecimalDigit && !fraction.isEmpty && fraction.all isDecimalDigit

/-- A text without a line feed at its end. -/
def dropFinalLineFeed (t : Text) : Text :=
  if t.getLast? = some '\n' then t.dropLast else t

/-- Whether a word is a negative number, and so no option. -/
def isNegativeNumber : Text → Bool
  | '-' :: rest => isUnsignedNumber (dropFinalLineFeed rest)
  | _ => false

/-- What a word is that starts with a dash and spells no option in full. -/
def kindOfAbbreviation (word start : Text) (value : AttachedValue) : Except UsageFault WordKind :=
  let candidates :=
    if separatorText.isPrefixOf word then
      (CommandOption.startingWith start).map fun (spelling, option) => (spelling, option, value)
    else
      (CommandOption.spelled.filter fun entry => entry.1.toList = word.take 2).map
        fun (spelling, option) => (spelling, option, AttachedValue.adjacent (word.drop 2))
  match candidates with
  | [] => .ok (if isNegativeNumber word || word.contains ' ' then .operand else .unknown)
  | [(_, option, value)] => .ok (.option option value)
  | several => .error (.ambiguous word (several.map (·.1)))

/-- What a word is, two dashes alone apart. -/
def kindOf (word : Text) : Except UsageFault WordKind :=
  match word with
  | '-' :: _ :: _ =>
    let (start, value) :=
      match Text.cut? '=' word with
      | none => (word, AttachedValue.absent)
      | some (start, value) => (start, .assigned value)
    match CommandOption.ofSpelling? start with
    | some option => .ok (.option option value)
    | none => kindOfAbbreviation word start value
  | _ => .ok .operand

/-- The words of a command line. -/
def ofTexts : List Text → Except UsageFault (List CommandWord)
  | [] => .ok []
  | word :: rest =>
    if word = separatorText then
      .ok (⟨word, .separator⟩ :: rest.map fun operand => ⟨operand, .operand⟩)
    else do
      let kind ← kindOf word
      let more ← ofTexts rest
      return ⟨word, kind⟩ :: more

end CommandWord

/-- An argument of the command: words that belong together. -/
inductive CommandArgument where
  /-- Operands with no option between them, and the separator if it stands among them. -/
  | operands (words : List Text)
  /-- An option with what is attached to it. -/
  | option (option : CommandOption) (value : AttachedValue)
  /-- A word that looks like an option. -/
  | unknown (word : Text)
  deriving DecidableEq, Repr

namespace CommandArgument

/-- One more operand before other arguments. -/
def consOperand (word : Text) : List CommandArgument → List CommandArgument
  | operands words :: rest => operands (word :: words) :: rest
  | rest => operands [word] :: rest

/-- Puts words together. An option that takes a value and has none attached takes the next word if
that is an operand. -/
def ofWords : List CommandWord → List CommandArgument
  | [] => []
  | ⟨word, .unknown⟩ :: rest => unknown word :: ofWords rest
  | ⟨word, .operand⟩ :: rest => consOperand word (ofWords rest)
  | ⟨word, .separator⟩ :: rest => consOperand word (ofWords rest)
  | ⟨_, .option chosen value⟩ :: ⟨next, .operand⟩ :: rest =>
    if chosen.takesValue && value = .absent then
      option chosen (.assigned next) :: ofWords rest
    else option chosen value :: consOperand next (ofWords rest)
  | ⟨_, .option chosen value⟩ :: rest => option chosen value :: ofWords rest

end CommandArgument
end MailScreen
