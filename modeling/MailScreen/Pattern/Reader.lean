import MailScreen.Pattern.Basic
import MailScreen.Pattern.Source
import MailScreen.Text.CharacterName
import MailScreen.Text.Identifier
import MailScreen.Charset.Bytes

/-!
# Reading patterns

The reader builds the tree of a pattern from its text. It keeps what has been seen so far: the
options for the whole pattern, the groups with their names and widths, and which groups conditions
ask about. A token takes the recursion at most six calls deeper, which is where the fuel comes from;
it never runs out.
-/
namespace MailScreen.Pattern

/-- What the reader has seen. -/
structure ReaderState where
  /-- What is left to read. -/
  source : Source
  /-- The options for the whole pattern. -/
  options : Options
  /-- The numbers of the groups that have names. -/
  groupNames : List (Text × Nat) := []
  /-- The width of each group from number 1 on, `none` while it is open. -/
  widths : List (Option (Nat × Nat)) := []
  /-- How many groups there were, the whole pattern counted, where a look behind started. -/
  behindGroups : Option Nat := none
  /-- The groups that conditions ask about by number, each with the place of the first question. -/
  conditions : List (Nat × Nat) := []

/-- A step of the reader. -/
abbrev Reader (α : Type) := StateT ReaderState (Except Fault) α

namespace Reader

/-- What is left to read. -/
def source : Reader Source := return (← get).source

/-- Stops with a problem `back` characters before the next token. -/
def fail {α : Type} (problem : Problem) (back : Nat := 0) : Reader α := do
  throw ((← source).fault problem back)

/-- Stops with a problem at a place. -/
def failAt {α : Type} (problem : Problem) (place : Nat) : Reader α :=
  throw (.malformed problem (some place))

/-- The next token, which stays the next one. -/
def peek : Reader (Option Token) := return (← source).next

/-- Takes the next token, if there is one. -/
def take : Reader (Option Token) := do
  let state ← get
  let source ← (state.source.advance : Except Fault Source)
  set { state with source := source }
  return state.source.next

/-- Takes the next token if it is a given character. -/
def accept (c : Char) : Reader Bool := do
  if (← source).at? c then
    let _ ← take
    return true
  return false

/-- Takes up to `count` characters of a class. -/
def takeSome (count : Nat) (p : Char → Bool) : Reader Text := do
  match count with
  | 0 => return []
  | count + 1 =>
    match ← peek with
    | some (.plain c) =>
      if p c then
        let _ ← take
        return c :: (← takeSome count p)
      return []
    | _ => return []

/-- Takes all characters of a class, of which there are at most `fuel`. -/
def takeAll (p : Char → Bool) : Reader Text := do
  takeSome ((← source).rest.length + 1) p

/-- Takes a name up to a terminator; `fuel` bounds the number of its tokens. -/
def takeUntil (fuel : Nat) (terminator : Char) (what : String) (taken : Text) : Reader Text := do
  match fuel with
  | 0 => fail (.missing what)
  | fuel + 1 =>
    match ← take with
    | none =>
      if taken.isEmpty then fail (.missing what)
      else fail (.unterminatedName terminator) taken.length
    | some token =>
      if token = .plain terminator then
        if taken.isEmpty then fail (.missing what) 1 else return taken
      else takeUntil fuel terminator what (taken ++ token.text)

/-- Takes a name up to a terminator. -/
def takeName (terminator : Char) (what : String) : Reader Text := do
  takeUntil ((← source).rest.length + 3) terminator what []

/-- Skips a comment in a verbose pattern up to the end of its line. -/
def skipLine (fuel : Nat) : Reader Unit := do
  match fuel with
  | 0 => return ()
  | fuel + 1 =>
    match ← take with
    | none => return ()
    | some token => if token = .plain '\n' then return () else skipLine fuel

/-- Skips a comment in parentheses that started at a place. -/
def skipComment (fuel start : Nat) : Reader Unit := do
  match fuel with
  | 0 => return ()
  | fuel + 1 =>
    match ← take with
    | none => failAt .unterminatedComment start
    | some token => if token = .plain ')' then return () else skipComment fuel start

/-- The number of groups, the whole pattern counted. -/
def groupCount : Reader Nat := return (← get).widths.length + 1

/-- The width of a group that has been closed. -/
def closedWidth? (number : Nat) : Reader (Option (Nat × Nat)) := do
  let widths := (← get).widths
  return if number = 0 then none else (widths[number - 1]?).join

/-- Refuses a reference out of a look behind to a group that is open or inside it. -/
def checkBehind (number : Nat) : Reader Unit := do
  match (← get).behindGroups with
  | none => return ()
  | some count =>
    if (← closedWidth? number).isNone then fail .openGroup
    if number ≥ count then fail .groupOfSameLookbehind

end Reader

/-- Whether a character is a digit of ASCII below a bound. -/
def isDigitBelow (bound : Nat) (c : Char) : Bool := 0x30 ≤ c.toNat && c.toNat < 0x30 + bound

/-- The value of octal digits. -/
def octalValue (digits : Text) : Nat :=
  digits.foldl (fun value c => value * 8 + (c.toNat - 0x30)) 0

/-- The value of hexadecimal digits. -/
def hexValue (digits : Text) : Nat :=
  digits.foldl (fun value c => value * 16 + (hexDigit? c.toNat).getD 0) 0

/-- Whether a character is a hexadecimal digit. -/
def isHexChar (c : Char) : Bool := (hexDigit? c.toNat).isSome

/-- The character class that an escape letter stands for, and whether it is negated. -/
def classOfLetter? (c : Char) : Option (CharClass × Bool) :=
  if c = 'd' then some (.digit, false)
  else if c = 'D' then some (.digit, true)
  else if c = 's' then some (.blank, false)
  else if c = 'S' then some (.blank, true)
  else if c = 'w' then some (.word, false)
  else if c = 'W' then some (.word, true)
  else none

/-- The code point of an escape letter that stands for a control character or a backslash. -/
def controlOfLetter? (c : Char) : Option Nat :=
  if c = 'a' then some 7
  else if c = 'b' then some 8
  else if c = 'f' then some 12
  else if c = 'n' then some 10
  else if c = 'r' then some 13
  else if c = 't' then some 9
  else if c = 'v' then some 11
  else if c = '\\' then some 0x5C
  else none

namespace Reader

/-- Reads the digits of an escape by code that needs `count` of them. -/
def readCode (letter : Char) (count : Nat) : Reader Nat := do
  let digits ← takeSome count isHexChar
  let escape := '\\' :: letter :: digits
  if digits.length ≠ count then fail (.incompleteEscape escape) escape.length
  let code := hexValue digits
  if code > 0x7FFFFFFF then throw .hugeCode
  if code > 0x10FFFF then fail (.badEscape escape) escape.length
  return code

/-- Reads the name of an escape by character name. -/
def readCharacterName : Reader Nat := do
  if !(← accept '\x7b') then fail (.missing "\x7b")
  let name ← takeName '\x7d' "character name"
  match characterNamed? name with
  | some c => return c.toNat
  | none => fail (.unknownCharacterName name) (name.length + 4)

/-- Reads an escape that stands for one code point in and out of sets alike, if its letter starts
such an escape. -/
def readCodeEscape? (letter : Char) : Reader (Option Nat) := do
  if letter = 'x' then return some (← readCode letter 2)
  if letter = 'u' then return some (← readCode letter 4)
  if letter = 'U' then return some (← readCode letter 8)
  if letter = 'N' then return some (← readCharacterName)
  return none

/-- The code point of an escaped character that needs no escape. Letters and digits of ASCII may
not be escaped without need. -/
def readPlainEscape (letter : Char) : Reader Nat := do
  if letter.isAlphanum then fail (.badEscape ['\\', letter]) 2
  return letter.toNat

/-- Reads an escape in a set. -/
def readSetEscape (letter : Char) : Reader SetItem := do
  if let some code := controlOfLetter? letter then return .code code
  if let some (c, negated) := classOfLetter? letter then return .ofClass c negated
  if let some code ← readCodeEscape? letter then return .code code
  if isDigitBelow 8 letter then
    let digits := letter :: (← takeSome 2 (isDigitBelow 8))
    let code := octalValue digits
    if code > 0o377 then fail (.octalTooLarge ('\\' :: digits)) (digits.length + 1)
    return .code code
  return .code (← readPlainEscape letter)

/-- The node of a reference to a group; the reference is `length` characters long. -/
def readReference (options : Options) (number length : Nat) : Reader Node := do
  match ← closedWidth? number with
  | none => fail .openGroup length
  | some (least, most) =>
    checkBehind number
    return .backref options.folding number least most

/-- Reads a number after a backslash outside a set: an octal code of three digits or the number of
a group. -/
def readNumberEscape (options : Options) (first : Char) : Reader Node := do
  let second ← takeSome 1 (isDigitBelow 10)
  let third ←
    if isDigitBelow 8 first && second.any (isDigitBelow 8) then takeSome 1 (isDigitBelow 8)
    else pure []
  let digits := first :: second ++ third
  if third.isEmpty then
    let number := digits.foldl (fun value c => value * 10 + (c.toNat - 0x30)) 0
    if number < (← groupCount) then readReference options number (digits.length + 1)
    else fail (.invalidGroup number) digits.length
  else
    let code := octalValue digits
    if code > 0o377 then fail (.octalTooLarge ('\\' :: digits)) (digits.length + 1)
    return .char options.folding code false

/-- Reads an escape outside a set. -/
def readEscape (options : Options) (letter : Char) : Reader Node := do
  if letter = 'A' then return .anchor .textStart
  if letter = 'Z' then return .anchor .textEnd
  if letter = 'b' then return .anchor (.boundary options.ascii false)
  if letter = 'B' then return .anchor (.boundary options.ascii true)
  if let some (c, negated) := classOfLetter? letter then
    return .set options.folding options.ascii false [.ofClass c negated]
  if let some code := controlOfLetter? letter then return .char options.folding code false
  if let some code ← readCodeEscape? letter then return .char options.folding code false
  if letter = '0' then
    let digits := letter :: (← takeSome 2 (isDigitBelow 8))
    return .char options.folding (octalValue digits) false
  if isDigitBelow 10 letter then readNumberEscape options letter
  else return .char options.folding (← readPlainEscape letter) false

/-- A token of a set as an item. -/
def readSetToken : Token → Reader SetItem
  | .plain c => return .code c.toNat
  | .escape c => readSetEscape c

/-- Reads the items of a set that started at a place. -/
def readSetItems (fuel start : Nat) (items : List SetItem) : Reader (List SetItem) := do
  match fuel with
  | 0 => return items
  | fuel + 1 =>
    match ← take with
    | none => failAt .unterminatedSet start
    | some first =>
      if first = .plain ']' && !items.isEmpty then return items
      let item ← readSetToken first
      if !(← accept '-') then readSetItems fuel start (items ++ [item])
      else
        match ← take with
        | none => failAt .unterminatedSet start
        | some second =>
          if second = .plain ']' then return items ++ [item, .code '-'.toNat]
          let last ← readSetToken second
          let problem := Problem.badRange first.text second.text
          let length := first.text.length + 1 + second.text.length
          match item, last with
          | .code low, .code high =>
            if high < low then fail problem length
            readSetItems fuel start (items ++ [.range low high])
          | _, _ => fail problem length

/-- Reads a set after its bracket. -/
def readSet (options : Options) : Reader Node := do
  let source ← source
  let start := source.place - 1
  let negated ← accept '^'
  let items ← readSetItems (source.rest.length + 3) start []
  match items.eraseDups with
  | [.code code] => return .char options.folding code negated
  | items => return .set options.folding options.ascii negated items

/-- The number of repetitions from which on a number is too large. -/
def maxRepeat : Nat := 4294967295

/-- Reads the value of a number of repetitions. -/
def readTimes (digits : Text) : Reader Nat := do
  match digitsValue? digits with
  | .error fault => throw (.number fault)
  | .ok n => if n ≥ maxRepeat then throw .hugeRepeat else return n

/-- Reads the bounds in braces after the opening one, or `none` if the brace stands for itself; then
nothing is taken. -/
def readBounds? : Reader (Option (Nat × Option Nat)) := do
  let state ← get
  if state.source.at? '\x7d' then return none
  let least ← takeAll (isDigitBelow 10)
  let most ← if ← accept ',' then takeAll (isDigitBelow 10) else pure least
  if !(← accept '\x7d') then
    set state
    return none
  let low ← if least.isEmpty then pure 0 else readTimes least
  if most.isEmpty then return some (low, none)
  let high ← readTimes most
  if high < low then failAt .leastAboveMost state.source.place
  return some (low, some high)

/-- Whether a node is an anchor. -/
def isAnchor : Node → Bool
  | .anchor _ => true
  | _ => false

/-- Whether a node is a repetition. -/
def isLoop : Node → Bool
  | .loop .. => true
  | _ => false

/-- Reads the mark after a repetition that says which number of rounds is tried first. -/
def readGreed : Reader Greed := do
  if ← accept '?' then return .lazy
  if ← accept '+' then return .possessive
  return .greedy

/-- Repeats the last of the nodes read so far, which are given in reverse. The sign of repetition
stands at a place. -/
def readLoop (place least : Nat) (most : Option Nat) (nodes : List Node) : Reader (List Node) := do
  match nodes with
  | [] => failAt .nothingToRepeat place
  | node :: rest =>
    if isAnchor node then failAt .nothingToRepeat place
    if isLoop node then failAt .multipleRepeat place
    let greed ← readGreed
    return .loop greed least most node :: rest

/-- The problem of a token that is no option where one has to be. -/
def optionProblem (token : Token) (otherwise : Problem) : Problem :=
  match token with
  | .plain c => if isLetter c then .unknownOption else otherwise
  | .escape _ => otherwise

/-- The option that a token stands for. -/
def optionOf? : Token → Option Options
  | .plain c => Options.ofLetter? c
  | .escape _ => none

/-- Reads options that are turned on, from a token that is one: the options, and the token after
them. -/
def readOptionsOn (fuel : Nat) (token : Token) (on : Options) : Reader (Options × Token) := do
  match fuel with
  | 0 => return (on, token)
  | fuel + 1 =>
    if token = .plain 'L' then fail .localeOption
    let on := on.union ((optionOf? token).getD {})
    if on.ascii && on.unicode && (token = .plain 'a' || token = .plain 'u') then
      fail .incompatibleOptions
    match ← take with
    | none => fail .missingOptionEnd
    | some next =>
      if next = .plain ')' || next = .plain '-' || next = .plain ':' then return (on, next)
      if (optionOf? next).isNone && next ≠ .plain 'L' then
        fail (optionProblem next .missingOptionEnd) next.text.length
      readOptionsOn fuel next on

/-- Reads options that are turned off, from a token that is one, up to the colon. -/
def readOptionsOff (fuel : Nat) (token : Token) (off : Options) : Reader Options := do
  match fuel with
  | 0 => return off
  | fuel + 1 =>
    if token = .plain 'a' || token = .plain 'u' || token = .plain 'L' then fail .classOptionOff
    let off := off.union ((optionOf? token).getD {})
    match ← take with
    | none => fail .missingColon
    | some next =>
      if next = .plain ':' then return off
      if (optionOf? next).isNone && next ≠ .plain 'L' then
        fail (optionProblem next .missingColon) next.text.length
      readOptionsOff fuel next off

/-- Reads options from their first token: those turned on and off inside a group, or `none` if they
are for the whole pattern. -/
def readOptions (first : Token) : Reader (Option (Options × Options)) := do
  let fuel := (← source).rest.length + 3
  let (on, next) ←
    if first = .plain '-' then pure (({} : Options), first) else readOptionsOn fuel first {}
  if next = .plain ')' then
    modify fun state => { state with options := state.options.union on }
    return none
  if on.template then fail .globalOptionOn 1
  let off ←
    if next = .plain '-' then
      match ← take with
      | none => fail .missingOption
      | some token =>
        if (optionOf? token).isNone && token ≠ .plain 'L' then
          fail (optionProblem token .missingOption) token.text.length
        readOptionsOff fuel token {}
    else pure {}
  if off.template then fail .globalOptionOff 1
  if on.meets off then fail .optionOnAndOff 1
  return some (on, off)

/-- Opens a group and gives its number. -/
def openGroup (name : Option Text) : Reader Nat := do
  let number ← groupCount
  modify fun state => { state with widths := state.widths ++ [none] }
  match name with
  | none => return number
  | some name =>
    match (← get).groupNames.lookup name with
    | some earlier => fail (.redefinedGroup name number earlier) (name.length + 1)
    | none =>
      modify fun state => { state with groupNames := state.groupNames ++ [(name, number)] }
      return number

/-- Closes a group whose contents have been read. -/
def closeGroup (number : Nat) (body : Node) : Reader Unit :=
  modify fun state => { state with widths := state.widths.set (number - 1) (some body.width) }

/-- Takes the parenthesis that closes a group that started at a place. -/
def closeParenthesis (start : Nat) : Reader Unit := do
  if !(← accept ')') then failAt .unterminatedGroup start

/-- Refuses a name that is no identifier. -/
def checkName (name : Text) : Reader Unit := do
  if !isIdentifier name then fail (.badGroupName name) (name.length + 1)

/-- The greatest number of groups. -/
def maxGroups : Nat := 1073741823

/-- Reads the group that a condition asks about. -/
def readCondition : Reader Nat := do
  let name ← takeName ')' "group name"
  if isIdentifier name then
    match (← get).groupNames.lookup name with
    | some number => return number
    | none => fail (.unknownGroupName name) (name.length + 1)
  else
    match readInteger name with
    | .error _ => fail (.badGroupName name) (name.length + 1)
    | .ok value =>
      if value < 0 then fail (.badGroupName name) (name.length + 1)
      let number := value.toNat
      if number = 0 then fail .badGroupNumber (name.length + 1)
      if number ≥ maxGroups then fail (.invalidGroup number) (name.length + 1)
      let place := (← source).place - name.length - 1
      modify fun state =>
        if (state.conditions.lookup number).isSome then state
        else { state with conditions := state.conditions ++ [(number, place)] }
      return number

/-- Reads a reference to a group by name, after its equals sign. -/
def readNamedReference (options : Options) : Reader Node := do
  let name ← takeName ')' "group name"
  checkName name
  match (← get).groupNames.lookup name with
  | none => fail (.unknownGroupName name) (name.length + 1)
  | some number => readReference options number (name.length + 1)

/-- Reads the name of a group, after its opening bracket. -/
def readGroupName : Reader Text := do
  let name ← takeName '>' "group name"
  checkName name
  return name

/-- The circumstances in which a part of a pattern is read. -/
structure Scope where
  /-- The options of the group that the part is in. -/
  options : Options
  /-- Whether blanks and comments are skipped. -/
  verbose : Bool
  /-- Whether the part is in no group. -/
  outermost : Bool

mutual

/-- Reads alternatives up to a closing parenthesis or the end. -/
def readAlternatives (fuel : Nat) (scope : Scope) : Reader Node := do
  match fuel with
  | 0 => return .empty
  | fuel + 1 =>
    let first ← readSequence fuel scope scope.outermost []
    let rest ← readFurther fuel scope
    return .anyOf (first :: rest)

/-- Reads the alternatives after one that has been read. -/
def readFurther (fuel : Nat) (scope : Scope) : Reader (List Node) := do
  match fuel with
  | 0 => return []
  | fuel + 1 =>
    if ← accept '|' then
      let options := (← get).options
      let scope :=
        if scope.outermost then { scope with options := options, verbose := options.verbose }
        else scope
      let node ← readSequence fuel scope false []
      return node :: (← readFurther fuel scope)
    else return []

/-- Reads parts one after the other. Those read so far are given in reverse, and `first` says
whether options for the whole pattern may still come. -/
def readSequence (fuel : Nat) (scope : Scope) (first : Bool) (nodes : List Node) : Reader Node := do
  match fuel with
  | 0 => return Node.ofList nodes.reverse
  | fuel + 1 =>
    match ← peek with
    | none => return Node.ofList nodes.reverse
    | some (.escape letter) =>
      let _ ← take
      let node ← readEscape scope.options letter
      readSequence fuel scope first (node :: nodes)
    | some (.plain c) =>
      if c = '|' || c = ')' then return Node.ofList nodes.reverse
      let place := (← source).place
      let _ ← take
      if scope.verbose && isAsciiBlank c then readSequence fuel scope first nodes
      else if scope.verbose && c = '#' then
        skipLine ((← source).rest.length + 3)
        readSequence fuel scope first nodes
      else if c = '[' then
        let node ← readSet scope.options
        readSequence fuel scope first (node :: nodes)
      else if c = '?' then
        readSequence fuel scope first (← readLoop place 0 (some 1) nodes)
      else if c = '*' then
        readSequence fuel scope first (← readLoop place 0 none nodes)
      else if c = '+' then
        readSequence fuel scope first (← readLoop place 1 none nodes)
      else if c = '\x7b' then
        match ← readBounds? with
        | none =>
          readSequence fuel scope first (.char scope.options.folding c.toNat false :: nodes)
        | some (least, most) =>
          readSequence fuel scope first (← readLoop place least most nodes)
      else if c = '.' then
        readSequence fuel scope first (.any scope.options.dotAll :: nodes)
      else if c = '^' then
        let anchor := if scope.options.multiline then Anchor.lineStart else .textStart
        readSequence fuel scope first (.anchor anchor :: nodes)
      else if c = '$' then
        let anchor := if scope.options.multiline then Anchor.lineEnd else .lastLineEnd
        readSequence fuel scope first (.anchor anchor :: nodes)
      else if c = '(' then
        match ← readParenthesis fuel scope place (first && nodes.isEmpty) with
        | none =>
          let options := (← get).options
          let scope :=
            if scope.outermost && first && nodes.isEmpty then
              { scope with options := options, verbose := options.verbose }
            else scope
          readSequence fuel scope first nodes
        | some node => readSequence fuel scope first (node :: nodes)
      else
        readSequence fuel scope first (.char scope.options.folding c.toNat false :: nodes)

/-- Reads what a parenthesis at a place opens. There is no node for a comment and for options. -/
def readParenthesis (fuel : Nat) (scope : Scope) (start : Nat) (optionsAllowed : Bool) :
    Reader (Option Node) := do
  match fuel with
  | 0 => return none
  | fuel + 1 =>
    if !(← accept '?') then return some (← readGroup fuel scope start none)
    match ← take with
    | none => fail .unexpectedEnd
    | some token =>
      if token = .plain 'P' then
        if ← accept '<' then
          let name ← readGroupName
          return some (← readGroup fuel scope start (some name))
        else if ← accept '=' then return some (← readNamedReference scope.options)
        else
          match ← take with
          | none => fail .unexpectedEnd
          | some token =>
            fail (.unknownExtension ('?' :: 'P' :: token.text)) (token.text.length + 2)
      else if token = .plain ':' then
        return some (.group none (← readBody fuel scope start))
      else if token = .plain '#' then
        skipComment ((← source).rest.length + 3) start
        return none
      else if token = .plain '=' then
        return some (.ahead false (← readBody fuel scope start))
      else if token = .plain '!' then
        return some (.ahead true (← readBody fuel scope start))
      else if token = .plain '<' then return some (← readBehind fuel scope start)
      else if token = .plain '(' then return some (← readConditional fuel scope start)
      else if token = .plain '>' then
        return some (.atomic (← readBody fuel scope start))
      else if (optionOf? token).isSome || token = .plain 'L' || token = .plain '-' then
        match ← readOptions token with
        | none => if optionsAllowed then return none else failAt .lateOptions start
        | some (on, off) =>
          let inner : Scope :=
            ⟨scope.options.inside on off, (scope.verbose || on.verbose) && !off.verbose, false⟩
          return some (.group none (← readBody fuel inner start))
      else fail (.unknownExtension ('?' :: token.text)) (token.text.length + 1)

/-- Reads alternatives and the parenthesis that closes them. -/
def readBody (fuel : Nat) (scope : Scope) (start : Nat) : Reader Node := do
  match fuel with
  | 0 => return .empty
  | fuel + 1 =>
    let body ← readAlternatives fuel { scope with outermost := false }
    closeParenthesis start
    return body

/-- Reads a group that has a number. -/
def readGroup (fuel : Nat) (scope : Scope) (start : Nat) (name : Option Text) : Reader Node := do
  match fuel with
  | 0 => return .empty
  | fuel + 1 =>
    let number ← openGroup name
    let body ← readBody fuel scope start
    closeGroup number body
    return .group (some number) body

/-- Reads a look behind after its angle bracket. -/
def readBehind (fuel : Nat) (scope : Scope) (start : Nat) : Reader Node := do
  match fuel with
  | 0 => return .empty
  | fuel + 1 =>
    match ← take with
    | none => fail .unexpectedEnd
    | some token =>
      if token ≠ .plain '=' && token ≠ .plain '!' then
        fail (.unknownExtension ('?' :: '<' :: token.text)) (token.text.length + 2)
      let outer := (← get).behindGroups
      let count ← groupCount
      modify fun state => { state with behindGroups := some (outer.getD count) }
      let body ← readAlternatives fuel { scope with outermost := false }
      modify fun state => { state with behindGroups := outer }
      closeParenthesis start
      let (least, most) := body.width
      return .behind (token = .plain '!') least most body

/-- Reads a condition and its one or two branches. -/
def readConditional (fuel : Nat) (scope : Scope) (start : Nat) : Reader Node := do
  match fuel with
  | 0 => return .empty
  | fuel + 1 =>
    let number ← readCondition
    checkBehind number
    let inner := { scope with outermost := false }
    let yes ← readSequence fuel inner false []
    let no ←
      if ← accept '|' then
        let no ← readSequence fuel inner false []
        if (← source).at? '|' then fail .tooManyBranches
        pure no
      else pure .empty
    closeParenthesis start
    return .ifGroup number yes no

end

end Reader
end MailScreen.Pattern
