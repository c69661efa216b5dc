import MailScreen.Pattern.CaseVariant

/-!
# Where a match may start

A pattern that starts with a set of characters matches only where the next character is in that set.
The set is then looked up under the options of the whole pattern as well as under those of the group
that it stands in, so a class that the group widens or narrows has to have the character both ways.
-/
namespace MailScreen.Pattern

/-- A set that a pattern starts with. -/
structure StartSet where
  /-- How the set ignores case. -/
  folding : Folding
  /-- Whether its classes are those of ASCII. -/
  ascii : Bool
  /-- Whether the characters outside it are meant. -/
  negated : Bool
  /-- Its members. -/
  items : List SetItem
  deriving DecidableEq, Repr

namespace Node

/-- Whether a part is written without any characters of its own. -/
def isNothing : Node → Bool
  | empty => true
  | group none body => body.isNothing
  | _ => false

/-- The parts of an alternative. -/
def alternatives : Node → List Node
  | alt first second => first :: second.alternatives
  | node => [node]

/-- The first part of a sequence. -/
def firstPart : Node → Node
  | cat first _ => first
  | node => node

/-- A part that is one set of characters. -/
def wholeSet? : Node → Option StartSet
  | set folding ascii negated items => some ⟨folding, ascii, negated, items⟩
  | _ => none

/-- The members of a part that is one character or one set and not negated. -/
def members? : Node → Option (List SetItem)
  | char _ code false => some [.code code]
  | set _ _ false items => some items
  | _ => none

/-- The set that alternatives start with: one that they all start with, or else all their members if
each is one character or one set. -/
def commonSet? (parts : List Node) : Option StartSet :=
  match parts.map firstPart with
  | [] => none
  | first :: rest =>
    if rest.all (· = first) then first.wholeSet?
    else do
      let members ← parts.mapM members?
      let one ← parts.findSome? wholeSet?
      return { one with items := members.flatten }

/-- The set that a pattern starts with, if it does. -/
def startSet? : Node → Option StartSet
  | set folding ascii negated items => some ⟨folding, ascii, negated, items⟩
  | cat first second => if first.isNothing then second.startSet? else first.startSet?
  | group _ body => body.startSet?
  | alt first second => commonSet? (first :: second.alternatives)
  | _ => none

end Node

/-- Whether a member is the same however case is ignored. -/
def SetItem.isCaseless (folding : Folding) : SetItem → Bool
  | code n => !folding.changes n
  | range first last =>
    folding = .none || (last < firstSupplementary && !folding.changesIn first last)
  | ofClass .. => true

/-- Whether a match may start before a character under the options of the whole pattern. -/
def Node.mayStart (node : Node) (options : Options) (next : Option Char) : Bool :=
  match node.startSet? with
  | none => true
  | some start =>
    if start.ascii = options.ascii || node.width.1 = 0 ||
        !start.items.all (SetItem.isCaseless start.folding) then true
    else
      match next with
      | none => false
      | some c => setHas .none options.ascii start.items c.toNat != start.negated

end MailScreen.Pattern
