import MailScreen.Text.Case
import MailScreen.Text.Letter
import MailScreen.Text.Blank

/-!
# Patterns

The tree of a regular expression. Options that change what a part means are resolved when the tree
is built, so that each node says all there is to say about itself: a character test knows how it
ignores case, an anchor whether it looks at lines, and a look behind how far back it starts.
Characters are given by code points, so that a pattern may name code points that no text holds.
-/
namespace MailScreen.Pattern

/-- The options under which a part of a pattern is read. -/
structure Options where
  /-- Letters match in either case. -/
  ignoreCase : Bool := false
  /-- The anchors `^` and `$` look at lines. -/
  multiline : Bool := false
  /-- The dot matches line feeds too. -/
  dotAll : Bool := false
  /-- Blanks and comments in the pattern are skipped. -/
  verbose : Bool := false
  /-- Classes and case are those of ASCII. -/
  ascii : Bool := false
  /-- Classes and case are asked to be those of Unicode. -/
  unicode : Bool := false
  /-- Repetition is refused. -/
  template : Bool := false
  deriving DecidableEq, Repr

namespace Options

/-- The options that are on in either of two sets. -/
def union (a b : Options) : Options where
  ignoreCase := a.ignoreCase || b.ignoreCase
  multiline := a.multiline || b.multiline
  dotAll := a.dotAll || b.dotAll
  verbose := a.verbose || b.verbose
  ascii := a.ascii || b.ascii
  unicode := a.unicode || b.unicode
  template := a.template || b.template

/-- The options of a set that are not in another. -/
def without (a b : Options) : Options where
  ignoreCase := a.ignoreCase && !b.ignoreCase
  multiline := a.multiline && !b.multiline
  dotAll := a.dotAll && !b.dotAll
  verbose := a.verbose && !b.verbose
  ascii := a.ascii && !b.ascii
  unicode := a.unicode && !b.unicode
  template := a.template && !b.template

/-- The options inside a group that turns some on and some off. Turning on ASCII or Unicode turns
off the other. -/
def inside (outer on off : Options) : Options :=
  let outer :=
    if on.ascii || on.unicode then { outer with ascii := false, unicode := false } else outer
  (outer.union on).without off

/-- Whether two sets have an option in common. -/
def meets (a b : Options) : Bool :=
  (a.ignoreCase && b.ignoreCase) || (a.multiline && b.multiline) || (a.dotAll && b.dotAll) ||
    (a.verbose && b.verbose) || (a.ascii && b.ascii) || (a.unicode && b.unicode) ||
    (a.template && b.template)

/-- The option that a letter stands for. -/
def ofLetter? (c : Char) : Option Options :=
  if c = 'i' then some { ignoreCase := true }
  else if c = 'm' then some { multiline := true }
  else if c = 's' then some { dotAll := true }
  else if c = 'x' then some { verbose := true }
  else if c = 'a' then some { ascii := true }
  else if c = 'u' then some { unicode := true }
  else if c = 't' then some { template := true }
  else none

/-- The letters of the options that are on, of those that can be seen on a finished pattern. -/
def letters (o : Options) : Text :=
  (if o.ascii then ['a'] else []) ++ (if o.ignoreCase then ['i'] else []) ++
    (if o.multiline then ['m'] else []) ++ (if o.dotAll then ['s'] else []) ++
    (if o.verbose then ['x'] else [])

end Options

/-- How a character test ignores case. -/
inductive Folding where
  /-- It does not. -/
  | none
  /-- By the letters of ASCII. -/
  | ascii
  /-- By the case mappings of Unicode. -/
  | unicode
  deriving DecidableEq, Repr

/-- The folding under given options. -/
def Options.folding (o : Options) : Folding :=
  if !o.ignoreCase then .none else if o.ascii then .ascii else .unicode

/-- A class of characters that has a name. -/
inductive CharClass where
  /-- Decimal digits. -/
  | digit
  /-- Blanks. -/
  | blank
  /-- Word characters. -/
  | word
  deriving DecidableEq, Repr

/-- A member of a set of characters. -/
inductive SetItem where
  /-- One code point. -/
  | code (n : Nat)
  /-- All code points from one to another. -/
  | range (first last : Nat)
  /-- All code points in a class, or all that are not in it. -/
  | ofClass (c : CharClass) (negated : Bool)
  deriving DecidableEq, Repr

/-- A place that an anchor matches. -/
inductive Anchor where
  /-- The start of the text. -/
  | textStart
  /-- The start of a line. -/
  | lineStart
  /-- The end of the text. -/
  | textEnd
  /-- The end of the text, or a line feed that ends it. -/
  | lastLineEnd
  /-- The end of a line. -/
  | lineEnd
  /-- A place between a word character and another, or not such a place. -/
  | boundary (ascii negated : Bool)
  deriving DecidableEq, Repr

/-- Which number of repetitions is tried first. -/
inductive Greed where
  /-- As many as possible. -/
  | greedy
  /-- As few as possible. -/
  | lazy
  /-- As many as possible, and no fewer after that. -/
  | possessive
  deriving DecidableEq, Repr

/-- The tree of a regular expression. -/
inductive Node where
  /-- Nothing. -/
  | empty
  /-- One character: this one, or any but this one. -/
  | char (folding : Folding) (code : Nat) (negated : Bool)
  /-- One character of a set, or one that is not in it. -/
  | set (folding : Folding) (ascii negated : Bool) (items : List SetItem)
  /-- Any character, line feeds among them or not. -/
  | any (lineFeeds : Bool)
  /-- A place. -/
  | anchor (a : Anchor)
  /-- One part and then another. -/
  | cat (first second : Node)
  /-- One part, or else another. -/
  | alt (first second : Node)
  /-- A group, which may have a number. -/
  | group (number : Option Nat) (body : Node)
  /-- A part at least `least` and at most `most` times. -/
  | loop (greed : Greed) (least : Nat) (most : Option Nat) (body : Node)
  /-- A part, of whose ways to match only the first counts. -/
  | atomic (body : Node)
  /-- A part that has to match from here on without being consumed, or must not. -/
  | ahead (negated : Bool) (body : Node)
  /-- A part that has to match before here, or must not. Its width is between two numbers. -/
  | behind (negated : Bool) (least most : Nat) (body : Node)
  /-- The text that a group has matched. -/
  | backref (folding : Folding) (number least most : Nat)
  /-- One part if a group has matched, or else another. -/
  | ifGroup (number : Nat) (yes no : Node)
  deriving DecidableEq, Repr

/-- The greatest width that is told apart from larger ones. -/
def maxWidth : Nat := Nat.pow 2 64

/-- The least and the greatest width of what a pattern matches. -/
def Node.width : Node → Nat × Nat
  | empty | anchor _ | ahead .. | behind .. => (0, 0)
  | char .. | set .. | any _ => (1, 1)
  | cat a b =>
    let (least, most) := a.width
    let (least', most') := b.width
    (min (least + least') maxWidth, min (most + most') maxWidth)
  | alt a b =>
    let (least, most) := a.width
    let (least', most') := b.width
    (min least least', max most most')
  | group _ body | atomic body => body.width
  | loop _ times most? body =>
    let (least, most) := body.width
    (min (least * times) maxWidth,
      match most? with
      | some n => min (most * n) maxWidth
      | none => if most = 0 then 0 else maxWidth)
  | backref _ _ least most => (least, most)
  | ifGroup _ yes no =>
    let (least, most) := yes.width
    let (least', most') := no.width
    (min least least', max most most')

/-- The parts of a list one after the other. -/
def Node.ofList : List Node → Node
  | [] => .empty
  | [node] => node
  | node :: rest => .cat node (ofList rest)

/-- One of the parts of a list, tried in order. -/
def Node.anyOf : List Node → Node
  | [] => .empty
  | [node] => node
  | node :: rest => .alt node (anyOf rest)

end MailScreen.Pattern
