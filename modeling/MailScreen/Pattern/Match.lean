import MailScreen.Pattern.Start

/-!
# Matching

A part of a pattern is matched from a place in a text, and what follows it is given as a function of
the place where it ends. The ways to match are tried in the order in which the pattern ranks them,
and the first for which what follows succeeds is the match. This makes alternatives, repetitions and
what comes after them backtrack into each other without a stack of their own.

A repetition goes on beyond its least number only if the place has moved since its last round
started, which is why it ends.
-/
namespace MailScreen.Pattern

/-- A place in a text, with what the groups have matched on the way to it. -/
structure Place where
  /-- How many characters come before the place. -/
  offset : Nat
  /-- The characters before the place, nearest first. -/
  before : Text
  /-- The characters after the place. -/
  rest : Text
  /-- Where groups started, the latest first. -/
  starts : List (Nat × Nat) := []
  /-- Where groups ended, the latest first. -/
  ends : List (Nat × Nat) := []

namespace Place

/-- The place before a text. -/
def start (t : Text) : Place := ⟨0, [], t, [], []⟩

/-- The place after the next character, if it passes a test. -/
def step? (p : Place) (test : Char → Bool) : Option Place :=
  match p.rest with
  | [] => none
  | c :: rest =>
    if test c then some { p with offset := p.offset + 1, before := c :: p.before, rest := rest }
    else none

/-- The place `count` characters before another, if there are as many. -/
def back? (count : Nat) (p : Place) : Option Place :=
  match count with
  | 0 => some p
  | count + 1 =>
    match p.before with
    | [] => none
    | c :: before =>
      back? count { p with offset := p.offset - 1, before := before, rest := c :: p.rest }

/-- The text that a group matched last, if it has matched. -/
def captured? (p : Place) (number : Nat) : Option Text :=
  match p.starts.lookup number, p.ends.lookup number with
  | some first, some last =>
    if last < first then none
    else some (((p.before.reverse ++ p.rest).drop first).take (last - first))
  | _, _ => none

/-- Whether an anchor matches at a place. -/
def holds (p : Place) : Anchor → Bool
  | .textStart => p.before.isEmpty
  | .lineStart => p.before.isEmpty || p.before.head? == some '\n'
  | .textEnd => p.rest.isEmpty
  | .lastLineEnd => p.rest.isEmpty || p.rest == ['\n']
  | .lineEnd => p.rest.isEmpty || p.rest.head? == some '\n'
  | .boundary ascii negated =>
    let isWordAt (c : Option Char) := (c.map fun c => CharClass.word.has ascii c.toNat).getD false
    !(p.before.isEmpty && p.rest.isEmpty) &&
      (isWordAt p.before.head? != isWordAt p.rest.head?) != negated

end Place

/-- What is done at the place where a part of a pattern ends. -/
abbrev Continue := Place → Option Place

/-- A way to match a part of a pattern. -/
abbrev Matcher := Place → Continue → Option Place

/-- Matches a part `count` times. -/
def exactly (body : Matcher) (count : Nat) : Matcher := fun p k =>
  match count with
  | 0 => k p
  | count + 1 => body p fun p => exactly body count p k

/-- Whether one more round may be tried: there may be more, and the last one, which started at
`last`, has moved. -/
def mayRepeat (most : Option Nat) (last : Option Nat) (p : Place) : Bool :=
  most != some 0 && last != some p.offset

/-- Matches a part as often as possible, at most `most` times. -/
def greedily (body : Matcher) (fuel : Nat) (most last : Option Nat) : Matcher := fun p k =>
  match fuel with
  | 0 => k p
  | fuel + 1 =>
    if mayRepeat most last p then
      (body p fun q => greedily body fuel (most.map (· - 1)) (some p.offset) q k) <|> k p
    else k p

/-- Matches a part as seldom as possible, at most `most` times. -/
def lazily (body : Matcher) (fuel : Nat) (most last : Option Nat) : Matcher := fun p k =>
  match fuel with
  | 0 => k p
  | fuel + 1 =>
    k p <|>
      if mayRepeat most last p then
        body p fun q => lazily body fuel (most.map (· - 1)) (some p.offset) q k
      else none

/-- The place after as many rounds of a part as possible, at most `most`, each in its first way. -/
def rounds (body : Matcher) (fuel : Nat) (most last : Option Nat) (p : Place) : Place :=
  match fuel with
  | 0 => p
  | fuel + 1 =>
    if mayRepeat most last p then
      match body p some with
      | some q => rounds body fuel (most.map (· - 1)) (some p.offset) q
      | none => p
    else p

/-- The place after `count` rounds of a part, each in its first way. -/
def exactRounds (body : Matcher) (count : Nat) (p : Place) : Option Place :=
  match count with
  | 0 => some p
  | count + 1 => (body p some).bind (exactRounds body count)

/-- Matches a part at least `least` and at most `most` times. -/
def repeated (greed : Greed) (least : Nat) (most : Option Nat) (body : Matcher) : Matcher :=
  fun p k =>
    let more := most.map (· - least)
    match greed with
    | .greedy => exactly body least p fun q => greedily body (q.rest.length + 2) more none q k
    | .lazy => exactly body least p fun q => lazily body (q.rest.length + 2) more none q k
    | .possessive =>
      (exactRounds body least p).bind fun q => k (rounds body (q.rest.length + 2) more none q)

/-- Matches a text, character by character. -/
def matchText (folding : Folding) (t : Text) (p : Place) : Option Place :=
  match t with
  | [] => some p
  | c :: t =>
    (p.step? fun d => folding.lower c.toNat == folding.lower d.toNat).bind (matchText folding t)

/-- The way to match a pattern. -/
def Node.matcher : Node → Matcher
  | empty => fun p k => k p
  | char folding code negated => fun p k =>
    (p.step? fun c => sameChar folding code c.toNat != negated).bind k
  | set folding ascii negated items => fun p k =>
    (p.step? fun c => setHas folding ascii items c.toNat != negated).bind k
  | any lineFeeds => fun p k => (p.step? fun c => lineFeeds || c != '\n').bind k
  | anchor a => fun p k => if p.holds a then k p else none
  | cat first second => fun p k => first.matcher p fun q => second.matcher q k
  | alt first second => fun p k => first.matcher p k <|> second.matcher p k
  | group none body => body.matcher
  | group (some number) body => fun p k =>
    body.matcher { p with starts := (number, p.offset) :: p.starts } fun q =>
      k { q with ends := (number, q.offset) :: q.ends }
  | loop greed least most body => repeated greed least most body.matcher
  | atomic body => fun p k => (body.matcher p some).bind k
  | ahead negated body => fun p k =>
    match body.matcher p some with
    | some q => if negated then none else k { p with starts := q.starts, ends := q.ends }
    | none => if negated then k p else none
  | behind negated width _ body => fun p k =>
    match (p.back? width).bind fun q => body.matcher q some with
    | some q => if negated then none else k { p with starts := q.starts, ends := q.ends }
    | none => if negated then k p else none
  | backref folding number _ _ => fun p k =>
    match p.captured? number with
    | some t => (matchText folding t p).bind k
    | none => none
  | ifGroup number yes no => fun p k =>
    if (p.captured? number).isSome then yes.matcher p k else no.matcher p k

/-- Whether a pattern matches at a place or somewhere after it, where the next character allows
it. -/
def Node.occursFrom (node : Node) (mayStart : Option Char → Bool) (offset : Nat)
    (before rest : Text) : Bool :=
  (mayStart rest.head? && (node.matcher ⟨offset, before, rest, [], []⟩ some).isSome) ||
    match rest with
    | [] => false
    | c :: rest => node.occursFrom mayStart (offset + 1) (c :: before) rest

/-- Whether a pattern matches somewhere in a text under the options of the whole pattern. -/
def Node.occursIn (node : Node) (options : Options) (t : Text) : Bool :=
  node.occursFrom (node.mayStart options) 0 [] t

end MailScreen.Pattern
