import MailScreen.Charset.Coding
import MailScreen.Header.EncodedWord
import MailScreen.Message.Held

/-!
# Lexemes of the header that shapes a message

The type header that says how a message is built up is read by the rules of mail in full: blanks and
nested comments between its words, quotation with escapes, and encoded words inside quotation marks.
Each reader returns what it read as it is shown when the header is written out again, and what is
left. A comment or a quotation that is not closed runs to the end and is closed when shown.
-/
namespace MailScreen.Lexeme

/-- The special characters of mail headers. -/
def specials : List Char := ['(', ')', '<', '>', '@', ',', ':', ';', '.', '\\', '"', '[', ']']

/-- The special characters that end a phrase. -/
def endsPhrase (c : Char) : Bool := specials.contains c && c != '.' && c != '"' && c != '('

/-- The characters that end an atom. -/
def endsAtom (c : Char) : Bool := specials.contains c || isSpaceOrTab c

/-- The characters that end a token. -/
def endsToken (c : Char) : Bool :=
  (specials.contains c && c != '.') || c == '/' || c == '?' || c == '=' || isSpaceOrTab c

/-- The characters that end the value of an extended parameter. -/
def endsExtendedText (c : Char) : Bool := endsToken c || c == '*' || c == '\''

/-- The characters that end the name of a parameter. -/
def endsAttribute (c : Char) : Bool := endsExtendedText c || c == '%'

/-- The nonempty run of characters before the first of a class, and what is left. -/
def run? (ends : Char → Bool) (t : Text) : Option (Text × Text) :=
  let found := t.takeWhile fun c => !ends c
  if found.isEmpty then none else some (found, t.dropWhile fun c => !ends c)

/-! ## Blanks and comments -/

/-- A character of a comment as it is shown. -/
def showInComment (c : Char) : Text := if c = '\\' || c = '(' || c = ')' then ['\\', c] else [c]

/-- Reads blanks and comments when `depth` comments are open; `inBlanks` says that a space or tab
has started a run of blanks. -/
def commentsAt : Nat → Bool → Text → Text × Text
  | depth, _, [] => (List.replicate depth ')', [])
  | 0, inBlanks, c :: rest =>
    if isSpaceOrTab c || (inBlanks && isBlank c) then
      let (shown, left) := commentsAt 0 true rest
      (c :: shown, left)
    else if c = '(' then
      let (shown, left) := commentsAt 1 false rest
      (c :: shown, left)
    else ([], c :: rest)
  | depth + 1, _, ['\\'] => (List.replicate (depth + 1) ')', [])
  | depth + 1, _, '\\' :: c :: rest =>
    let (shown, left) := commentsAt (depth + 1) false rest
    ((if isSpaceOrTab c then [c] else showInComment c) ++ shown, left)
  | depth + 1, _, c :: rest =>
    if c = '(' then
      let (shown, left) := commentsAt (depth + 2) false rest
      (c :: shown, left)
    else if c = ')' then
      let (shown, left) := commentsAt depth false rest
      (c :: shown, left)
    else
      let (shown, left) := commentsAt (depth + 1) false rest
      (c :: shown, left)

/-- The blanks and comments that a text starts with, and what is left. -/
def comments (t : Text) : Text × Text := commentsAt 0 false t

/-- What is left after the blanks and comments that a text starts with. -/
def afterComments (t : Text) : Text := (comments t).2

/-! ## Encoded words -/

/-- Whether octets are base 64 without faults. -/
def isStrictBase64 (bytes : Octets) : Bool :=
  let core := bytes.takeWhile fun b => (Base64.value? b.toNat).isSome
  let pads := bytes.drop core.length
  pads.all (· == 0x3D) &&
    ((core.length % 4 = 0 && pads.isEmpty) ||
      (core.length % 4 ≥ 2 && (core.length + pads.length) % 4 = 0 && pads.length ≤ 2))

/-- The octets of a body in B encoding, faults of padding mended and what cannot be read left as it
is. -/
def decodeBase64 (bytes : Octets) : Octets :=
  let padded := bytes ++ List.replicate ((4 - bytes.length % 4) % 4) 0x3D
  if isStrictBase64 padded then (Base64.decode? padded).getD bytes
  else
    match Base64.decode? bytes with
    | some decoded => decoded
    | none => (Base64.decode? (bytes ++ [0x3D, 0x3D])).getD bytes

/-- The text of octets in a charset. Octets are held if the charset is one that extends ASCII in no
way of its own, or is not known. -/
def decodeHeld (label : Text) (bytes : Octets) : Except CharsetFault Text :=
  if label.contains '\x00' then .error .nulInName
  else if bytes.isEmpty then .ok []
  else
    match findCharset? label with
    | none => .ok (Held.ofOctets bytes)
    | some entry =>
      match entry.charset with
      | .ascii | .utf8 | .transform => .ok (Held.ofOctets bytes)
      | .domainLabels | .punycode =>
        .error (.refused label true "Unsupported error handling surrogateescape")
      | charset => charset.decode label bytes

/-- The text of an encoded word given by what stands between its outer question marks. -/
def decodeWord? (inner : Text) : Option Text :=
  match List.splitOn '?' inner with
  | [charset, encoding, body] =>
    let label := charset.takeWhile (· ≠ '*')
    if body.any fun c => 0x80 ≤ c.toNat && (Held.octet? c).isNone then none
    else
      let bytes := Held.toOctets body
      let decoded? : Option Octets :=
        if encoding = ['q'] || encoding = ['Q'] then
          some ((EncodedWord.decodeQuoted (Octets.toLatin1 bytes)).map fun c => octet c.toNat)
        else if encoding = ['b'] || encoding = ['B'] then some (decodeBase64 bytes)
        else none
      decoded?.bind fun decoded => (decodeHeld label decoded).toOption
  | _ => none

/-- What stands before and after the first `?=`. -/
def cutAtClose? : Text → Option (Text × Text)
  | '?' :: '=' :: rest => some ([], rest)
  | [] => none
  | c :: rest => (cutAtClose? rest).map fun (before, after) => (c :: before, after)

/-- Whether a text starts with two hexadecimal digits. -/
def startsWithHexPair : Text → Bool
  | h :: l :: _ => (hexPair? h.toNat l.toNat).isSome
  | _ => false

/-- The encoded word that a text starts with, decoded. The `?=` that ends the letter of the encoding
does not end the word if a code of two digits follows. -/
def encodedWord? : Text → Option (Text × Text)
  | '=' :: '?' :: rest =>
    match cutAtClose? rest with
    | none => none
    | some (inner, left) =>
      let (inner, left) :=
        if startsWithHexPair left && inner.count '?' < 2 then
          match cutAtClose? left with
          | some (more, left) => (inner ++ "?=".toList ++ more, left)
          | none => (inner ++ "?=".toList ++ left, [])
        else (inner, left)
      (decodeWord? inner).map fun shown => (shown, left)
  | _ => none

/-! ## Quotation -/

/-- Reads a run of quoted characters up to a space, tab or quotation mark. A backslash before a
space or tab is dropped. -/
def quotedRun : Text → Text × Text
  | [] => ([], [])
  | ['\\'] => ([], [])
  | '\\' :: c :: rest =>
    if isSpaceOrTab c then ([], c :: rest)
    else
      let (shown, left) := quotedRun rest
      (c :: shown, left)
  | c :: rest =>
    if isSpaceOrTab c || c = '"' then ([], c :: rest)
    else
      let (shown, left) := quotedRun rest
      (c :: shown, left)

/-- What was read last inside a quotation, as far as the next piece depends on it. -/
inductive LastQuoted where
  /-- An encoded word. -/
  | word
  /-- Blanks after an encoded word; they are not shown if another one follows. -/
  | blanksAfterWord (blanks : Text)
  /-- Anything else. -/
  | other
  deriving DecidableEq, Repr

/-- The blanks that are due to be shown. -/
def LastQuoted.due : LastQuoted → Text
  | blanksAfterWord blanks => blanks
  | _ => []

/-- Reads the pieces of a quotation up to its closing mark, in at most `steps` pieces. -/
def quotedPieces (steps : Nat) (last : LastQuoted) (t : Text) : Text × Text :=
  match steps, t with
  | 0, _ => (last.due, t)
  | _, [] => (last.due, [])
  | steps + 1, c :: rest =>
    if c = '"' then (last.due, rest)
    else if isSpaceOrTab c then
      let blanks := (c :: rest).takeWhile isBlank
      let left := (c :: rest).dropWhile isBlank
      if last = .word then quotedPieces steps (.blanksAfterWord blanks) left
      else
        let (shown, left) := quotedPieces steps .other left
        (last.due ++ blanks ++ shown, left)
    else
      match encodedWord? (c :: rest) with
      | some (word, left) =>
        let (shown, left) := quotedPieces steps .word left
        (word ++ shown, left)
      | none =>
        let (piece, left) := quotedRun (c :: rest)
        let (shown, left) := quotedPieces steps .other left
        (last.due ++ piece ++ shown, left)

/-- Reads what follows an opening quotation mark: the text meant, and what is left. -/
def quotation (t : Text) : Text × Text := quotedPieces (t.length + 1) .other t

/-- A text in quotation marks. -/
def showQuoted (t : Text) : Text :=
  '"' :: t.flatMap (fun c => if c = '"' || c = '\\' then ['\\', c] else [c]) ++ ['"']

/-! ## Words -/

/-- Reads a token with the blanks and comments around it. -/
def token? (t : Text) : Option (Text × Text) := do
  let (before, t) := comments t
  let (body, t) ← run? endsToken t
  let (after, t) := comments t
  return (before ++ body ++ after, t)

/-- Reads a word: a quotation, an encoded word or an atom, with the blanks and comments around
it. -/
def word? (t : Text) : Option (Text × Text) :=
  let (before, t) := comments t
  match t with
  | [] => none
  | c :: rest =>
    let body? : Option (Text × Text) :=
      if c = '"' then
        let (meant, left) := quotation rest
        some (showQuoted meant, left)
      else if specials.contains c then none
      else (encodedWord? (c :: rest)).or (run? endsAtom (c :: rest))
    body?.map fun (body, left) =>
      let (after, left) := comments left
      (before ++ body ++ after, left)

/-- Reads text of no known form up to a semicolon, in at most `steps` pieces. -/
def junkPieces (steps : Nat) (t : Text) : Text × Text :=
  match steps, t with
  | 0, _ => ([], t)
  | _, [] => ([], [])
  | steps + 1, c :: rest =>
    if c = ';' then ([], c :: rest)
    else
      let (piece, left) :=
        if endsPhrase c || c = '.' then ([c], rest)
        else (word? (c :: rest)).getD (comments (c :: rest))
      let (shown, left) := junkPieces steps left
      (piece ++ shown, left)

/-- Reads text of no known form up to a semicolon. -/
def junk (t : Text) : Text × Text := junkPieces (t.length + 1) t

end MailScreen.Lexeme
