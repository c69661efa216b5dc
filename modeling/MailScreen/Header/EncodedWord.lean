import MailScreen.Charset.Coding
import MailScreen.Header.Parameter
import MailScreen.Noted

/-!
# Encoded words

An encoded word writes text of any charset in ASCII: a charset, the letter of a transfer encoding
and the encoded octets, between question marks. Each word is decoded on its own, and one that
cannot be decoded is left as it is. Blanks between two encoded words are dropped.
-/
namespace MailScreen

/-- An encoded word. -/
structure EncodedWord where
  /-- The name of the charset. -/
  charset : Text
  /-- The letter of the transfer encoding: B or Q, in either case. -/
  encoding : Char
  /-- The encoded octets. -/
  body : Text
  deriving DecidableEq, Repr

/-- Why an encoded word cannot be decoded. -/
inductive EncodedWordFault where
  /-- The body is not well-formed base 64. -/
  | base64
  /-- The octets cannot be read in the charset. -/
  | charset (fault : CharsetFault)
  deriving DecidableEq, Repr

/-- The wording of a fault. -/
def EncodedWordFault.message : EncodedWordFault → String
  | base64 => "Base64 decoding error"
  | charset fault => fault.message

namespace EncodedWord

/-- The word as it is written. -/
def written (word : EncodedWord) : Text :=
  "=?".toList ++ word.charset ++ ['?', word.encoding, '?'] ++ word.body ++ "?=".toList

/-- The characters that the charset and the body may have. -/
def isBodyChar (c : Char) : Bool := c ≠ '?' && !isBlank c

/-- The encoded word that a text starts with, and what is left after it. -/
def take? (t : Text) : Option (EncodedWord × Text) :=
  match t with
  | '=' :: '?' :: rest =>
    let charset := rest.takeWhile isBodyChar
    match rest.dropWhile isBodyChar with
    | '?' :: encoding :: '?' :: rest =>
      let body := rest.takeWhile isBodyChar
      match rest.dropWhile isBodyChar with
      | '?' :: '=' :: rest =>
        if charset.isEmpty || !(['B', 'b', 'Q', 'q'].contains encoding) then none
        else some (⟨charset, encoding, body⟩, rest)
      | _ => none
    | _ => none
  | _ => none

/-- Replaces the low lines of a body in Q encoding by spaces and its codes by characters. -/
def decodeQuoted : Text → Text
  | [] => []
  | '=' :: h :: l :: rest =>
    match hexPair? h.toNat l.toNat with
    | some n => Char.ofNat n :: decodeQuoted rest
    | none => '=' :: decodeQuoted (h :: l :: rest)
  | c :: rest => (if c = '_' then ' ' else c) :: decodeQuoted rest

/-- A body in B encoding, padded to a multiple of four characters. -/
def padded (body : Text) : Text := body ++ List.replicate ((4 - body.length % 4) % 4) '='

/-- The octets that a word encodes. -/
def octets (word : EncodedWord) : Except EncodedWordFault Octets :=
  if word.encoding.toLower = 'q' then .ok (Escape.encodeRaw (decodeQuoted word.body))
  else
    match Base64.decode? (Escape.encodeRaw (padded word.body)) with
    | some bytes => .ok bytes
    | none => .error .base64

/-- The text that a word encodes. -/
def decode (word : EncodedWord) : Except EncodedWordFault Text := do
  let bytes ← word.octets
  (decodeNamed (Text.lower word.charset) bytes).mapError .charset

/-- The text of a word: what it encodes, or else the word itself. -/
def text {ε : Type} (word : EncodedWord) : Noted ε Text :=
  match word.decode with
  | .ok t => pure t
  | .error fault => do
    Noted.debug
      s!"Leaving encoded word {String.ofList word.written} undecoded: {fault.message}"
    pure word.written

/-- A stretch of a text that may hold encoded words. -/
inductive Piece where
  /-- Text between encoded words. -/
  | plain (t : Text)
  /-- An encoded word. -/
  | word (w : EncodedWord)
  deriving DecidableEq, Repr

theorem length_take?_lt {t rest : Text} {word : EncodedWord} (h : take? t = some (word, rest)) :
    rest.length < t.length := by
  unfold take? at h
  split at h
  · rename_i r
    have h1 : (r.dropWhile isBodyChar).length ≤ r.length := (List.dropWhile_sublist _).length_le
    dsimp only at h
    split at h
    · rename_i e r' hr
      have h2 : (r'.dropWhile isBodyChar).length ≤ r'.length :=
        (List.dropWhile_sublist _).length_le
      split at h
      · rename_i r'' hr'
        split at h
        · simp at h
        · simp only [Option.some.injEq, Prod.mk.injEq] at h
          rw [← h.2]
          simp_all
          omega
      · simp at h
    · simp at h
  · simp at h

/-- The pieces of a text, with `plain` the characters since the last word in reverse. The text
between two words is a piece even if it is empty. -/
def piecesFrom (plain : Text) (t : Text) : List Piece :=
  match t with
  | [] => [.plain plain.reverse]
  | c :: rest =>
    match _h : take? (c :: rest) with
    | some (word, left) => .plain plain.reverse :: .word word :: piecesFrom [] left
    | none => piecesFrom (c :: plain) rest
termination_by t.length
decreasing_by
  · have := length_take?_lt _h
    simp_all
  · simp

/-- The pieces of a text: plain text and encoded words in turn. -/
def pieces (t : Text) : List Piece := piecesFrom [] t

/-- Decodes pieces after an encoded word: blanks that another word follows are dropped. -/
def decodeAfterWord {ε : Type} : List Piece → Noted ε Text
  | [] => pure []
  | [.plain t] => pure t
  | .plain t :: rest => do
    let left ← decodeAfterWord rest
    pure (if Text.isAllBlank t then left else t ++ left)
  | .word word :: rest => do
    let t ← word.text
    let left ← decodeAfterWord rest
    pure (t ++ left)

/-- A text with its encoded words decoded. -/
def decodeAll {ε : Type} (t : Text) : Noted ε Text :=
  match pieces t with
  | .plain first :: rest => do
    let left ← decodeAfterWord rest
    pure (first ++ left)
  | rest => decodeAfterWord rest

/-- Whether a text holds an encoded word. -/
def occursIn (t : Text) : Bool :=
  (pieces t).any fun piece =>
    match piece with
    | .word _ => true
    | .plain _ => false

end EncodedWord
end MailScreen
