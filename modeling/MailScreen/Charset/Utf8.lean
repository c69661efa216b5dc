import MailScreen.Charset.Bytes

/-!
# UTF-8

The encoding form of one to four octets. Decoding cuts the octets into pieces: a well-formed
sequence is a character, and an ill-formed piece is as long as the longest beginning of a
well-formed sequence that stands there, or one octet. A strict reader refuses a text with an
ill-formed piece, a lenient one puts the replacement character in its place.
-/
namespace MailScreen.Utf8

/-- The octets of a character. -/
def encodeChar (c : Char) : Octets :=
  let n := c.toNat
  if n < 0x80 then [octet n]
  else if n < 0x800 then [octet (0xC0 + n / 64), octet (0x80 + n % 64)]
  else if n < 0x10000 then
    [octet (0xE0 + n / 4096), octet (0x80 + n / 64 % 64), octet (0x80 + n % 64)]
  else
    [octet (0xF0 + n / 262144), octet (0x80 + n / 4096 % 64), octet (0x80 + n / 64 % 64),
      octet (0x80 + n % 64)]

/-- The octets of a text. -/
def encode (t : Text) : Octets := t.flatMap encodeChar

/-- What stands before the next octet. -/
inductive Pending where
  /-- Nothing: the next octet starts a character. -/
  | none
  /-- A character that still needs `owed + 1` octets, the next of which lies between `low` and
  `high`; `value` is what its octets so far amount to. -/
  | tail (owed low high value : Nat)
  deriving DecidableEq, Repr

/-- The piece that an octet completes, if any, and what is pending after it, when the octet starts
a character. A piece is a character, or `none` for an octet out of place. -/
def start (n : Nat) : List (Option Char) × Pending :=
  if n < 0x80 then ([some (Char.ofNat n)], .none)
  else if n < 0xC2 then ([none], .none)
  else if n < 0xE0 then ([], .tail 0 0x80 0xBF (n - 0xC0))
  else if n < 0xF0 then
    ([], .tail 1 (if n = 0xE0 then 0xA0 else 0x80) (if n = 0xED then 0x9F else 0xBF) (n - 0xE0))
  else if n < 0xF5 then
    ([], .tail 2 (if n = 0xF0 then 0x90 else 0x80) (if n = 0xF4 then 0x8F else 0xBF) (n - 0xF0))
  else ([none], .none)

/-- The pieces of a list of octets with something pending before it. -/
def piecesAfter : Pending → Octets → List (Option Char)
  | .none, [] => []
  | .tail .., [] => [none]
  | .none, b :: rest =>
    let (piece, next) := start b.toNat
    piece ++ piecesAfter next rest
  | .tail owed low high value, b :: rest =>
    let n := b.toNat
    if low ≤ n && n ≤ high then
      let value := value * 64 + (n - 0x80)
      match owed with
      | 0 => some (Char.ofNat value) :: piecesAfter .none rest
      | owed + 1 => piecesAfter (.tail owed 0x80 0xBF value) rest
    else
      let (piece, next) := start n
      none :: piece ++ piecesAfter next rest

/-- The pieces of a list of octets: characters, and `none` for each ill-formed piece. -/
def pieces (bytes : Octets) : List (Option Char) := piecesAfter .none bytes

/-- The text that the octets encode, if they are well formed. -/
def decode? (bytes : Octets) : Option Text := (pieces bytes).mapM id

/-- The text that the octets encode, with the replacement character for ill-formed pieces. -/
def decode (bytes : Octets) : Text := (pieces bytes).map fun piece => piece.getD replacementChar

/-- The mark that a signed UTF-8 text starts with. -/
def signature : Octets := [0xEF, 0xBB, 0xBF]

/-- The octets after the signature, if there is one. -/
def dropSignature : Octets → Octets
  | 0xEF :: 0xBB :: 0xBF :: rest => rest
  | bytes => bytes

end MailScreen.Utf8
