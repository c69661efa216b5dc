import MailScreen.Charset.Bytes

/-!
# Single-octet charsets

A set of at most 256 characters, given as a string in the order of their octets. The replacement
character stands for an octet without a character.
-/
namespace MailScreen

namespace CharsetTable

/-- The 256 characters of a set, whose lower half is ASCII if only an upper half is given. -/
def full (characters : String) : Text :=
  let given := characters.toList
  if given.length = 128 then (List.range 128).map Char.ofNat ++ given else given

/-- The last place of a character in a list of characters that starts at `place`. -/
def lastPlace (c : Char) (place : Nat) : Text → Option Nat
  | [] => none
  | d :: rest => lastPlace c (place + 1) rest <|> if c = d then some place else none

/-- The text that octets encode in a set. -/
def decode (characters : String) (bytes : Octets) : Text :=
  let table := full characters
  bytes.map fun b => table.getD b.toNat replacementChar

/-- The octets of a text in a set, with those of a question mark for characters it lacks. -/
def encode (characters : String) (t : Text) : Octets :=
  let table := full characters
  let place? (c : Char) := if c = replacementChar then none else lastPlace c 0 table
  t.map fun c => octet (((place? c) <|> (place? '?')).getD 0x3F)

end CharsetTable

end MailScreen
