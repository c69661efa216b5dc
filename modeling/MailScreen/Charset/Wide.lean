import MailScreen.Charset.Bytes

/-!
# UTF-16 and UTF-32

The encoding forms of two and four octets to a unit. Without a stated octet order a text may start
with a byte order mark, and the little-endian order is taken if it does not; what is written then
starts with the mark. Surrogates that do not form a pair, numbers that are no code points, and what
is left over at the end each become one replacement character.
-/
namespace MailScreen

/-- Which octet of a unit comes first. -/
inductive OctetOrder where
  /-- The least significant octet comes first. -/
  | little
  /-- The most significant octet comes first. -/
  | big
  deriving DecidableEq, Repr

namespace OctetOrder

/-- The number that two octets make. -/
def pair : OctetOrder → UInt8 → UInt8 → Nat
  | little, a, b => a.toNat + 256 * b.toNat
  | big, a, b => 256 * a.toNat + b.toNat

/-- The octets of a number below 65536. -/
def unpair : OctetOrder → Nat → Octets
  | little, n => [octet (n % 256), octet (n / 256)]
  | big, n => [octet (n / 256), octet (n % 256)]

/-- The number that four octets make. -/
def quad : OctetOrder → UInt8 → UInt8 → UInt8 → UInt8 → Nat
  | little, a, b, c, d => little.pair a b + 65536 * little.pair c d
  | big, a, b, c, d => 65536 * big.pair a b + big.pair c d

/-- The octets of a number below 2 to the 32. -/
def unquad : OctetOrder → Nat → Octets
  | little, n => little.unpair (n % 65536) ++ little.unpair (n / 65536)
  | big, n => big.unpair (n / 65536) ++ big.unpair (n % 65536)

end OctetOrder

namespace Utf16

/-- Whether a unit is the first of a surrogate pair. -/
def isHigh (n : Nat) : Bool := 0xD800 ≤ n && n ≤ 0xDBFF

/-- Whether a unit is the second of a surrogate pair. -/
def isLow (n : Nat) : Bool := 0xDC00 ≤ n && n ≤ 0xDFFF

/-- The code point of a surrogate pair. -/
def join (high low : Nat) : Nat := 0x10000 + (high - 0xD800) * 0x400 + (low - 0xDC00)

/-- The units of a character. -/
def units (c : Char) : List Nat :=
  let n := c.toNat
  if n < 0x10000 then [n]
  else [0xD800 + (n - 0x10000) / 0x400, 0xDC00 + (n - 0x10000) % 0x400]

/-- The text that octets encode in a given order. -/
def decodeIn (order : OctetOrder) : Octets → Text
  | [] => []
  | [_] => [replacementChar]
  | a :: b :: rest =>
    let unit := order.pair a b
    if isHigh unit then
      match rest with
      | c :: d :: rest' =>
        let next := order.pair c d
        if isLow next then charOfCode (join unit next) :: decodeIn order rest'
        else replacementChar :: decodeIn order (c :: d :: rest')
      | _ => [replacementChar]
    else charOfCode unit :: decodeIn order rest

/-- The text that octets encode, in a given order or in the one that their mark states. -/
def decode (order : Option OctetOrder) (bytes : Octets) : Text :=
  match order, bytes with
  | some order, _ => decodeIn order bytes
  | none, 0xFF :: 0xFE :: rest => decodeIn .little rest
  | none, 0xFE :: 0xFF :: rest => decodeIn .big rest
  | none, _ => decodeIn .little bytes

/-- The octets of a text in a given order. -/
def encodeIn (order : OctetOrder) (t : Text) : Octets :=
  (t.flatMap units).flatMap order.unpair

/-- The octets of a text, in a given order or with a mark before them. -/
def encode (order : Option OctetOrder) (t : Text) : Octets :=
  match order with
  | some order => encodeIn order t
  | none => 0xFF :: 0xFE :: encodeIn .little t

end Utf16

namespace Utf32

/-- The text that octets encode in a given order. -/
def decodeIn (order : OctetOrder) : Octets → Text
  | [] => []
  | a :: b :: c :: d :: rest => charOfCode (order.quad a b c d) :: decodeIn order rest
  | _ => [replacementChar]

/-- The text that octets encode, in a given order or in the one that their mark states. -/
def decode (order : Option OctetOrder) (bytes : Octets) : Text :=
  match order, bytes with
  | some order, _ => decodeIn order bytes
  | none, 0xFF :: 0xFE :: 0 :: 0 :: rest => decodeIn .little rest
  | none, 0 :: 0 :: 0xFE :: 0xFF :: rest => decodeIn .big rest
  | none, _ => decodeIn .little bytes

/-- The octets of a text in a given order. -/
def encodeIn (order : OctetOrder) (t : Text) : Octets :=
  t.flatMap fun c => order.unquad c.toNat

/-- The octets of a text, in a given order or with a mark before them. -/
def encode (order : Option OctetOrder) (t : Text) : Octets :=
  match order with
  | some order => encodeIn order t
  | none => 0xFF :: 0xFE :: 0 :: 0 :: encodeIn .little t

end Utf32
end MailScreen
