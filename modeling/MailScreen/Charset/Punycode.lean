import MailScreen.Charset.Bytes

/-!
# Punycode

The ASCII characters of a text come first, then a hyphen, then the places of the other characters in
order of their code points, as differences in generalised variable-length integers. Decoding stops
without further characters at the first integer that is malformed.
-/
namespace MailScreen.Punycode

/-- The threshold of digit `j` under a bias. -/
def threshold (j bias : Nat) : Nat := min 26 (max 1 (36 * (j + 1) - bias))

/-- Divides a difference down until the bias formula applies, in at most `fuel` steps. -/
def scale (fuel delta divisions : Nat) : Nat × Nat :=
  match fuel with
  | 0 => (delta, divisions)
  | fuel + 1 => if delta > 455 then scale fuel (delta / 35) (divisions + 36) else (delta, divisions)

/-- The bias after a difference: the first one is damped more, and `count` is how many characters
the text has by then. -/
def adapt (delta : Nat) (isFirst : Bool) (count : Nat) : Nat :=
  let delta := if isFirst then delta / 700 else delta / 2
  let delta := delta + delta / count
  let (delta, divisions) := scale (delta.log2 + 1) delta 0
  divisions + 36 * delta / (delta + 38)

/-- The value of a digit: letters of either case are 0 to 25, decimal digits 26 to 35. -/
def digit? (n : Nat) : Option Nat :=
  if 0x41 ≤ n && n ≤ 0x5A then some (n - 0x41)
  else if 0x61 ≤ n && n ≤ 0x7A then some (n - 0x61)
  else if 0x30 ≤ n && n ≤ 0x39 then some (n - 22)
  else none

/-- The octet of a digit. -/
def digitOctet (d : Nat) : UInt8 := if d < 26 then octet (0x61 + d) else octet (d + 22)

/-- Reads one integer: its value and what is left, or `none` if it is malformed. -/
def readInteger (bias : Nat) : (j weight value : Nat) → Octets → Option (Nat × Octets)
  | _, _, _, [] => none
  | j, weight, value, b :: rest =>
    match digit? b.toNat with
    | none => none
    | some d =>
      let t := threshold j bias
      let value := value + d * weight
      if d < t then some (value, rest) else readInteger bias (j + 1) (weight * (36 - t)) value rest

/-- Inserts the characters that the integers place, in at most `fuel` steps, each of which takes at
least one octet. `position` counts the places passed so far and `code` is the current code point. -/
def insertFrom (fuel : Nat) (isFirst : Bool) (bias position code : Nat) (base : Text)
    (bytes : Octets) : Text :=
  match fuel, bytes with
  | 0, _ => base
  | _, [] => base
  | fuel + 1, bytes =>
    match readInteger bias 0 1 0 bytes with
    | none => base
    | some (delta, rest) =>
      let position := position + delta
      let length := base.length + 1
      let code := code + position / length
      let code := if code > 0x10FFFF then '?'.toNat else code
      let position := position % length
      let base := base.take position ++ charOfCode code :: base.drop position
      insertFrom fuel false (adapt delta isFirst base.length) (position + 1) code base rest

/-- The octets before and after the last hyphen, if there is one. -/
def splitAtLastHyphen (bytes : Octets) : Option (Octets × Octets) :=
  match bytes.reverse.dropWhile (· ≠ 0x2D) with
  | [] => none
  | _ :: before => some (before.reverse, (bytes.reverse.takeWhile (· ≠ 0x2D)).reverse)

/-- The text that octets encode. The integers have to be ASCII: the failure is the first octet that
is not, with its place among them. -/
def decode (bytes : Octets) : Except (UInt8 × Nat) Text :=
  let (base, integers) := (splitAtLastHyphen bytes).getD ([], bytes)
  match integers.findIdx? (· ≥ 0x80) with
  | some place => .error (integers.getD place 0, place)
  | none =>
    let base := base.map fun b => if b < 0x80 then Char.ofNat b.toNat else replacementChar
    .ok (insertFrom integers.length true 72 0 0x80 base integers)

/-- The digits of an integer, in at most `fuel + 1` of them. -/
def writeInteger (fuel bias j n : Nat) : Octets :=
  let t := threshold j bias
  match fuel with
  | 0 => [digitOctet n]
  | fuel + 1 =>
    if n < t then [digitOctet n]
    else
      digitOctet (t + (n - t) % (36 - t)) :: writeInteger fuel bias (j + 1) ((n - t) / (36 - t))

/-- The differences for one code point `code`: how far each of its occurrences is from the place of
the last character written, counting only characters up to `code`. `delta` is the distance so
far. -/
def differences (code delta : Nat) : Text → List Nat × Nat
  | [] => ([], delta)
  | c :: rest =>
    if c.toNat = code then
      let (more, left) := differences code 0 rest
      (delta :: more, left)
    else differences code (if c.toNat < code then delta + 1 else delta) rest

/-- The differences for all code points of a list in increasing order. `last` is the code point
before them and `delta` the distance left over from it. -/
def allDifferences (t : Text) (last delta : Nat) : List Nat → List Nat
  | [] => []
  | code :: codes =>
    let smaller := (t.filter fun c => c.toNat < code).length
    let (found, left) := differences code (delta + (smaller + 1) * (code - last - 1)) t
    found ++ allDifferences t code (left + 1) codes

/-- The digits of a list of differences; `count` characters have been written before them. -/
def writeAll (isFirst : Bool) (bias count : Nat) : List Nat → Octets
  | [] => []
  | delta :: rest =>
    writeInteger (delta.log2 + 1) bias 0 delta ++
      writeAll false (adapt delta isFirst (count + 1)) (count + 1) rest

/-- Inserts a number into an increasing list without repeats. -/
def insertCode (n : Nat) : List Nat → List Nat
  | [] => [n]
  | m :: rest =>
    if n < m then n :: m :: rest else if n = m then m :: rest else m :: insertCode n rest

/-- The octets of a text. -/
def encode (t : Text) : Octets :=
  let base := Octets.ofAscii (t.filter (·.toNat < 0x80))
  let codes :=
    t.foldl (fun codes c => if c.toNat < 0x80 then codes else insertCode c.toNat codes) []
  let integers := writeAll true 72 base.length (allDifferences t 0x7F 0 codes)
  if base.isEmpty then integers else base ++ 0x2D :: integers

end MailScreen.Punycode
