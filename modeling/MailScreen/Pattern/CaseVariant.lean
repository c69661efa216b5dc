import MailScreen.Pattern.Basic

/-!
# Ignoring case

Two characters are the same but for case if their lower cases are, or if these have one upper case.
The second rule adds a few classes of small letters to the case mappings. A set of characters
ignores case only if one of its members changes case; then the lower case of a character is looked
for among the lower cases of the members.
-/
namespace MailScreen.Pattern

/-- Classes of small letters that have one upper case. -/
def caseClasses : List (List Nat) :=
  [[0x69, 0x131], [0x73, 0x17F], [0xB5, 0x3BC], [0x345, 0x3B9, 0x1FBE], [0x390, 0x1FD3],
    [0x3B0, 0x1FE3], [0x3B2, 0x3D0], [0x3B5, 0x3F5], [0x3B8, 0x3D1], [0x3BA, 0x3F0],
    [0x3C0, 0x3D6], [0x3C1, 0x3F1], [0x3C2, 0x3C3], [0x3C6, 0x3D5], [0x432, 0x1C80],
    [0x434, 0x1C81], [0x43E, 0x1C82], [0x441, 0x1C83], [0x442, 0x1C84, 0x1C85], [0x44A, 0x1C86],
    [0x463, 0x1C87], [0x1C88, 0xA64B], [0x1E61, 0x1E9B], [0xFB05, 0xFB06]]

/-- A small letter with those that have its upper case. -/
def caseVariants (n : Nat) : List Nat := (caseClasses.find? (·.contains n)).getD [n]

/-- The lower case of a code point by the letters of ASCII. -/
def asciiLower (n : Nat) : Nat := if 0x41 ≤ n && n ≤ 0x5A then n + 32 else n

/-- Whether a code point is that of a letter of ASCII. -/
def isAsciiLetterCode (n : Nat) : Bool := (0x41 ≤ n && n ≤ 0x5A) || (0x61 ≤ n && n ≤ 0x7A)

namespace Folding

/-- The lower case of a code point. -/
def lower : Folding → Nat → Nat
  | none, n => n
  | ascii, n => asciiLower n
  | unicode, n => lowerCode n

/-- Whether a code point changes case. -/
def changes : Folding → Nat → Bool
  | none, _ => false
  | ascii, n => isAsciiLetterCode n
  | unicode, n => changesCase n

/-- Whether a code point of a range changes case. -/
def changesIn : Folding → Nat → Nat → Bool
  | none, _, _ => false
  | ascii, first, last =>
    (first ≤ 0x5A && 0x41 ≤ last) || (first ≤ 0x7A && 0x61 ≤ last)
  | unicode, first, last =>
    caseChangingRanges.any fun (low, high) => first ≤ high && low ≤ last

/-- The lower cases that count as that of a code point. -/
def variants : Folding → Nat → List Nat
  | none, n => [n]
  | ascii, n => [asciiLower n]
  | unicode, n => caseVariants (lowerCode n)

end Folding

/-- Whether the character `n` matches the character `code` of a pattern. -/
def sameChar (folding : Folding) (code n : Nat) : Bool :=
  if folding.changes code then (folding.variants code).contains (folding.lower n) else code == n

/-- The code points that have a given lower case. -/
def codesWithLower (folding : Folding) (n : Nat) : List Nat :=
  match folding with
  | .none => [n]
  | .ascii => if isAsciiLetterCode n then [n, n - 32] else [n]
  | .unicode =>
    let moved := lowerRuns.filterMap fun (first, last, step, image) =>
      let offset := n - image
      if image ≤ n && first + offset ≤ last && offset % step = 0 then some (first + offset)
      else none
    if lowerCode n = n then n :: moved else moved

/-- Whether a code point is in a class of characters. -/
def CharClass.has (c : CharClass) (ascii : Bool) (n : Nat) : Bool :=
  match c with
  | .digit => if ascii then 0x30 ≤ n && n ≤ 0x39 else (digitValueOfCode? n).isSome
  | .blank =>
    if ascii then (9 ≤ n && n ≤ 13) || n == 0x20 else n.isValidChar && isBlank (Char.ofNat n)
  | .word => if ascii then n < 0x80 && isWordCode n else isWordCode n

/-- The first code point outside the basic plane. -/
def firstSupplementary : Nat := 0x10000

namespace SetItem

/-- Whether a member of a set makes it ignore case. Code points outside the basic plane always do
when case is ignored. -/
def changesCase (folding : Folding) : SetItem → Bool
  | code n =>
    folding ≠ .none && (folding.changes n || firstSupplementary ≤ folding.lower n)
  | range first last =>
    folding ≠ .none && (folding.changesIn first last || firstSupplementary ≤ last)
  | ofClass .. => false

/-- Whether a code point is a member, case not ignored. -/
def has (ascii : Bool) (n : Nat) : SetItem → Bool
  | code m => m == n
  | range first last => first ≤ n && n ≤ last
  | ofClass c negated => c.has ascii n != negated

/-- Whether a lower case is that of a member. Outside the basic plane a single code point is
compared as it is, and a range with the lower case and its upper case. -/
def hasLower (folding : Folding) (ascii : Bool) (n : Nat) : SetItem → Bool
  | code m =>
    if folding.lower m < firstSupplementary then (folding.variants m).contains n else m == n
  | range first last =>
    let candidates := if folding = .unicode then caseVariants n else [n]
    candidates.any (fun v =>
        (codesWithLower folding v).any fun m =>
          first ≤ m && m ≤ last && folding.lower m < firstSupplementary) ||
      (firstSupplementary ≤ last &&
        ((first ≤ n && n ≤ last) || (first ≤ upperCode n && upperCode n ≤ last)))
  | ofClass c negated => c.has ascii n != negated

end SetItem

/-- Whether a code point is in a set of characters. -/
def setHas (folding : Folding) (ascii : Bool) (items : List SetItem) (n : Nat) : Bool :=
  if items.any (SetItem.changesCase folding) then
    items.any (SetItem.hasLower folding ascii (folding.lower n))
  else items.any (SetItem.has ascii n)

end MailScreen.Pattern
