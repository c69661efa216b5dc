import MailScreen.Text.Basic
import MailScreen.Text.CaseTable

/-!
# Lower case

The lower case of a text is taken character by character, with two exceptions: a capital I with a
dot becomes a small i and a combining dot, and a capital sigma becomes a final sigma at the end of
a word. A sigma ends a word when, the ignorable marks passed over, a cased letter stands before it
and none after it.
-/
namespace MailScreen

/-- The image of a code point under the case mapping of the given runs. -/
def caseImage (n : Nat) : List CaseRun → Nat
  | [] => n
  | (first, last, step, image) :: rest =>
    if n < first then n
    else if n ≤ last then (if (n - first) % step = 0 then image + (n - first) else n)
    else caseImage n rest

/-- The lower case of a code point, one to one. -/
def lowerCode (n : Nat) : Nat :=
  if n < 0x80 then (if 0x41 ≤ n && n ≤ 0x5A then n + 32 else n) else caseImage n lowerRuns

/-- The lower case of a character, one to one. -/
def lowerChar (c : Char) : Char := Char.ofNat (lowerCode c.toNat)

/-- The upper case of a code point, or the first character of it. -/
def upperCode (n : Nat) : Nat := caseImage n upperRuns

/-- Whether the lower or the upper case mapping changes a code point. -/
def changesCase (n : Nat) : Bool := inRanges n caseChangingRanges

/-- A cased letter that is not passed over. -/
def isCased (c : Char) : Bool := inRanges c.toNat casedRanges

/-- A mark that is passed over when looking for a cased letter. -/
def isCaseIgnorable (c : Char) : Bool := inRanges c.toNat caseIgnorableRanges

/-- Whether the first character that is not passed over is a cased letter. -/
def startsCased (t : Text) : Bool :=
  match t.dropWhile isCaseIgnorable with
  | [] => false
  | c :: _ => isCased c

namespace Text

/-- The lower case of a text that follows `before`, which is given in reverse. -/
def lowerAfter (before : Text) : Text → Text
  | [] => []
  | c :: rest =>
    let image :=
      if c = 'Σ' then [if startsCased before && !startsCased rest then 'ς' else 'σ']
      else if c = 'İ' then ['i', '\u0307']
      else [lowerChar c]
    image ++ lowerAfter (c :: before) rest

/-- The lower case of a text. -/
def lower (t : Text) : Text := lowerAfter [] t

end Text
end MailScreen
