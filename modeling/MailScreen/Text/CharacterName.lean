import MailScreen.Text.Basic
import MailScreen.Text.CharacterName.NamesA
import MailScreen.Text.CharacterName.NamesB
import MailScreen.Text.CharacterName.NamesC
import MailScreen.Text.CharacterName.NamesD
import MailScreen.Text.CharacterName.NamesE
import MailScreen.Text.CharacterName.NamesF
import MailScreen.Text.CharacterName.Aliases

/-!
# Character names

Every character of Unicode 14 has a name, and some have aliases. The names of Hangul syllables are
composed of the short names of their letters, and those of unified ideographs of their code points;
all others stand in tables. A table lists runs of consecutive code points. In a run the names are
separated by semicolons or line ends, a name starts with the number of words it shares with the name
before it, and an empty entry is a code point without a name. Letters of tabulated names may be in
either case.
-/
namespace MailScreen
namespace CharacterName

/-- All runs of tabulated names. -/
def runs : List (Nat × String) :=
  characterNamesA ++ characterNamesB ++ characterNamesC ++ characterNamesD ++ characterNamesE ++
    characterNamesF

/-- The words of the name that an entry stands for, given those of the name before it. -/
def entryWords (previous : List Text) : Text → List Text
  | [] => previous
  | count :: rest => previous.take (count.toNat - 0x30) ++ List.splitOn ' ' rest

/-- The place of a name, given as words, in a run of entries. -/
def findInRun (name : List Text) (previous : List Text) (code : Nat) : List Text → Option Nat
  | [] => none
  | entry :: rest =>
    let words := entryWords previous entry
    if words = name && !entry.isEmpty then some code else findInRun name words (code + 1) rest

/-- The code point of a tabulated name. -/
def tabulated? (name : Text) : Option Nat :=
  let words := List.splitOn ' ' name
  runs.findSome? fun (first, entries) =>
    findInRun words [] first ((List.splitOn '\n' entries.toList).flatMap (List.splitOn ';'))

/-- The short names of the leading consonants of Hangul syllables. -/
def leads : List String :=
  ["G", "GG", "N", "D", "DD", "R", "M", "B", "BB", "S", "SS", "", "J", "JJ", "C", "K", "T", "P",
    "H"]

/-- The short names of the vowels of Hangul syllables. -/
def vowels : List String :=
  ["A", "AE", "YA", "YAE", "EO", "E", "YEO", "YE", "O", "WA", "WAE", "OE", "YO", "U", "WEO", "WE",
    "WI", "YU", "EU", "YI", "I"]

/-- The short names of the trailing consonants of Hangul syllables. -/
def trails : List String :=
  ["", "G", "GG", "GS", "N", "NJ", "NH", "D", "L", "LG", "LM", "LB", "LS", "LT", "LP", "LH", "M",
    "B", "BS", "S", "SS", "NG", "J", "C", "K", "T", "P", "H"]

/-- The place of the longest short name that a text starts with, and the text after it. -/
def longestShort (names : List String) (t : Text) : Option (Nat × Text) :=
  let found := names.zipIdx.filterMap fun (name, place) =>
    (name.toList.isPrefixOf? t).map fun rest => (place, rest)
  found.foldl
    (fun best candidate =>
      match best with
      | none => some candidate
      | some b => if candidate.2.length < b.2.length then some candidate else best)
    none

/-- The code point of a Hangul syllable given by its composed name. -/
def syllable? (t : Text) : Option Nat := do
  let (lead, rest) ← longestShort leads t
  let (vowel, rest) ← longestShort vowels rest
  let (trail, rest) ← longestShort trails rest
  if rest.isEmpty then some (0xAC00 + (lead * 21 + vowel) * 28 + trail) else none

/-- The value of upper case hexadecimal digits. -/
def upperHex? (digits : Text) : Option Nat :=
  digits.foldlM
    (fun value c =>
      if '0' ≤ c && c ≤ '9' then some (value * 16 + (c.toNat - 0x30))
      else if 'A' ≤ c && c ≤ 'F' then some (value * 16 + (c.toNat - 0x41 + 10))
      else none)
    0

/-- The ranges of unified ideographs. -/
def ideographRanges : List (Nat × Nat) :=
  [(0x3400, 0x4DBF), (0x4E00, 0x9FFF), (0x20000, 0x2A6DF), (0x2A700, 0x2B738), (0x2B740, 0x2B81D),
    (0x2B820, 0x2CEA1), (0x2CEB0, 0x2EBE0), (0x30000, 0x3134A)]

/-- The code point of a unified ideograph given by the hexadecimal digits of its name. -/
def ideograph? (digits : Text) : Option Nat := do
  let n ← upperHex? digits
  if (digits.length = 4 || digits.length = 5) && inRanges n ideographRanges then some n else none

/-- The code point of an alias. -/
def alias? (name : Text) : Option Nat :=
  (characterAliases.find? fun entry => entry.1.toList = name).map (·.2)

end CharacterName

/-- The character with a name or an alias. -/
def characterNamed? (name : Text) : Option Char :=
  let code :=
    match "HANGUL SYLLABLE ".toList.isPrefixOf? name with
    | some rest => CharacterName.syllable? rest
    | none =>
      match "CJK UNIFIED IDEOGRAPH-".toList.isPrefixOf? name with
      | some rest => CharacterName.ideograph? rest
      | none =>
        let name := name.map Char.toUpper
        CharacterName.tabulated? name <|> CharacterName.alias? name
  code.map Char.ofNat

end MailScreen
