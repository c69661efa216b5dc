import MailScreen.Proofs.Charset.Base64
import MailScreen.Proofs.Header.OneParameter

/-!
# Encoded words of texts

The octets of a text in UTF-8 are put down in an encoded word in one of two ways: in base 64, or
each as an equals sign and two digits. **In either way the word is decoded to the text**
(`EncodedWord.Writes.decode_eq`), whatever text it is. A word ends where it is closed, whatever
comes after it (`EncodedWord.take?_written`).
-/
namespace MailScreen.EncodedWord

open Ascii Header

/-! ## The ends of a word -/

/-- A word as it can be found: it states a charset, and has only characters of words. -/
structure IsProper (word : EncodedWord) : Prop where
  charset_ne_nil : word.charset ≠ []
  charset : ∀ c ∈ word.charset, isBodyChar c = true
  encoding : word.encoding ∈ ['B', 'b', 'Q', 'q']
  body : ∀ c ∈ word.body, isBodyChar c = true

variable {word : EncodedWord} {t : Text} {bytes : Octets}

theorem written_append (word : EncodedWord) (rest : Text) :
    word.written ++ rest =
      '=' :: '?' :: (word.charset ++ '?' :: word.encoding :: '?' ::
        (word.body ++ '?' :: '=' :: rest)) := by
  simp [written]

/-- **A word is taken whole**, whatever comes after it. -/
theorem take?_written (hw : word.IsProper) (rest : Text) :
    take? (word.written ++ rest) = some (word, rest) := by
  have hmark : ∀ s : Text, ∀ c ∈ ('?' :: s).head?, isBodyChar c = false :=
    fun s c hc => Option.some.inj hc ▸ by decide
  obtain ⟨hcharset, hopened⟩ := Text.takeWhile_append_stop hw.charset
    (hmark (word.encoding :: '?' :: (word.body ++ '?' :: '=' :: rest)))
  obtain ⟨hbody, hclosed⟩ := Text.takeWhile_append_stop hw.body (hmark ('=' :: rest))
  have hencoding : (['B', 'b', 'Q', 'q'].contains word.encoding) = true := by
    simpa using hw.encoding
  rw [written_append, take?]
  simp only [hopened, hclosed, hcharset, hbody, List.isEmpty_eq_false_iff.mpr hw.charset_ne_nil,
    hencoding, Bool.not_true, Bool.or_self, Bool.false_eq_true, if_false]

/-- A word has no line breaks. -/
theorem IsProper.noBreak (hw : word.IsProper) : NoBreak word.written := by
  have hbody : ∀ t : Text, (∀ c ∈ t, isBodyChar c = true) → NoBreak t := by
    intro t ht c hc
    constructor
    · rintro rfl
      exact absurd (ht _ hc) (by decide)
    · rintro rfl
      exact absurd (ht _ hc) (by decide)
  have hencoding : NoBreak ['?', word.encoding, '?'] := by
    have h : ∀ c ∈ ['B', 'b', 'Q', 'q'], NoBreak ['?', c, '?'] := by decide
    exact h _ hw.encoding
  have hopen : NoBreak "=?".toList := by decide
  exact ((hopen.append (hbody _ hw.charset)).append hencoding).append (hbody _ hw.body) |>.append
    (by decide)

/-! ## Octets as codes -/

/-- Texts that write each octet as an equals sign and two digits. -/
inductive Codes : Text → Octets → Prop
  /-- Nothing for nothing. -/
  | nil : Codes [] []
  /-- The code of an octet. -/
  | cons {high low : Char} {b : UInt8} {t : Text} {bytes : Octets}
      (hb : hexPair? high.toNat low.toNat = some b.toNat) (h : Codes t bytes) :
      Codes ('=' :: high :: low :: t) (b :: bytes)

theorem Codes.chars (h : Codes t bytes) : ∀ c ∈ t, isBodyChar c = true := by
  have hdigit {c : Char} {value : Nat} (hc : hexDigit? c.toNat = some value) :
      isBodyChar c = true :=
    Percent.forall_of_hexDigit? (p := fun c => isBodyChar c = true) (by decide) hc
  induction h with
  | nil => simp
  | cons hb _ ih =>
    obtain ⟨⟨_, hh⟩, _, hl⟩ := Percent.exists_of_hexPair? hb
    exact List.forall_mem_cons.mpr ⟨by decide, List.forall_mem_cons.mpr
      ⟨hdigit hh, List.forall_mem_cons.mpr ⟨hdigit hl, ih⟩⟩⟩

/-- Codes are replaced by the characters with the numbers of the octets. -/
theorem Codes.decodeQuoted_eq (h : Codes t bytes) : decodeQuoted t = Octets.toLatin1 bytes := by
  induction h with
  | nil => rfl
  | cons hb _ ih =>
    rw [decodeQuoted, hb, ih]
    rfl

/-! ## Texts that are octets -/

/-- A text of ASCII characters is an octet for each. -/
theorem encodeRaw_of_isAscii (ht : IsAscii t) : Escape.encodeRaw t = Octets.ofAscii t := by
  induction t with
  | nil => rfl
  | cons c t ih =>
    obtain ⟨hc, ht⟩ := List.forall_mem_cons.mp ht
    rw [Escape.encodeRaw, List.flatMap_cons, if_pos (Nat.lt_trans hc (by decide))]
    exact congrArg (octet c.toNat :: ·) (ih ht)

/-- Octets that are read as characters with their numbers are written as they were. -/
theorem encodeRaw_toLatin1 (bytes : Octets) :
    Escape.encodeRaw (Octets.toLatin1 bytes) = bytes := by
  have hb : ∀ b : UInt8, (Char.ofNat b.toNat).toNat = b.toNat := by
    have h : ∀ n < 256, (Char.ofNat n).toNat = n := by decide +kernel
    exact fun b => h _ b.toNat_lt
  induction bytes with
  | nil => rfl
  | cons b rest ih =>
    rw [Octets.toLatin1, List.map_cons, Escape.encodeRaw, List.flatMap_cons, hb,
      if_pos b.toNat_lt, octet, UInt8.ofNat_toNat]
    exact congrArg (b :: ·) ih

/-! ## Words of texts -/

/-- The words of a text: its octets in UTF-8 are in base 64, or as codes. -/
inductive Writes : EncodedWord → Text → Prop
  /-- A word in base 64. -/
  | base64 (t : Text) : Writes ⟨"utf-8".toList, 'B', Base64.encode (Utf8.encode t)⟩ t
  /-- A word of codes. -/
  | codes {body t : Text} (h : Codes body (Utf8.encode t)) : Writes ⟨"utf-8".toList, 'Q', body⟩ t

namespace Writes

theorem isProper (h : Writes word t) : word.IsProper := by
  have hne : "utf-8".toList ≠ [] := by decide
  have hcharset : ∀ c ∈ "utf-8".toList, isBodyChar c = true := by decide
  cases h with
  | base64 =>
    exact ⟨hne, hcharset, List.mem_of_elem_eq_true rfl,
      Base64.forall_mem_encode (by decide +kernel) (by decide) _⟩
  | codes h => exact ⟨hne, hcharset, List.mem_of_elem_eq_true rfl, h.chars⟩

/-- A word has the octets of its text. -/
theorem octets_eq (h : Writes word t) : word.octets = .ok (Utf8.encode t) := by
  cases h with
  | base64 =>
    have hpadded : padded (Base64.encode (Utf8.encode t)) = Base64.encode (Utf8.encode t) := by
      rw [padded, Base64.length_encode_mod]
      exact List.append_nil _
    have hascii : IsAscii (Base64.encode (Utf8.encode t)) :=
      Base64.forall_mem_encode (by decide +kernel) (by decide) _
    have hletter : ('B' : Char).toLower ≠ 'q' := by decide
    simp only [octets, if_neg hletter, hpadded, encodeRaw_of_isAscii hascii, Base64.decode?_encode]
  | codes h =>
    have hletter : ('Q' : Char).toLower = 'q' := by decide
    simp only [octets, if_pos hletter, h.decodeQuoted_eq, encodeRaw_toLatin1]

/-- **A word of a text is decoded to the text.** -/
theorem decode_eq (h : Writes word t) : word.decode = .ok t := by
  have hcharset : Text.lower word.charset = "utf-8".toList := by
    have hlower : Text.lower "utf-8".toList = "utf-8".toList := by decide +kernel
    cases h <;> exact hlower
  have hread : decodeNamed "utf-8".toList (Utf8.encode t) = .ok t := by
    obtain ⟨entry, he, hutf8⟩ := findCharset?_utf8
    have hn : "utf-8".toList.contains '\x00' = false := by decide
    rw [decodeNamed, hn, if_neg Bool.false_ne_true, he]
    simp only [hutf8, decode_utf8, Utf8.decode_encode]
    split
    · rename_i hempty
      rw [← Utf8.decode_encode t, List.isEmpty_iff.mp hempty]
      rfl
    · rfl
  rw [decode, h.octets_eq, hcharset]
  exact congrArg (Except.mapError _) hread

theorem text_eq {ε : Type} (h : Writes word t) : (word.text : Noted ε Text) = pure t := by
  rw [text, h.decode_eq]

end Writes
end MailScreen.EncodedWord
