import MailScreen.Header.Parameter
import MailScreen.Header.Percent
import MailScreen.Proofs.Charset.Utf8
import MailScreen.Proofs.Text.Ascii

/-!
# Percent-encoded forms

Octets can be percent-encoded in many ways: the octet of a character of ASCII may stand as this
character or as a percent sign and two digits, and the digits above nine may be written in either
case. **All of these forms decode to the octets** (`Percent.Encodes.decode_eq`), and all can stand
as bare values in a header (`Percent.Encodes.chars`).
-/
namespace MailScreen.Percent

open Ascii Header

/-- The characters that may stand for themselves: those of bare values in ASCII, except for the
percent sign and what starts a quotation or a comment or ends the name of a charset. -/
def isPlainChar (c : Char) : Bool :=
  c.toNat < 0x80 && isBareChar c && !(['%', '\'', '"', '('].contains c)

/-- Texts that stand for octets when they are percent-encoded. -/
inductive Encodes : Text → Octets → Prop
  /-- Nothing stands for nothing. -/
  | nil : Encodes [] []
  /-- A character that stands for itself. -/
  | plain {c : Char} {t : Text} {bytes : Octets} (hc : isPlainChar c = true)
      (h : Encodes t bytes) : Encodes (c :: t) (octet c.toNat :: bytes)
  /-- A percent sign and the two digits of an octet. -/
  | digits {high low : Char} {b : UInt8} {t : Text} {bytes : Octets}
      (hb : hexPair? high.toNat low.toNat = some b.toNat) (h : Encodes t bytes) :
      Encodes ('%' :: high :: low :: t) (b :: bytes)

/-- Whether a code is that of a digit. -/
theorem lt_of_hexDigit? {n value : Nat} (h : hexDigit? n = some value) : n < 0x80 := by
  simp only [hexDigit?, Bool.and_eq_true, decide_eq_true_eq] at h
  split at h
  · omega
  · split at h
    · omega
    · split at h
      · omega
      · cases h

/-- **What holds of the digits in ASCII holds of every digit.** -/
theorem forall_of_hexDigit? {p : Char → Prop}
    (hp : ∀ n < 0x80, (hexDigit? (Char.ofNat n).toNat).isSome = true → p (Char.ofNat n)) {c : Char}
    {value : Nat} (h : hexDigit? c.toNat = some value) : p c :=
  forall_of_lt (p := fun c => (hexDigit? c.toNat).isSome = true → p c) hp (lt_of_hexDigit? h)
    (by rw [h]; rfl)

/-- A digit can stand in a bare value. -/
theorem isBareChar_of_hexDigit? {c : Char} {value : Nat} (h : hexDigit? c.toNat = some value) :
    isBareChar c = true ∧ c ≠ '"' ∧ c ≠ '(' :=
  forall_of_hexDigit? (p := fun c => isBareChar c = true ∧ c ≠ '"' ∧ c ≠ '(') (by decide) h

/-- Both characters of a pair are digits. -/
theorem exists_of_hexPair? {high low n : Nat} (h : hexPair? high low = some n) :
    (∃ value, hexDigit? high = some value) ∧ ∃ value, hexDigit? low = some value := by
  unfold hexPair? at h
  split at h
  · rename_i hh hl
    exact ⟨⟨_, hh⟩, _, hl⟩
  · cases h

namespace Encodes

variable {t : Text} {bytes : Octets}

/-- A percent-encoded text is made of the characters of bare values, and starts no quotation and no
comment. -/
theorem chars (h : Encodes t bytes) : ∀ c ∈ t, isBareChar c = true ∧ c ≠ '"' ∧ c ≠ '(' := by
  induction h with
  | nil => simp
  | plain hc _ ih =>
    simp only [isPlainChar, Bool.and_eq_true, Bool.not_eq_true', List.contains_eq_mem,
      List.mem_cons, List.not_mem_nil, or_false, decide_eq_false_iff_not, not_or] at hc
    exact List.forall_mem_cons.mpr ⟨⟨hc.1.2, hc.2.2.2.1, hc.2.2.2.2⟩, ih⟩
  | digits hb _ ih =>
    obtain ⟨⟨_, hh⟩, _, hl⟩ := exists_of_hexPair? hb
    exact List.forall_mem_cons.mpr ⟨by decide, List.forall_mem_cons.mpr
      ⟨isBareChar_of_hexDigit? hh, List.forall_mem_cons.mpr ⟨isBareChar_of_hexDigit? hl, ih⟩⟩⟩

theorem append {s : Text} {octets : Octets} (hs : Encodes s octets) (ht : Encodes t bytes) :
    Encodes (s ++ t) (octets ++ bytes) := by
  induction hs with
  | nil => exact ht
  | plain hc _ ih => exact .plain hc ih
  | digits hb _ ih => exact .digits hb ih

end Encodes

/-- **Decoding a percent-encoded text gives the octets that it stands for.** -/
theorem Encodes.decode_eq {t : Text} {bytes : Octets} (h : Encodes t bytes) : decode t = bytes := by
  unfold decode
  induction h with
  | nil => rfl
  | @plain c t bytes hc _ ih =>
    simp only [isPlainChar, Bool.and_eq_true, decide_eq_true_eq] at hc
    obtain ⟨⟨hlt, -⟩, hm⟩ := hc
    -- a percent sign does not stand for itself, so no pair of digits starts here
    have hp : octet c.toNat ≠ 0x25 := by
      intro hp
      have hn : c.toNat = 0x25 := by
        rw [← Utf8.toNat_octet (Nat.lt_trans hlt (by decide)), hp]
        rfl
      rw [← Utf8.ofNat_of_eq_toNat hn.symm] at hm
      exact absurd hm (by decide)
    rw [Utf8.encode_cons_of_lt hlt, decodeOctets, ih]
    exact fun high low rest h => absurd h hp
  | @digits high low b t bytes hb _ ih =>
    obtain ⟨⟨_, hh⟩, _, hl⟩ := exists_of_hexPair? hb
    have hhigh : high.toNat < 0x80 := lt_of_hexDigit? hh
    have hlow : low.toNat < 0x80 := lt_of_hexDigit? hl
    rw [Utf8.encode_cons_of_lt (by decide), Utf8.encode_cons_of_lt hhigh,
      Utf8.encode_cons_of_lt hlow]
    show decodeOctets (0x25 :: _) = _
    rw [decodeOctets, Utf8.toNat_octet (by omega), Utf8.toNat_octet (by omega), hb, ih]
    exact congrArg (· :: bytes) (UInt8.ofNat_toNat)

end MailScreen.Percent
