import MailScreen.Message.Outlook
import MailScreen.Proofs.Header.PercentForm

/-!
# Percent-encoded names

A name that is not ASCII is written percent-encoded in UTF-8. What is written holds none of the
characters that mean anything in a header (`OutlookMessage.isPercentChar_of_mem`), and decoding
gives the octets back (`OutlookMessage.decode_percentEncode`).
-/
namespace MailScreen.OutlookMessage

open Ascii

/-- An octet as it is written in a percent-encoded text. -/
def percentForm (b : UInt8) : Text :=
  if isUnreserved b then [Char.ofNat b.toNat] else Percent.encodeOctet b

/-- The characters of percent-encoded texts: letters and digits of ASCII, and five marks. -/
def isPercentChar (c : Char) : Bool := c.isAlphanum || ['%', '_', '.', '-', '~'].contains c

theorem percentEncode_eq (t : Text) : percentEncode t = (Utf8.encode t).flatMap percentForm := rfl

theorem octet_toNat (b : UInt8) : octet b.toNat = b := UInt8.ofNat_toNat

/-- **What holds of the octets up to 255 holds of every octet.** -/
theorem forall_octet {p : UInt8 → Prop} (h : ∀ n < 256, p (octet n)) (b : UInt8) : p b := by
  rw [← octet_toNat b]
  exact h b.toNat b.toNat_lt

theorem isPercentChar_of_mem_form (b : UInt8) :
    ∀ c ∈ percentForm b, isPercentChar c = true ∧ c.toNat < 0x80 :=
  forall_octet (p := fun b => ∀ c ∈ percentForm b, isPercentChar c = true ∧ c.toNat < 0x80)
    (by decide +kernel) b

theorem isPercentChar_of_mem {t : Text} {c : Char} (h : c ∈ percentEncode t) :
    isPercentChar c = true ∧ c.toNat < 0x80 := by
  obtain ⟨b, -, hc⟩ := List.mem_flatMap.mp h
  exact isPercentChar_of_mem_form b c hc

/-! ## Decoding -/

/-- An octet is percent-encoded by what is written for it. -/
theorem encodes_percentForm (b : UInt8) : Percent.Encodes (percentForm b) [b] := by
  unfold percentForm
  cases hu : isUnreserved b with
  | true =>
    have hp : isUnreserved b = true →
        Percent.isPlainChar (Char.ofNat b.toNat) = true ∧ octet (Char.ofNat b.toNat).toNat = b :=
      forall_octet
        (p := fun b => isUnreserved b = true →
          Percent.isPlainChar (Char.ofNat b.toNat) = true ∧ octet (Char.ofNat b.toNat).toNat = b)
        (by decide +kernel) b
    obtain ⟨hc, hb⟩ := hp hu
    have h := Percent.Encodes.nil.plain hc
    rwa [hb] at h
  | false =>
    have hd : hexPair? (Percent.hexChar (b.toNat / 16)).toNat
        (Percent.hexChar (b.toNat % 16)).toNat = some b.toNat :=
      forall_octet
        (p := fun b => hexPair? (Percent.hexChar (b.toNat / 16)).toNat
          (Percent.hexChar (b.toNat % 16)).toNat = some b.toNat)
        (by decide +kernel) b
    exact Percent.Encodes.nil.digits hd

/-- **A text is percent-encoded by what is written for it.** -/
theorem encodes_percentEncode (t : Text) : Percent.Encodes (percentEncode t) (Utf8.encode t) := by
  rw [percentEncode_eq]
  induction Utf8.encode t with
  | nil => exact .nil
  | cons b rest ih => exact (encodes_percentForm b).append ih

/-- Decoding a percent-encoded text gives the octets of the text. -/
theorem decode_percentEncode (t : Text) : Percent.decode (percentEncode t) = Utf8.encode t :=
  (encodes_percentEncode t).decode_eq

theorem percentEncode_ne_nil {t : Text} (h : t ≠ []) : percentEncode t ≠ [] := by
  intro hn
  have he : Utf8.encode t = [] := by rw [← decode_percentEncode, hn]; rfl
  exact h (by rw [← Utf8.decode_encode t, he]; rfl)

end MailScreen.OutlookMessage
