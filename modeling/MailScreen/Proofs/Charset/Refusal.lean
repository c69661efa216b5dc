import Mathlib.Data.List.Basic
import MailScreen.Charset.Coding
import MailScreen.Proofs.FirstFailure

/-!
# What charsets refuse

Nearly every charset reads any octets and writes any text. Three names are exceptions, which stand
for no charset in the proper sense, and punycode, which has octets that it cannot read. A charset
that is used on nothing is not consulted, so no octets at all are read in any of them.
-/
namespace MailScreen.Charset

/-- Whether a name stands for nothing that text can be read or written in. -/
def isNominal : Charset → Bool
  | domainLabels | undefined | transform => true
  | _ => false

/-- The octets that punycode reads as integers. -/
def punycodeIntegers (bytes : Octets) : Octets :=
  ((Punycode.splitAtLastHyphen bytes).getD ([], bytes)).2

/-- Octets that are refused: any at all in a charset by name only, and in punycode those with an
octet outside ASCII among its integers. -/
def Refuses (charset : Charset) (bytes : Octets) : Prop :=
  bytes ≠ [] ∧
    (charset.isNominal = true ∨ charset = punycode ∧ ∃ b ∈ punycodeIntegers bytes, b ≥ 0x80)

theorem punycode_decode_eq_error_iff (bytes : Octets) :
    (∃ fault, Punycode.decode bytes = .error fault) ↔
      ∃ b ∈ punycodeIntegers bytes, b ≥ 0x80 := by
  unfold Punycode.decode punycodeIntegers
  simp only
  cases hf : (((Punycode.splitAtLastHyphen bytes).getD ([], bytes)).2).findIdx? (· ≥ 0x80) with
  | none =>
    rw [List.findIdx?_eq_none_iff] at hf
    constructor
    · rintro ⟨fault, h⟩
      cases h
    · rintro ⟨b, hb, hge⟩
      have := hf b hb
      simp [hge] at this
  | some place =>
    obtain ⟨hlt, hge, -⟩ := List.findIdx?_eq_some_iff_getElem.mp hf
    exact ⟨fun _ => ⟨_, List.getElem_mem hlt, by simpa using hge⟩, fun _ => ⟨_, rfl⟩⟩

/-- **Reading octets fails exactly if the charset refuses them.** -/
theorem decode_eq_error_iff (label : Text) (charset : Charset) (bytes : Octets) :
    (∃ fault, charset.decode label bytes = .error fault) ↔ charset.Refuses bytes := by
  unfold decode Refuses
  by_cases hb : bytes = []
  · simp [hb]
  · rw [if_neg (by simpa using hb)]
    cases charset with
    | punycode =>
      simp only [mapError_eq_error_iff, ne_eq, hb, not_false_eq_true, true_and, isNominal,
        Bool.false_eq_true, false_or, ← punycode_decode_eq_error_iff]
      exact ⟨fun ⟨_, e, h, _⟩ => ⟨e, h⟩, fun ⟨e, h⟩ => ⟨_, e, h, rfl⟩⟩
    | _ => simp [isNominal, hb]

/-- Writing a text fails exactly in a charset by name only. -/
theorem encode_eq_error_iff (label : Text) (charset : Charset) (t : Text) :
    (∃ fault, charset.encode label t = .error fault) ↔ charset.isNominal = true := by
  cases charset <;> simp [encode, isNominal]

end MailScreen.Charset
