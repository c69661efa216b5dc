import MailScreen.Header.Token
import MailScreen.Text.Case

/-!
# ASCII

There are 128 characters of ASCII, so what holds of each of them can be looked up
(`Ascii.forall_of_lt`). In lower case a text of ASCII characters changes character by character.
-/
namespace MailScreen

/-- What is asked of every character of a text is decided by going through the text. There are
finitely many characters, and without this all of them might be gone through instead. -/
instance (priority := 2000) decidableForallMem (t : Text) (p : Char → Prop) [DecidablePred p] :
    Decidable (∀ c ∈ t, p c) :=
  List.decidableBAll p t

/-- So it is with what is asked of the first character of a text. -/
instance (priority := 2000) decidableForallMemOption (o : Option Char) (p : Char → Prop)
    [DecidablePred p] : Decidable (∀ c ∈ o, p c) :=
  Option.decidableForallMem o

namespace Ascii

/-- A text of ASCII characters. -/
def IsAscii (t : Text) : Prop := ∀ c ∈ t, c.toNat < 0x80

instance (t : Text) : Decidable (IsAscii t) := inferInstanceAs (Decidable (∀ c ∈ t, c.toNat < 0x80))

/-- **What holds of the first 128 characters holds of every ASCII character.** -/
theorem forall_of_lt {p : Char → Prop} (h : ∀ n < 0x80, p (Char.ofNat n)) {c : Char}
    (hc : c.toNat < 0x80) : p c := by
  rw [← Char.ofNat_toNat c]
  exact h c.toNat hc

theorem toNat_lt_of_isAlpha {c : Char} (h : c.isAlpha = true) : c.toNat < 0x80 := by
  rcases Bool.or_eq_true_iff.mp h with hupper | hlower
  · have hlast : c.val ≤ 'Z'.val := (of_decide_eq_true hupper).2
    exact Nat.lt_of_le_of_lt (UInt32.le_iff_toNat_le.mp hlast) (by decide)
  · have hlast : c.val ≤ 'z'.val := of_decide_eq_true (Bool.and_eq_true_iff.mp hlower).2
    exact Nat.lt_of_le_of_lt (UInt32.le_iff_toNat_le.mp hlast) (by decide)

/-- What holds of the letters of ASCII holds of all that count as letters. -/
theorem forall_of_isAlpha {p : Char → Prop}
    (h : ∀ n < 0x80, (Char.ofNat n).isAlpha = true → p (Char.ofNat n)) {c : Char}
    (hc : c.isAlpha = true) : p c :=
  forall_of_lt (p := fun c => c.isAlpha = true → p c) h (toNat_lt_of_isAlpha hc) hc

/-- A token: one or more of the characters of tokens, all of them ASCII. -/
structure IsToken (t : Text) : Prop where
  ne_nil : t ≠ []
  ascii : IsAscii t
  chars : ∀ c ∈ t, Header.isTokenChar c = true

instance (t : Text) : Decidable (IsToken t) :=
  decidable_of_iff (t ≠ [] ∧ IsAscii t ∧ ∀ c ∈ t, Header.isTokenChar c = true)
    ⟨fun h => ⟨h.1, h.2.1, h.2.2⟩, fun h => ⟨h.ne_nil, h.ascii, h.chars⟩⟩

/-- What holds of the characters of tokens in ASCII holds of those of a token. -/
theorem IsToken.forall_mem {p : Char → Prop} {t : Text} (ht : IsToken t)
    (h : ∀ n < 0x80, Header.isTokenChar (Char.ofNat n) = true → p (Char.ofNat n)) :
    ∀ c ∈ t, p c := fun c hc =>
  forall_of_lt (p := fun c => Header.isTokenChar c = true → p c) h (ht.ascii c hc) (ht.chars c hc)

/-- A character that is no letter is the lower case of none. -/
theorem lowerChar_eq_iff {c d : Char} (hc : c.toNat < 0x80) (hd : d.isAlpha = false) :
    lowerChar c = d ↔ c = d := by
  have hl : lowerChar c = c ∨ c.isAlpha = true ∧ (lowerChar c).isAlpha = true :=
    forall_of_lt (p := fun c => lowerChar c = c ∨ c.isAlpha = true ∧ (lowerChar c).isAlpha = true)
      (by decide) hc
  rcases hl with hl | ⟨h1, h2⟩
  · rw [hl]
  · constructor
    · rintro rfl
      rw [h2] at hd
      cases hd
    · rintro rfl
      rw [h1] at hd
      cases hd

/-- Only letters have small letters. -/
theorem isAlpha_of_isLower_toLower {c : Char} (h : c.toLower.isLower = true) :
    c.isAlpha = true := by
  unfold Char.toLower at h
  unfold Char.isAlpha
  rw [Bool.or_eq_true]
  split at h
  · rename_i hu
    exact .inl (decide_eq_true hu)
  · exact .inr h

/-- The lower case of a letter of ASCII is its small letter. -/
theorem lowerChar_eq_toLower {c : Char} (h : c.isAlpha = true) : lowerChar c = c.toLower :=
  forall_of_lt (p := fun c => lowerChar c = c.toLower) (by decide) (toNat_lt_of_isAlpha h)

theorem lowerAfter_of_isAscii (before : Text) {t : Text} (ht : IsAscii t) :
    Text.lowerAfter before t = t.map lowerChar := by
  induction t generalizing before with
  | nil => rfl
  | cons c rest ih =>
    have hc : c.toNat < 0x80 := ht c (List.mem_cons_self ..)
    have h1 : c ≠ 'Σ' := by rintro rfl; exact absurd hc (by decide)
    have h2 : c ≠ 'İ' := by rintro rfl; exact absurd hc (by decide)
    rw [Text.lowerAfter, ih (c :: before) fun d hd => ht d (List.mem_cons_of_mem c hd)]
    simp [h1, h2]

/-- In lower case a text of ASCII characters changes character by character. -/
theorem lower_of_isAscii {t : Text} (ht : IsAscii t) : Text.lower t = t.map lowerChar :=
  lowerAfter_of_isAscii [] ht

/-- A word of small letters that is written in any letter case is a word of letters, and has the
word for its lower case. -/
theorem isAlpha_and_lower_of_toLower {t : Text} {word : String}
    (hw : ∀ c ∈ word.toList, c.isLower = true) (h : t.map Char.toLower = word.toList) :
    (∀ c ∈ t, c.isAlpha = true) ∧ Text.lower t = word.toList := by
  have ha : ∀ c ∈ t, c.isAlpha = true := by
    intro c hc
    apply isAlpha_of_isLower_toLower
    apply hw
    rw [← h]
    exact List.mem_map_of_mem hc
  refine ⟨ha, ?_⟩
  rw [lower_of_isAscii fun c hc => toNat_lt_of_isAlpha (ha c hc), ← h]
  exact List.map_congr_left fun c hc => lowerChar_eq_toLower (ha c hc)

/-- A text of ASCII characters is in lower case if each of them is. -/
theorem lower_eq_self_iff {t : Text} (ht : IsAscii t) :
    Text.lower t = t ↔ ∀ c ∈ t, lowerChar c = c := by
  have h : t.map lowerChar = t.map id ↔ ∀ c ∈ t, lowerChar c = c := List.map_inj_left
  rwa [List.map_id, ← lower_of_isAscii ht] at h

end Ascii
end MailScreen
