import Mathlib.Data.List.Basic
import MailScreen.Proofs.Charset.Utf8
import MailScreen.Proofs.Message.Percent
import MailScreen.Proofs.Message.Quotation
import MailScreen.Proofs.Text.Ascii

/-!
# Settled octets in quotation marks

A type header that has been written out again may hold octets, and these are settled before it is
cut into fields: they are read as UTF-8, and whatever is ill formed is replaced. Octets can swallow
those after them, so a mark that stands after some might be lost, or one come up that was not
written. **It is not** (`Held.settle_showQuoted`): an octet of ASCII is always a character of its
own, and octets outside ASCII never make up one of ASCII, so a text in quotation marks is settled to
a text in quotation marks.
-/
namespace MailScreen

open Ascii Lexeme OutlookMessage

namespace Utf8

/-- What may be pending: the octets asked for are outside ASCII, and the character that they make up
will be, too. -/
def Pending.Wide : Pending → Prop
  | .none => True
  | .tail 0 low _ value => 0x80 ≤ low ∧ 2 ≤ value
  | .tail (_ + 1) low _ value => 0x80 ≤ low ∧ (0 < value ∨ 0x90 ≤ low)

theorem wide_none : Pending.none.Wide := trivial

/-- The piece that an octet outside ASCII completes at the start of a character, and what is pending
then. -/
theorem start_wide {n : Nat} (hn : 0x80 ≤ n) :
    ((start n).1 = [] ∨ (start n).1 = [none]) ∧ (start n).2.Wide := by
  unfold start
  rw [if_neg (by omega)]
  split
  · exact ⟨.inr rfl, trivial⟩
  · split
    · exact ⟨.inl rfl, Nat.le_refl _, by omega⟩
    · split
      · refine ⟨.inl rfl, ?_, ?_⟩
        · split <;> omega
        · split
          · exact .inr (by omega)
          · exact .inl (by omega)
      · split
        · refine ⟨.inl rfl, ?_, ?_⟩
          · split <;> omega
          · split
            · exact .inr (by omega)
            · exact .inl (by omega)
        · exact ⟨.inr rfl, trivial⟩

/-- The piece that is left unfinished. -/
def Pending.unfinished : Pending → List (Option Char)
  | .none => []
  | .tail .. => [Option.none]

/-- **An octet of ASCII is a character of its own**, whatever is pending. -/
theorem piecesAfter_ascii {pending : Pending} (hp : pending.Wide) {b : UInt8} (hb : b.toNat < 0x80)
    (rest : Octets) :
    piecesAfter pending (b :: rest) =
      pending.unfinished ++ some (Char.ofNat b.toNat) :: piecesAfter .none rest := by
  have hs : start b.toNat = ([some (Char.ofNat b.toNat)], .none) := by rw [start, if_pos hb]
  cases pending with
  | none =>
    rw [piecesAfter]
    simp only [hs]
    rfl
  | tail owed low high value =>
    have hl : 0x80 ≤ low := by
      cases owed with
      | zero => exact hp.1
      | succ owed => exact hp.1
    have hn : ¬ (low ≤ b.toNat && b.toNat ≤ high) = true := by
      simp only [Bool.and_eq_true, decide_eq_true_eq]
      omega
    rw [piecesAfter]
    simp only [hn, hs]
    rfl

/-- A code point outside ASCII is not that of an ASCII character. -/
theorem ofNat_ne_of_le {n : Nat} (hn : 0x80 ≤ n) {c : Char} (hc : 0 < c.toNat)
    (hl : c.toNat < 0x80) : Char.ofNat n ≠ c := by
  rintro rfl
  unfold Char.ofNat at hc hl
  by_cases hv : n.isValidChar
  · rw [dif_pos hv] at hl
    exact Nat.not_lt.mpr hn hl
  · rw [dif_neg hv] at hc
    exact absurd hc (by decide)

/-- **Octets outside ASCII make up no character of ASCII**: what one of them completes is none, and
what is pending after it will be none. -/
theorem piecesAfter_wide {pending : Pending} (hp : pending.Wide) {b : UInt8} (hb : 0x80 ≤ b.toNat)
    (rest : Octets) :
    ∃ piece next, piecesAfter pending (b :: rest) = piece ++ piecesAfter next rest ∧ next.Wide ∧
      ∀ c, some c ∈ piece → ∀ d : Char, 0 < d.toNat → d.toNat < 0x80 → c ≠ d := by
  have hstart : ∀ c, some c ∉ (start b.toNat).1 := by
    intro c hc
    rcases (start_wide hb).1 with h | h
    · rw [h] at hc
      exact List.not_mem_nil hc
    · rw [h] at hc
      exact absurd (List.mem_singleton.mp hc) (Option.some_ne_none c)
  cases pending with
  | none =>
    refine ⟨(start b.toNat).1, (start b.toNat).2, by rw [piecesAfter], (start_wide hb).2, ?_⟩
    exact fun c hc => absurd hc (hstart c)
  | tail owed low high value =>
    by_cases hn : (low ≤ b.toNat && b.toNat ≤ high) = true
    · have hle : low ≤ b.toNat := by
        rw [Bool.and_eq_true, decide_eq_true_eq] at hn
        exact hn.1
      cases owed with
      | zero =>
        obtain ⟨-, hv⟩ := hp
        have h80 : 0x80 ≤ value * 64 + (b.toNat - 0x80) := by omega
        refine ⟨[some (Char.ofNat (value * 64 + (b.toNat - 0x80)))], .none, ?_, trivial, ?_⟩
        · rw [piecesAfter, if_pos hn]
          rfl
        · intro c hc d h0 hl
          rw [Option.some.inj (List.mem_singleton.mp hc)]
          exact ofNat_ne_of_le h80 h0 hl
      | succ owed =>
        obtain ⟨-, hv⟩ := hp
        refine ⟨[], .tail owed 0x80 0xBF (value * 64 + (b.toNat - 0x80)), ?_, ?_, by simp⟩
        · rw [piecesAfter, if_pos hn]
          rfl
        · cases owed with
          | zero =>
            show 0x80 ≤ 0x80 ∧ 2 ≤ value * 64 + (b.toNat - 0x80)
            omega
          | succ owed =>
            show 0x80 ≤ 0x80 ∧ (0 < value * 64 + (b.toNat - 0x80) ∨ 0x90 ≤ 0x80)
            omega
    · refine ⟨none :: (start b.toNat).1, (start b.toNat).2, ?_, (start_wide hb).2, ?_⟩
      · rw [piecesAfter, if_neg hn]
      · intro c hc
        rcases List.mem_cons.mp hc with hc | hc
        · cases hc
        · exact absurd hc (hstart c)

/-- An octet inside quotation marks. -/
def quoteOctet (b : UInt8) : Octets := if b = 0x5C || b = 0x22 then [0x5C, b] else [b]

/-- A piece inside quotation marks. -/
def quotePiece : Option Char → List (Option Char)
  | some c => (quoteChar c).map some
  | none => [none]

theorem quotePiece_unfinished (pending : Pending) :
    pending.unfinished.flatMap quotePiece = pending.unfinished := by
  cases pending <;> rfl

/-- **The pieces of quoted octets are quoted pieces.** -/
theorem piecesAfter_quoted (bytes : Octets) {pending : Pending} (hp : pending.Wide) :
    ∃ shown : List (Option Char), piecesAfter pending (bytes.flatMap quoteOctet ++ [0x22]) =
      shown.flatMap quotePiece ++ [some '"'] := by
  induction bytes generalizing pending with
  | nil =>
    refine ⟨pending.unfinished, ?_⟩
    rw [quotePiece_unfinished]
    exact piecesAfter_ascii hp (by decide) []
  | cons b rest ih =>
    rw [List.flatMap_cons, List.append_assoc]
    by_cases hb : b.toNat < 0x80
    · -- a piece that is pending is left unfinished before the octet, and nothing is pending after
      obtain ⟨shown, hs⟩ := ih wide_none
      refine ⟨pending.unfinished ++ some (Char.ofNat b.toNat) :: shown, ?_⟩
      rw [List.flatMap_append, List.flatMap_cons, quotePiece_unfinished, List.append_assoc,
        List.append_assoc, ← hs]
      by_cases hm : b = 0x5C ∨ b = 0x22
      · have hq : quotePiece (some (Char.ofNat b.toNat)) =
            [some '\\', some (Char.ofNat b.toNat)] := by
          rcases hm with rfl | rfl <;> decide
        rw [quoteOctet, if_pos (by simpa using hm), hq]
        show piecesAfter pending (0x5C :: b :: _) = _
        rw [piecesAfter_ascii hp (by decide), piecesAfter_ascii wide_none hb]
        rfl
      · have hq : quotePiece (some (Char.ofNat b.toNat)) = [some (Char.ofNat b.toNat)] := by
          exact forall_octet
            (p := fun b => b.toNat < 0x80 → ¬ (b = 0x5C ∨ b = 0x22) →
              quotePiece (some (Char.ofNat b.toNat)) = [some (Char.ofNat b.toNat)])
            (by decide +kernel) b hb hm
        rw [quoteOctet, if_neg (by simpa using hm), hq, List.singleton_append,
          piecesAfter_ascii hp hb]
        rfl
    · -- what the octet completes is no mark, so quoting leaves the octet and the piece alone
      rw [Nat.not_lt] at hb
      have hm : ¬ (b = 0x5C ∨ b = 0x22) := by
        rintro (rfl | rfl) <;> exact absurd hb (by decide)
      rw [quoteOctet, if_neg (by simpa using hm), List.singleton_append]
      obtain ⟨piece, next, he, hn, hc⟩ := piecesAfter_wide hp hb (rest.flatMap quoteOctet ++ [0x22])
      obtain ⟨shown, hs⟩ := ih hn
      have hq : piece.flatMap quotePiece = piece.flatMap fun p => [p] := by
        refine List.flatMap_congr fun p hpm => ?_
        cases p with
        | none => rfl
        | some c =>
          have h1 := hc c hpm '\\' (by decide) (by decide)
          have h2 := hc c hpm '"' (by decide) (by decide)
          simp [quotePiece, quoteChar, h1, h2]
      refine ⟨piece ++ shown, ?_⟩
      rw [he, hs, List.flatMap_append, hq, List.flatMap_singleton', List.append_assoc]

/-- **Quoted octets are read as a quoted text.** -/
theorem decode_quoted (bytes : Octets) :
    ∃ shown, decode (bytes.flatMap quoteOctet ++ [0x22]) = closing shown := by
  obtain ⟨shown, hs⟩ := piecesAfter_quoted bytes wide_none
  let read : Option Char → Char := fun piece => piece.getD replacementChar
  have hq : ∀ piece ∈ shown, (quotePiece piece).map read = quoteChar (read piece) := by
    intro piece _
    cases piece with
    | none => decide
    | some c => exact (List.map_map ..).trans (List.map_id _)
  refine ⟨shown.map read, ?_⟩
  show (piecesAfter .none (bytes.flatMap quoteOctet ++ [0x22])).map read = _
  rw [hs, List.map_append, List.map_flatMap, List.flatMap_congr hq, closing, List.flatMap_map]
  rfl

end Utf8

namespace Held

/-! ## Octets of a text -/

/-- The octets of a character: the one that it holds, or those of its own. -/
def octetsOf (c : Char) : Octets :=
  match octet? c with
  | some b => [b]
  | none => Utf8.encodeChar c

theorem toOctets_eq (t : Text) : toOctets t = t.flatMap octetsOf := rfl

theorem octet?_of_ascii {c : Char} (hc : c.toNat < 0x80) : octet? c = none := by
  rw [octet?, if_neg]
  unfold base
  omega

/-- A character outside ASCII has only octets outside ASCII. -/
theorem le_of_mem_octetsOf {c : Char} (hc : 0x80 ≤ c.toNat) : ∀ b ∈ octetsOf c, 0x80 ≤ b.toNat := by
  have hv := Utf8.toNat_char_lt c
  intro b hb
  unfold octetsOf octet? base at hb
  split at hb
  · rename_i d hd
    split at hd
    · rename_i hle
      rw [List.mem_singleton.mp hb, ← Option.some.inj hd, Utf8.toNat_octet (by omega)]
      omega
    · cases hd
  · exact Utf8.le_of_mem_encodeChar hc b hb

/-- The octets of a quoted text are the quoted octets of the text. -/
theorem toOctets_quoteChar (t : Text) :
    toOctets (t.flatMap quoteChar) = (toOctets t).flatMap Utf8.quoteOctet := by
  rw [toOctets_eq, toOctets_eq, List.flatMap_assoc, List.flatMap_assoc]
  refine List.flatMap_congr fun c _ => ?_
  by_cases hc : c.toNat < 0x80
  · exact forall_of_lt
      (p := fun c => (quoteChar c).flatMap octetsOf = (octetsOf c).flatMap Utf8.quoteOctet)
      (by decide +kernel) hc
  · rw [Nat.not_lt] at hc
    have hm : ∀ d : Char, d.toNat < 0x80 → c ≠ d := by
      rintro d hd rfl
      exact Nat.not_lt.mpr hc hd
    have hb : ∀ b ∈ octetsOf c, Utf8.quoteOctet b = [b] := by
      intro b hb
      have hne : ∀ d : UInt8, d.toNat < 0x80 → b ≠ d := by
        rintro d hd rfl
        exact Nat.not_lt.mpr (le_of_mem_octetsOf hc _ hb) hd
      simp [Utf8.quoteOctet, hne 0x5C (by decide), hne 0x22 (by decide)]
    rw [quoteChar, if_neg (by simp [hm '\\' (by decide), hm '"' (by decide)]),
      List.flatMap_singleton, List.flatMap_congr hb, List.flatMap_singleton']

/-! ## Settling -/

theorem settle_of_isAscii {t : Text} (ht : IsAscii t) : settle t = t := by
  have h : occursIn t = false := by
    refine List.any_eq_false.mpr fun c hc => ?_
    rw [octet?_of_ascii (ht c hc)]
    decide
  rw [settle, h]
  rfl

theorem decode_toOctets_append {s : Text} (hs : IsAscii s) (bytes : Octets) :
    Utf8.decode (toOctets s ++ bytes) = s ++ Utf8.decode bytes := by
  induction s with
  | nil => rfl
  | cons c rest ih =>
    have hc : octetsOf c = Utf8.encodeChar c := by
      rw [octetsOf, octet?_of_ascii (hs c (List.mem_cons_self ..))]
    have hd : ∀ left, Utf8.decode (octetsOf c ++ left) = c :: Utf8.decode left := by
      intro left
      rw [hc, Utf8.decode, Utf8.pieces_encodeChar_append]
      rfl
    rw [toOctets_eq, List.flatMap_cons, List.append_assoc, hd, ← toOctets_eq,
      ih fun d hd => hs d (List.mem_cons_of_mem c hd)]
    rfl

/-- **A text in quotation marks is settled to one in quotation marks**, after a text of ASCII. -/
theorem settle_showQuoted {s : Text} (hs : IsAscii s) (t : Text) :
    ∃ shown, settle (s ++ '"' :: closing t) = s ++ '"' :: closing shown := by
  unfold settle
  split
  · obtain ⟨shown, he⟩ := Utf8.decode_quoted (toOctets t)
    have hm : IsAscii (s ++ ['"']) := List.forall_mem_append.mpr ⟨hs, by decide⟩
    have ho : toOctets (s ++ '"' :: closing t) =
        toOctets (s ++ ['"']) ++ ((toOctets t).flatMap Utf8.quoteOctet ++ [0x22]) := by
      rw [← toOctets_quoteChar, List.append_cons, closing]
      simp only [toOctets_eq, List.flatMap_append]
      rfl
    refine ⟨shown, ?_⟩
    rw [ho, decode_toOctets_append hm, he, ← List.append_cons]
  · exact ⟨t, rfl⟩

end Held
end MailScreen
