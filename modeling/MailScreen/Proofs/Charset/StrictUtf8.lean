import Mathlib
import MailScreen.Proofs.Charset.Utf8
import MailScreen.Proofs.Text.Ascii

/-!
# What a strict reader of UTF-8 takes

A strict reader takes the octets of a text and nothing else (`Utf8.decode?_eq_some_iff`): it makes a
text of octets only if they are what that text is written as. So forms that are longer than they
need be, surrogates, and what is cut short are refused. The octets of a text are those of the UTF-8
that strings are held in (`Utf8.encode_eq_flatMap`).
-/
namespace MailScreen.Utf8

/-- An octet is the octet with its value. -/
theorem exists_octet (b : UInt8) : ∃ n < 256, b = octet n :=
  ⟨b.toNat, b.toNat_lt, UInt8.ofNat_toNat.symm⟩

/-! ## The octets of a character -/

/-- The character that two octets make up is written as these. -/
theorem encodeChar_two {a b : Nat} (hl : 0xC2 ≤ a) (hh : a < 0xE0) (hb : 0x80 ≤ b ∧ b ≤ 0xBF) :
    encodeChar (Char.ofNat ((a - 0xC0) * 64 + (b - 0x80))) = [octet a, octet b] := by
  obtain ⟨n, hn⟩ : ∃ n, n = (a - 0xC0) * 64 + (b - 0x80) := ⟨_, rfl⟩
  have h1 : 0xC0 + n / 64 = a := by omega
  have h2 : 0x80 + n % 64 = b := by omega
  have hv : n.isValidChar := by omega
  rw [← hn, encodeChar, Char.toNat_ofNat, if_pos hv, if_neg (by omega), if_pos (by omega), h1, h2]

/-- So is the one that three make up, if they are neither too many for it nor a surrogate. -/
theorem encodeChar_three {a b c : Nat} (hl : 0xE0 ≤ a) (hh : a < 0xF0) (hb : 0x80 ≤ b ∧ b ≤ 0xBF)
    (hc : 0x80 ≤ c ∧ c ≤ 0xBF) (hfew : a = 0xE0 → 0xA0 ≤ b) (hsur : a = 0xED → b ≤ 0x9F) :
    encodeChar (Char.ofNat (((a - 0xE0) * 64 + (b - 0x80)) * 64 + (c - 0x80))) =
      [octet a, octet b, octet c] := by
  obtain ⟨n, hn⟩ : ∃ n, n = ((a - 0xE0) * 64 + (b - 0x80)) * 64 + (c - 0x80) := ⟨_, rfl⟩
  have h1 : 0xE0 + n / 4096 = a := by omega
  have h2 : 0x80 + n / 64 % 64 = b := by omega
  have h3 : 0x80 + n % 64 = c := by omega
  have hv : n.isValidChar := by omega
  rw [← hn, encodeChar, Char.toNat_ofNat, if_pos hv, if_neg (by omega), if_neg (by omega),
    if_pos (by omega), h1, h2, h3]

/-- So is the one that four make up, if they are neither too many for it nor too large. -/
theorem encodeChar_four {a b c d : Nat} (hl : 0xF0 ≤ a) (hh : a < 0xF5)
    (hb : 0x80 ≤ b ∧ b ≤ 0xBF) (hc : 0x80 ≤ c ∧ c ≤ 0xBF) (hd : 0x80 ≤ d ∧ d ≤ 0xBF)
    (hfew : a = 0xF0 → 0x90 ≤ b) (hmost : a = 0xF4 → b ≤ 0x8F) :
    encodeChar (Char.ofNat ((((a - 0xF0) * 64 + (b - 0x80)) * 64 + (c - 0x80)) * 64 + (d - 0x80))) =
      [octet a, octet b, octet c, octet d] := by
  obtain ⟨n, hn⟩ :
    ∃ n, n = (((a - 0xF0) * 64 + (b - 0x80)) * 64 + (c - 0x80)) * 64 + (d - 0x80) := ⟨_, rfl⟩
  have h1 : 0xF0 + n / 262144 = a := by omega
  have h2 : 0x80 + n / 4096 % 64 = b := by omega
  have h3 : 0x80 + n / 64 % 64 = c := by omega
  have h4 : 0x80 + n % 64 = d := by omega
  have hv : n.isValidChar := by omega
  rw [← hn, encodeChar, Char.toNat_ofNat, if_pos hv, if_neg (by omega), if_neg (by omega),
    if_neg (by omega), h1, h2, h3, h4]

/-- The octets of a character are those that it has in a string. -/
theorem encodeChar_eq_utf8EncodeChar (c : Char) : encodeChar c = String.utf8EncodeChar c := by
  have hv := toNat_char_lt c
  have ho {m n : Nat} (h : m = n) : octet m = UInt8.ofNat n := congrArg UInt8.ofNat h
  have hval : c.val.toNat = c.toNat := rfl
  unfold encodeChar String.utf8EncodeChar
  simp only [hval]
  by_cases h1 : c.toNat < 0x80
  · rw [if_pos h1, if_pos (show c.toNat ≤ 0x7F by omega), ho rfl]
  rw [if_neg h1, if_neg (show ¬ c.toNat ≤ 0x7F by omega)]
  by_cases h2 : c.toNat < 0x800
  · rw [if_pos h2, if_pos (show c.toNat ≤ 0x7FF by omega), ho, ho]
    · omega
    · omega
  rw [if_neg h2, if_neg (show ¬ c.toNat ≤ 0x7FF by omega)]
  by_cases h3 : c.toNat < 0x10000
  · rw [if_pos h3, if_pos (show c.toNat ≤ 0xFFFF by omega), ho, ho, ho]
    · omega
    · omega
    · omega
  rw [if_neg h3, if_neg (show ¬ c.toNat ≤ 0xFFFF by omega), ho, ho, ho, ho]
  · omega
  · omega
  · omega
  · omega

theorem encode_eq_flatMap (t : Text) : encode t = t.flatMap String.utf8EncodeChar :=
  List.flatMap_congr fun c _ => encodeChar_eq_utf8EncodeChar c

/-! ## What a piece is read from -/

/-- Where more octets are owed, the first piece is ill formed, or an octet in the range that is
asked for comes next. -/
theorem tail_refused_or_next (owed low high value : Nat) (bytes : Octets) :
    (∃ more, piecesAfter (.tail owed low high value) bytes = none :: more) ∨
      ∃ n rest, n < 256 ∧ low ≤ n ∧ n ≤ high ∧ bytes = octet n :: rest := by
  cases bytes with
  | nil => exact .inl ⟨[], rfl⟩
  | cons b rest =>
    obtain ⟨n, hn, rfl⟩ := exists_octet b
    by_cases hr : (low ≤ n && n ≤ high) = true
    · rw [Bool.and_eq_true, decide_eq_true_eq, decide_eq_true_eq] at hr
      exact .inr ⟨n, rest, hn, hr.1, hr.2, rfl⟩
    · rw [piecesAfter, toNat_octet hn, if_neg hr]
      exact .inl ⟨_, rfl⟩

variable {low high value owed : Nat} {bytes : Octets} {c : Char} {more : List (Option Char)}

/-- A character for which octets are owed takes the next one, and goes on. -/
theorem next_of_tail_succ
    (h : piecesAfter (.tail (owed + 1) low high value) bytes = some c :: more) :
    ∃ n rest, n < 256 ∧ low ≤ n ∧ n ≤ high ∧ bytes = octet n :: rest ∧
      piecesAfter (.tail owed 0x80 0xBF (value * 64 + (n - 0x80))) rest = some c :: more := by
  rcases tail_refused_or_next (owed + 1) low high value bytes with
    ⟨_, hm⟩ | ⟨n, rest, hn, hl, hh, rfl⟩
  · rw [hm] at h
    cases h
  · rw [piecesAfter_tail_succ rest hn hl hh] at h
    exact ⟨n, rest, hn, hl, hh, rfl, h⟩

/-- A character for which one octet is owed takes it, and is complete. -/
theorem next_of_tail_zero
    (h : piecesAfter (.tail 0 low high value) bytes = some c :: more)
    (hv : ∀ n < 256, low ≤ n → n ≤ high → value * 64 + (n - 0x80) < 0xD800 ∨
      0xDFFF < value * 64 + (n - 0x80) ∧ value * 64 + (n - 0x80) < 0x110000) :
    ∃ n rest, n < 256 ∧ low ≤ n ∧ n ≤ high ∧ bytes = octet n :: rest ∧
      c = Char.ofNat (value * 64 + (n - 0x80)) ∧ pieces rest = more := by
  rcases tail_refused_or_next 0 low high value bytes with ⟨_, hm⟩ | ⟨n, rest, hn, hl, hh, rfl⟩
  · rw [hm] at h
    cases h
  · have hcode : (Char.ofNat (value * 64 + (n - 0x80))).toNat = value * 64 + (n - 0x80) := by
      rw [Char.toNat_ofNat, if_pos (hv n hn hl hh)]
    rw [piecesAfter_tail_zero rest hn hl hh hcode.symm] at h
    obtain ⟨hc, hm⟩ := List.cons.inj h
    exact ⟨n, rest, hn, hl, hh, rfl, (Option.some.inj hc).symm, hm⟩

theorem pieces_cons {a : Nat} (ha : a < 256) (rest : Octets) :
    pieces (octet a :: rest) = (start a).1 ++ piecesAfter (start a).2 rest := by
  rw [pieces, piecesAfter, toNat_octet ha]

/-- The first octet tells how many there are. -/
theorem start_cases (a : Nat) :
    (a < 0x80 ∧ start a = ([some (Char.ofNat a)], .none)) ∨ start a = ([none], .none) ∨
      (0xC2 ≤ a ∧ a < 0xE0 ∧ start a = ([], .tail 0 0x80 0xBF (a - 0xC0))) ∨
      (0xE0 ≤ a ∧ a < 0xF0 ∧ start a = ([], .tail 1 (if a = 0xE0 then 0xA0 else 0x80)
        (if a = 0xED then 0x9F else 0xBF) (a - 0xE0))) ∨
      (0xF0 ≤ a ∧ a < 0xF5 ∧ start a = ([], .tail 2 (if a = 0xF0 then 0x90 else 0x80)
        (if a = 0xF4 then 0x8F else 0xBF) (a - 0xF0))) := by
  unfold start
  by_cases h1 : a < 0x80
  · exact .inl ⟨h1, if_pos h1⟩
  rw [if_neg h1]
  by_cases h2 : a < 0xC2
  · exact .inr (.inl (if_pos h2))
  rw [if_neg h2]
  by_cases h3 : a < 0xE0
  · exact .inr (.inr (.inl ⟨Nat.not_lt.mp h2, h3, if_pos h3⟩))
  rw [if_neg h3]
  by_cases h4 : a < 0xF0
  · exact .inr (.inr (.inr (.inl ⟨Nat.not_lt.mp h3, h4, if_pos h4⟩)))
  rw [if_neg h4]
  by_cases h5 : a < 0xF5
  · exact .inr (.inr (.inr (.inr ⟨Nat.not_lt.mp h4, h5, if_pos h5⟩)))
  · exact .inr (.inl (if_neg h5))

/-- **A piece that is a character has been read from the octets of the character.** -/
theorem exists_of_pieces_eq_cons (h : pieces bytes = some c :: more) :
    ∃ rest, bytes = encodeChar c ++ rest ∧ pieces rest = more := by
  cases bytes with
  | nil => cases h
  | cons b rest =>
    obtain ⟨a, ha, rfl⟩ := exists_octet b
    rw [pieces_cons ha] at h
    rcases start_cases a with ⟨hlt, hs⟩ | hs | ⟨hle, hlt, hs⟩ | ⟨hle, hlt, hs⟩ | ⟨hle, hlt, hs⟩
    · rw [hs] at h
      obtain ⟨hc, hm⟩ := List.cons.inj h
      obtain rfl := Option.some.inj hc
      have hv : (Char.ofNat a).toNat = a := by rw [Char.toNat_ofNat, if_pos (by omega)]
      refine ⟨rest, ?_, hm⟩
      rw [encodeChar_of_lt (by rwa [hv]), hv]
      rfl
    · rw [hs] at h
      cases h
    · simp only [hs, List.nil_append] at h
      obtain ⟨b, rest, -, hl, hh, rfl, hc, hm⟩ := next_of_tail_zero h fun n _ _ _ => by omega
      rw [hc, encodeChar_two hle hlt ⟨hl, hh⟩]
      exact ⟨rest, rfl, hm⟩
    · simp only [hs, List.nil_append] at h
      obtain ⟨b, rest, -, hl, hh, rfl, h2⟩ := next_of_tail_succ h
      have hb : 0x80 ≤ b ∧ b ≤ 0xBF := by
        split at hl <;> split at hh <;> omega
      have hfew : a = 0xE0 → 0xA0 ≤ b := fun he => by rwa [if_pos he] at hl
      have hsur : a = 0xED → b ≤ 0x9F := fun he => by rwa [if_pos he] at hh
      obtain ⟨d, rest, -, hdl, hdh, rfl, hc, hm⟩ := next_of_tail_zero h2 fun n _ _ _ => by omega
      rw [hc, encodeChar_three hle hlt hb ⟨hdl, hdh⟩ hfew hsur]
      exact ⟨rest, rfl, hm⟩
    · simp only [hs, List.nil_append] at h
      obtain ⟨b, rest, -, hl, hh, rfl, h2⟩ := next_of_tail_succ h
      have hb : 0x80 ≤ b ∧ b ≤ 0xBF := by
        split at hl <;> split at hh <;> omega
      have hfew : a = 0xF0 → 0x90 ≤ b := fun he => by rwa [if_pos he] at hl
      have hmost : a = 0xF4 → b ≤ 0x8F := fun he => by rwa [if_pos he] at hh
      obtain ⟨d, rest, -, hdl, hdh, rfl, h3⟩ := next_of_tail_succ h2
      obtain ⟨e, rest, -, hel, heh, rfl, hc, hm⟩ := next_of_tail_zero h3 fun n _ _ _ => by omega
      rw [hc, encodeChar_four hle hlt hb ⟨hdl, hdh⟩ ⟨hel, heh⟩ hfew hmost]
      exact ⟨rest, rfl, hm⟩

/-- What is pending is a piece in the end. -/
theorem piecesAfter_tail_ne_nil (owed low high value : Nat) (bytes : Octets) :
    piecesAfter (.tail owed low high value) bytes ≠ [] := by
  induction owed generalizing low high value bytes with
  | zero =>
    cases bytes with
    | nil => exact List.cons_ne_nil _ _
    | cons b rest =>
      rw [piecesAfter]
      simp only
      split
      · exact List.cons_ne_nil _ _
      · exact List.cons_ne_nil _ _
  | succ owed ih =>
    rcases tail_refused_or_next (owed + 1) low high value bytes with
      ⟨more, hm⟩ | ⟨n, rest, hn, hl, hh, rfl⟩
    · rw [hm]
      exact List.cons_ne_nil _ _
    · rw [piecesAfter_tail_succ rest hn hl hh]
      exact ih _ _ _ _

theorem eq_nil_of_pieces_eq_nil (h : pieces bytes = []) : bytes = [] := by
  cases bytes with
  | nil => rfl
  | cons b rest =>
    obtain ⟨a, ha, rfl⟩ := exists_octet b
    rw [pieces_cons ha, List.append_eq_nil_iff] at h
    rcases start_cases a with ⟨-, hs⟩ | hs | ⟨-, -, hs⟩ | ⟨-, -, hs⟩ | ⟨-, -, hs⟩
    · rw [hs] at h
      cases h.1
    · rw [hs] at h
      cases h.1
    all_goals
      rw [hs] at h
      exact absurd h.2 (piecesAfter_tail_ne_nil _ _ _ _ _)

/-- Octets with no ill-formed piece are the octets of the text that the pieces make up. -/
theorem eq_encode_of_pieces {t : Text} (h : pieces bytes = t.map some) : bytes = encode t := by
  induction t generalizing bytes with
  | nil => exact eq_nil_of_pieces_eq_nil h
  | cons c t ih =>
    obtain ⟨rest, rfl, hr⟩ := exists_of_pieces_eq_cons h
    rw [ih hr]
    rfl

/-- Pieces are a text together if all of them are characters. -/
theorem mapM_id_eq_some_iff {pieces : List (Option Char)} {t : Text} :
    pieces.mapM id = some t ↔ pieces = t.map some := by
  induction pieces generalizing t with
  | nil => cases t <;> simp
  | cons piece rest ih =>
    rw [List.mapM_cons]
    cases piece with
    | none => cases t <;> simp
    | some c =>
      have hb : (some c : Option Char) >>= (fun c => rest.mapM id >>= fun t => pure (c :: t)) =
          (rest.mapM id).map (c :: ·) := by
        cases rest.mapM id <;> rfl
      show (some c : Option Char) >>= _ = _ ↔ _
      rw [hb, Option.map_eq_some_iff]
      cases t with
      | nil => simp
      | cons d t => simp [ih, and_comm]

/-- **A strict reader makes a text of its octets and of nothing else.** -/
theorem decode?_eq_some_iff {t : Text} : decode? bytes = some t ↔ encode t = bytes := by
  rw [decode?, mapM_id_eq_some_iff]
  constructor
  · exact fun h => (eq_encode_of_pieces h).symm
  · rintro rfl
    exact pieces_encode t

end MailScreen.Utf8
