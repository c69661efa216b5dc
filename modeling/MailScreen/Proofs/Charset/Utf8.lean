import MailScreen.Charset.Utf8

/-!
# What UTF-8 writes it reads

The octets of a character are one well-formed piece, whatever stands after them, so a text is read
back as it was written (`Utf8.decode_encode`).
-/
namespace MailScreen.Utf8

theorem toNat_octet {n : Nat} (h : n < 256) : (octet n).toNat = n := by
  simp [octet, UInt8.toNat_ofNat', Nat.mod_eq_of_lt h]

/-- The code points of characters: surrogates are none. -/
theorem toNat_char_lt (c : Char) : c.toNat < 0xD800 ∨ 0xDFFF < c.toNat ∧ c.toNat < 0x110000 :=
  c.valid

theorem ofNat_of_eq_toNat {c : Char} {n : Nat} (h : n = c.toNat) : Char.ofNat n = c := by
  rw [h, Char.ofNat_toNat]

/-- An octet in the range that is asked for is taken, and the next must be a tail octet. -/
theorem piecesAfter_tail_succ {owed low high value n : Nat} (rest : Octets) (hn : n < 256)
    (hl : low ≤ n) (hh : n ≤ high) :
    piecesAfter (.tail (owed + 1) low high value) (octet n :: rest) =
      piecesAfter (.tail owed 0x80 0xBF (value * 64 + (n - 0x80))) rest := by
  simp [piecesAfter, toNat_octet hn, hl, hh]

/-- The last octet of a character in the range that is asked for completes it. -/
theorem piecesAfter_tail_zero {low high value n : Nat} {c : Char} (rest : Octets) (hn : n < 256)
    (hl : low ≤ n) (hh : n ≤ high) (hc : value * 64 + (n - 0x80) = c.toNat) :
    piecesAfter (.tail 0 low high value) (octet n :: rest) = some c :: piecesAfter .none rest := by
  simp [piecesAfter, toNat_octet hn, hl, hh, ofNat_of_eq_toNat hc]

/-- **A character is one piece**, whatever stands after it. -/
theorem pieces_encodeChar_append (c : Char) (rest : Octets) :
    pieces (encodeChar c ++ rest) = some c :: pieces rest := by
  have hv := toNat_char_lt c
  unfold encodeChar pieces
  simp only
  -- one case for each number of octets; the bounds on the second octet exclude surrogates and
  -- forms that are longer than they need be, so they hold by `hv` and by the case
  by_cases h1 : c.toNat < 0x80
  · have hs : start (octet c.toNat).toNat = ([some c], .none) := by
      rw [toNat_octet (by omega), start, if_pos h1, Char.ofNat_toNat]
    rw [if_pos h1, List.singleton_append, piecesAfter]
    simp only [hs, List.singleton_append]
  rw [if_neg h1]
  by_cases h2 : c.toNat < 0x800
  · have hs : start (octet (0xC0 + c.toNat / 64)).toNat =
        ([], .tail 0 0x80 0xBF (c.toNat / 64)) := by
      rw [toNat_octet (by omega), start, if_neg (by omega), if_neg (by omega), if_pos (by omega),
        Nat.add_sub_cancel_left]
    rw [if_pos h2, List.cons_append, piecesAfter]
    simp only [hs, List.nil_append, List.singleton_append]
    exact piecesAfter_tail_zero rest (by omega) (by omega) (by omega) (by omega)
  rw [if_neg h2]
  by_cases h3 : c.toNat < 0x10000
  · have hs : start (octet (0xE0 + c.toNat / 4096)).toNat =
        ([], .tail 1 (if 0xE0 + c.toNat / 4096 = 0xE0 then 0xA0 else 0x80)
          (if 0xE0 + c.toNat / 4096 = 0xED then 0x9F else 0xBF) (c.toNat / 4096)) := by
      rw [toNat_octet (by omega), start, if_neg (by omega), if_neg (by omega), if_neg (by omega),
        if_pos (by omega), Nat.add_sub_cancel_left]
    rw [if_pos h3, List.cons_append, piecesAfter]
    simp only [hs, List.nil_append, List.cons_append]
    rw [piecesAfter_tail_succ _ (by omega) (by split <;> omega) (by split <;> omega)]
    exact piecesAfter_tail_zero rest (by omega) (by omega) (by omega) (by omega)
  rw [if_neg h3]
  have hs : start (octet (0xF0 + c.toNat / 262144)).toNat =
      ([], .tail 2 (if 0xF0 + c.toNat / 262144 = 0xF0 then 0x90 else 0x80)
        (if 0xF0 + c.toNat / 262144 = 0xF4 then 0x8F else 0xBF) (c.toNat / 262144)) := by
    rw [toNat_octet (by omega), start, if_neg (by omega), if_neg (by omega), if_neg (by omega),
      if_neg (by omega), if_pos (by omega), Nat.add_sub_cancel_left]
  rw [List.cons_append, piecesAfter]
  simp only [hs, List.nil_append, List.cons_append]
  rw [piecesAfter_tail_succ _ (by omega) (by split <;> omega) (by split <;> omega),
    piecesAfter_tail_succ _ (by omega) (by omega) (by omega)]
  exact piecesAfter_tail_zero rest (by omega) (by omega) (by omega) (by omega)

theorem pieces_encode (t : Text) : pieces (encode t) = t.map some := by
  induction t with
  | nil => rfl
  | cons c rest ih =>
    show pieces (encodeChar c ++ encode rest) = _
    rw [pieces_encodeChar_append, ih, List.map_cons]

/-- **A text in UTF-8 is read back as it was written.** -/
theorem decode_encode (t : Text) : decode (encode t) = t := by
  rw [decode, pieces_encode, List.map_map]
  exact List.map_id t

/-! ## Octets of ASCII -/

/-- A character of ASCII is one octet. -/
theorem encodeChar_of_lt {c : Char} (hc : c.toNat < 0x80) : encodeChar c = [octet c.toNat] := by
  simp [encodeChar, hc]

theorem encode_cons_of_lt {c : Char} (hc : c.toNat < 0x80) (t : Text) :
    encode (c :: t) = octet c.toNat :: encode t := by
  rw [encode, List.flatMap_cons, encodeChar_of_lt hc]
  rfl

/-- A character outside ASCII has only octets outside ASCII. -/
theorem le_of_mem_encodeChar {c : Char} (hc : 0x80 ≤ c.toNat) :
    ∀ b ∈ encodeChar c, 0x80 ≤ b.toNat := by
  have hv := toNat_char_lt c
  have hm : ∀ n < 256, 0x80 ≤ n → 0x80 ≤ (octet n).toNat := by
    intro n hn hle
    rwa [toNat_octet hn]
  unfold encodeChar
  simp only
  rw [if_neg (by omega)]
  split
  · simp only [List.forall_mem_cons, List.not_mem_nil, false_imp_iff, implies_true, and_true]
    exact ⟨hm _ (by omega) (by omega), hm _ (by omega) (by omega)⟩
  · split
    · simp only [List.forall_mem_cons, List.not_mem_nil, false_imp_iff, implies_true, and_true]
      exact ⟨hm _ (by omega) (by omega), hm _ (by omega) (by omega), hm _ (by omega) (by omega)⟩
    · simp only [List.forall_mem_cons, List.not_mem_nil, false_imp_iff, implies_true, and_true]
      exact ⟨hm _ (by omega) (by omega), hm _ (by omega) (by omega), hm _ (by omega) (by omega),
        hm _ (by omega) (by omega)⟩

/-- **The octet of a character of ASCII is in a text exactly if the character is.** -/
theorem octet_mem_encode_iff {c : Char} (hc : c.toNat < 0x80) (t : Text) :
    octet c.toNat ∈ encode t ↔ c ∈ t := by
  rw [encode, List.mem_flatMap]
  constructor
  · rintro ⟨d, hd, hm⟩
    by_cases hlt : d.toNat < 0x80
    · rw [encodeChar_of_lt hlt, List.mem_singleton] at hm
      have hn : c.toNat = d.toNat := by
        rw [← toNat_octet (Nat.lt_trans hc (by decide)), hm,
          toNat_octet (Nat.lt_trans hlt (by decide))]
      have he : c = d := by rw [← Char.ofNat_toNat c, ofNat_of_eq_toNat hn]
      exact he ▸ hd
    · have hle := le_of_mem_encodeChar (Nat.not_lt.mp hlt) _ hm
      rw [toNat_octet (Nat.lt_trans hc (by decide))] at hle
      omega
  · intro h
    exact ⟨c, h, by rw [encodeChar_of_lt hc]; exact List.mem_singleton_self _⟩

end MailScreen.Utf8
