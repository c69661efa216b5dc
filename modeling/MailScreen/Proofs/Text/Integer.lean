import Mathlib.Data.List.Basic
import MailScreen.Proofs.Text.Ascii
import MailScreen.Text.Integer

/-!
# Integers that are written and read

An integer is shown in decimal, with a minus sign if it is negative. **What is shown is read**
(`readInteger_toString`), unless there are more digits than are read. A word of letters is never
read as a number (`readInteger_word`).
-/
namespace MailScreen

/-! ## Digits -/

theorem forall_mem_toDigits {p : Char → Prop}
    (hp : ∀ n < 0x80, (Char.ofNat n).isDigit = true → p (Char.ofNat n)) (n : Nat) :
    ∀ c ∈ Nat.toDigits 10 n, p c := by
  intro c hc
  have hd : c.isDigit = true := Nat.isDigit_of_mem_toDigits (by decide) (by decide) hc
  have hlt : c.toNat < 0x80 := by
    simp only [Char.isDigit, Bool.and_eq_true, decide_eq_true_eq] at hd
    exact Nat.lt_of_le_of_lt (UInt32.le_iff_toNat_le.mp hd.2) (by decide)
  exact Ascii.forall_of_lt (p := fun c => c.isDigit = true → p c) hp hlt hd

/-- A number has no more digits than a greater one. -/
theorem length_toDigits_le {m n k : Nat} (hm : m ≤ n) (hk : 0 < k)
    (h : (Nat.toDigits 10 n).length ≤ k) : (Nat.toDigits 10 m).length ≤ k := by
  rw [Nat.length_toDigits_le_iff (by decide) hk] at h ⊢
  exact Nat.lt_of_le_of_lt hm h

/-- Digits that are read one after the other come to the number that they show. -/
theorem foldl_digitValue?_toDigits (n : Nat) :
    (Nat.toDigits 10 n).foldl (fun value c => value * 10 + (digitValue? c).getD 0) 0 = n := by
  have hd : ∀ c ∈ Nat.toDigits 10 n, (digitValue? c).getD 0 = c.toNat - '0'.toNat :=
    forall_mem_toDigits (by decide +kernel) n
  have hf : (Nat.toDigits 10 n).foldl (fun value c => value * 10 + (digitValue? c).getD 0) 0 =
      (Nat.toDigits 10 n).foldl (fun value c => 10 * value + (c.toNat - '0'.toNat)) 0 :=
    List.foldl_ext _ _ 0 fun value c hc => by rw [hd c hc, Nat.mul_comm]
  rw [hf, ← Nat.ofDigitChars_eq_foldl, Nat.ofDigitChars_toDigits (by decide) (by decide)]

/-- **A number that is written in decimal is read**, unless it has too many digits. -/
theorem digitsValue?_toDigits {n : Nat} (h : (Nat.toDigits 10 n).length ≤ maxIntegerDigits) :
    digitsValue? (Nat.toDigits 10 n) = .ok n := by
  rw [digitsValue?, if_neg (Nat.not_lt.mpr h), foldl_digitValue?_toDigits]

/-! ## Integers -/

/-- A number is shown by its digits. -/
theorem toList_toString_nat (n : Nat) : (toString n).toList = Nat.toDigits 10 n := by
  show (Nat.repr n).toList = _
  rw [Nat.repr_eq_ofList_toDigits, String.toList_ofList]

/-- An integer is shown by the digits of its amount, after a minus sign if it is negative. -/
theorem toList_toString_int (n : Int) : (toString n).toList =
    if n < 0 then '-' :: Nat.toDigits 10 n.natAbs else Nat.toDigits 10 n.natAbs := by
  cases n with
  | ofNat m =>
    have hm : ¬ Int.ofNat m < 0 := Int.not_lt.mpr (Int.natCast_nonneg m)
    rw [if_neg hm]
    exact toList_toString_nat m
  | negSucc m =>
    rw [if_pos (Int.negSucc_lt_zero m)]
    show ("-" ++ toString (m + 1)).toList = _
    rw [String.toList_append, toList_toString_nat]
    rfl

/-- Digits are read to their end. -/
theorem readDigits_digits {digits : Text}
    (h : ∀ c ∈ digits, c ≠ '_' ∧ isDecimalDigit c = true) {afterDigit : Bool} {count : Nat}
    (ha : afterDigit = true ∨ count = 0) (value : Nat) :
    readDigits afterDigit count value digits =
      some (count + digits.length,
        digits.foldl (fun value c => value * 10 + (digitValue? c).getD 0) value, []) := by
  induction digits generalizing afterDigit count value with
  | nil => rw [readDigits, if_pos (by simpa using ha)]; rfl
  | cons c rest ih =>
    rw [List.forall_mem_cons] at h
    obtain ⟨⟨hc, hd⟩, hrest⟩ := h
    obtain ⟨d, hd⟩ := Option.isSome_iff_exists.mp hd
    rw [readDigits, if_neg hc, hd]
    show readDigits true (count + 1) (value * 10 + d) rest = _
    rw [ih hrest (.inl rfl), List.length_cons, List.foldl_cons, hd, Nat.add_right_comm,
      Nat.add_assoc]
    rfl

/-- A text that starts with neither a blank nor a sign is read from its start. -/
theorem readInteger_unsigned {c : Char} (hb : isNumberBlank c = false) (hm : c ≠ '-')
    (hp : c ≠ '+') (rest : Text) : readInteger (c :: rest) =
      match readDigits false 0 0 (c :: rest) with
      | none => .error (.malformed (c :: rest))
      | some (count, value, left) =>
        if count > maxIntegerDigits then .error (.tooLong count)
        else if count = 0 || !left.all isNumberBlank then .error (.malformed (c :: rest))
        else .ok value := by
  rw [readInteger, List.dropWhile_cons_of_neg (by simp [hb])]
  split
  rename_i negative digits hs
  have hs' : (false, c :: rest) = (negative, digits) := by
    rw [← hs]
    split
    · rename_i _ h
      exact absurd (List.cons.inj h).1 hm
    · rename_i _ h
      exact absurd (List.cons.inj h).1 hp
    · rfl
  obtain ⟨rfl, rfl⟩ := Prod.mk.inj hs'
  rfl

/-- **An integer that is shown is read**, unless it has too many digits. -/
theorem readInteger_toString {n : Int}
    (h : (Nat.toDigits 10 n.natAbs).length ≤ maxIntegerDigits) :
    readInteger (toString n).toList = .ok n := by
  have hc : ∀ c ∈ Nat.toDigits 10 n.natAbs, (c ≠ '_' ∧ isDecimalDigit c = true) ∧
      isNumberBlank c = false ∧ c ≠ '-' ∧ c ≠ '+' :=
    forall_mem_toDigits (by decide +kernel) n.natAbs
  have hread := readDigits_digits (fun c hm => (hc c hm).1) (.inr rfl : false = true ∨ 0 = 0) 0
  rw [foldl_digitValue?_toDigits, Nat.zero_add] at hread
  have hcount : ¬ (Nat.toDigits 10 n.natAbs).length > maxIntegerDigits := Nat.not_lt.mpr h
  have hpos : (Nat.toDigits 10 n.natAbs).length ≠ 0 := by simp
  rw [toList_toString_int]
  by_cases hn : n < 0
  · have hb : ('-' :: Nat.toDigits 10 n.natAbs).dropWhile isNumberBlank =
        '-' :: Nat.toDigits 10 n.natAbs := rfl
    rw [if_pos hn, readInteger, hb]
    simp only [hread, hcount, hpos, if_false, decide_false, List.all_nil, Bool.not_true,
      Bool.or_false, Bool.false_eq_true]
    refine congrArg Except.ok ?_
    show -(n.natAbs : Int) = n
    omega
  · generalize Nat.toDigits 10 n.natAbs = digits at *
    rw [if_neg hn]
    cases digits with
    | nil => exact absurd rfl hpos
    | cons d rest =>
      obtain ⟨-, hblank, hminus, hplus⟩ := hc d (List.mem_cons_self ..)
      rw [readInteger_unsigned hblank hminus hplus, hread]
      simp only [hcount, hpos, if_false, decide_false, List.all_nil, Bool.not_true,
        Bool.or_false, Bool.false_eq_true]
      exact congrArg Except.ok (by omega)

/-- A word of letters is no number. -/
theorem readInteger_word {t : Text} (hn : t ≠ []) (h : ∀ c ∈ t, c.isAlpha = true) :
    readInteger t = .error (.malformed t) := by
  cases t with
  | nil => exact absurd rfl hn
  | cons c rest =>
    have ha : c.isAlpha = true := h c (List.mem_cons_self ..)
    obtain ⟨hblank, hminus, hplus, hline, hdigit⟩ := Ascii.forall_of_isAlpha
      (p := fun c =>
        isNumberBlank c = false ∧ c ≠ '-' ∧ c ≠ '+' ∧ c ≠ '_' ∧ digitValue? c = none)
      (by decide +kernel) ha
    rw [readInteger_unsigned hblank hminus hplus, readDigits, if_neg hline, hdigit]
    rfl

end MailScreen
