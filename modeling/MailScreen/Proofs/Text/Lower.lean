import Mathlib
import MailScreen.Proofs.Text.Line

/-!
# What lower case brings in

The lower case of a text has characters in it that the text has not, but none that means anything in
a header: a small letter of ASCII, or a character outside ASCII that is no blank (`Text.mem_lower`).
So a text without line breaks has none in lower case either.
-/
namespace MailScreen

/-- A character that lower case may bring in: a small letter of ASCII, or a character outside ASCII
that is no blank. -/
def IsSmall (c : Char) : Prop :=
  (0x61 ≤ c.toNat ∧ c.toNat ≤ 0x7A) ∨ 0x80 ≤ c.toNat ∧ isBlank c = false

instance (c : Char) : Decidable (IsSmall c) := inferInstanceAs (Decidable (_ ∧ _ ∨ _ ∧ _))

/-- The code points from 0x80 on of blanks, as ranges. -/
def wideBlanks : List (Nat × Nat) :=
  [(0x85, 0x85), (0xA0, 0xA0), (0x1680, 0x1680), (0x2000, 0x200A), (0x2028, 0x2029),
    (0x202F, 0x202F), (0x205F, 0x205F), (0x3000, 0x3000)]

/-- The images of a run from `image` to `last` are small. -/
def HasSmallImages (image last : Nat) : Prop :=
  (0x61 ≤ image ∧ last ≤ 0x7A) ∨
    0x80 ≤ image ∧ (last < 0xD800 ∨ 0xE000 ≤ image ∧ last < 0x110000) ∧
      ∀ range ∈ wideBlanks, last < range.1 ∨ range.2 < image

instance (image last : Nat) : Decidable (HasSmallImages image last) :=
  inferInstanceAs (Decidable (_ ∨ _ ∧ _ ∧ ∀ range ∈ wideBlanks, _))

/-- A code point is its own image, or is moved by a run that it is in. -/
theorem caseImage_eq (n : Nat) (runs : List CaseRun) :
    caseImage n runs = n ∨ ∃ run ∈ runs, run.1 ≤ n ∧ n ≤ run.2.1 ∧
      caseImage n runs = run.2.2.2 + (n - run.1) := by
  induction runs with
  | nil => exact .inl rfl
  | cons run rest ih =>
    obtain ⟨first, last, step, image⟩ := run
    rw [caseImage]
    by_cases hf : n < first
    · rw [if_pos hf]
      exact .inl rfl
    · rw [if_neg hf]
      by_cases hl : n ≤ last
      · rw [if_pos hl]
        split
        · exact .inr ⟨_, List.mem_cons_self .., Nat.le_of_not_lt hf, hl, rfl⟩
        · exact .inl rfl
      · rw [if_neg hl]
        rcases ih with h | ⟨run, hm, h⟩
        · exact .inl h
        · exact .inr ⟨run, List.mem_cons_of_mem _ hm, h⟩

/-- What stands at an image that is small is a small character. -/
theorem isSmall_ofNat {image last n : Nat} (h : HasSmallImages image last) (hi : image ≤ n)
    (hl : n ≤ last) : IsSmall (Char.ofNat n) := by
  have hv : n.isValidChar := by
    rcases h with h | ⟨-, h | h, -⟩
    · exact .inl (by omega)
    · exact .inl (by omega)
    · exact .inr (by omega)
  have hn : (Char.ofNat n).toNat = n := by rw [Char.toNat_ofNat, if_pos hv]
  rw [IsSmall, hn]
  rcases h with h | ⟨hw, -, hb⟩
  · exact .inl (by omega)
  · refine .inr ⟨Nat.le_trans hw hi, ?_⟩
    simp only [wideBlanks, List.forall_mem_cons, List.not_mem_nil, false_implies, implies_true,
      and_true] at hb
    unfold isBlank
    rw [hn]
    simp only [Bool.or_eq_false_iff, Bool.and_eq_false_iff, decide_eq_false_iff_not,
      beq_eq_false_iff_ne]
    omega

theorem hasSmallImages_lowerRuns :
    ∀ run ∈ lowerRuns, HasSmallImages run.2.2.2 (run.2.2.2 + (run.2.1 - run.1)) := by
  decide +kernel

/-- A character is its own lower case, or has a small one. -/
theorem lowerChar_eq_or_isSmall (c : Char) : lowerChar c = c ∨ IsSmall (lowerChar c) := by
  unfold lowerChar lowerCode
  split
  · split
    · rename_i hu
      simp only [Bool.and_eq_true, decide_eq_true_eq] at hu
      have hs : HasSmallImages 0x61 0x7A := by decide
      exact .inr (isSmall_ofNat hs (by omega) (by omega))
    · exact .inl (Char.ofNat_toNat c)
  · rcases caseImage_eq c.toNat lowerRuns with h | ⟨run, hm, hf, hl, h⟩
    · rw [h]
      exact .inl (Char.ofNat_toNat c)
    · rw [h]
      exact .inr (isSmall_ofNat (hasSmallImages_lowerRuns run hm) (by omega) (by omega))

/-- A character becomes one or more characters, which are small or the character itself. -/
theorem Text.lowerAfter_cons (before : Text) (c : Char) (rest : Text) :
    ∃ image, image ≠ [] ∧ (∀ d ∈ image, d = c ∨ IsSmall d) ∧
      lowerAfter before (c :: rest) = image ++ lowerAfter (c :: before) rest := by
  refine ⟨_, ?_, ?_, rfl⟩
  · split
    · exact List.cons_ne_nil _ _
    · split
      · exact List.cons_ne_nil _ _
      · exact List.cons_ne_nil _ _
  · -- capital sigma and the capital I with a dot have images of their own
    intro d hd
    split at hd
    · have hs : ∀ d ∈ ['ς', 'σ'], IsSmall d := by decide
      refine .inr (hs d ?_)
      split at hd
      · exact List.mem_cons.mpr (.inl (List.mem_singleton.mp hd))
      · exact List.mem_cons_of_mem _ hd
    · split at hd
      · have hs : ∀ d ∈ ['i', '\u0307'], IsSmall d := by decide
        exact .inr (hs d hd)
      · rw [List.mem_singleton.mp hd]
        exact lowerChar_eq_or_isSmall c

/-- The lower case of a text is that of its start and then that of what is left. -/
theorem Text.exists_lowerAfter_append (before s t : Text) :
    ∃ image, (image = [] → s = []) ∧ (∀ c ∈ image, c ∈ s ∨ IsSmall c) ∧
      lowerAfter before (s ++ t) = image ++ lowerAfter (s.reverse ++ before) t := by
  induction s generalizing before with
  | nil => exact ⟨[], fun _ => rfl, fun c hc => absurd hc List.not_mem_nil, rfl⟩
  | cons c s ih =>
    obtain ⟨first, hn, hfirst, hl⟩ := lowerAfter_cons before c (s ++ t)
    obtain ⟨image, -, himage, he⟩ := ih (c :: before)
    refine ⟨first ++ image, fun h => absurd (List.append_eq_nil_iff.mp h).1 hn, ?_, ?_⟩
    · intro d hd
      rcases List.mem_append.mp hd with hd | hd
      · exact (hfirst d hd).imp_left fun h => List.mem_cons.mpr (.inl h)
      · exact (himage d hd).imp_left (List.mem_cons_of_mem c)
    · rw [List.cons_append, hl, he, List.append_assoc, List.reverse_cons, List.append_assoc,
        List.singleton_append]

/-- **A character of the lower case of a text stands in the text or is small.** -/
theorem Text.mem_lower {t : Text} {c : Char} (h : c ∈ lower t) : c ∈ t ∨ IsSmall c := by
  obtain ⟨image, -, himage, hl⟩ := exists_lowerAfter_append [] t []
  rw [List.append_nil, lowerAfter, List.append_nil] at hl
  exact himage c (hl ▸ h)

theorem Text.notMem_lower {t : Text} {c : Char} (hc : ¬ IsSmall c) (ht : c ∉ t) : c ∉ lower t :=
  fun h => (mem_lower h).elim ht hc

/-- Every character has a lower case. -/
theorem Text.lower_ne_nil {t : Text} (ht : t ≠ []) : lower t ≠ [] := by
  obtain ⟨image, hn, -, hl⟩ := exists_lowerAfter_append [] t []
  rw [List.append_nil, lowerAfter, List.append_nil] at hl
  exact fun h => ht (hn (hl ▸ h))

/-- Lower case brings in no line break. -/
theorem NoBreak.lower {t : Text} (ht : NoBreak t) : NoBreak (Text.lower t) := by
  intro c hc
  rcases Text.mem_lower hc with h | h
  · exact ht c h
  · constructor
    · rintro rfl
      exact absurd h (by decide)
    · rintro rfl
      exact absurd h (by decide)

end MailScreen
