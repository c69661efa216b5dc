import MailScreen.Attachment.FileName
import MailScreen.Proofs.Text.Lower
import MailScreen.Proofs.Text.Trim

/-!
# Extensions

A name has an extension if it ends in a dot and a word, and one line feed after that does not count
(`FileName.EndsIn`). There is then just one such word (`FileName.suffix?_eq_some_iff`), and **the
extension is its lower case** (`FileName.hasExtension_extension`). A word has neither dots nor
blanks nor any of the marks that lists and types are written with, and lower case brings none in
(`FileName.isWord_or_isSmall_of_mem_extension`).
-/
namespace MailScreen.FileName

/-- A name ends in a dot and a word, before a last line feed if there is one. -/
def EndsIn (name word : Text) : Prop :=
  word ≠ [] ∧ (∀ c ∈ word, isWord c = true) ∧
    ∃ before after, name = before ++ '.' :: (word ++ after) ∧ (after = [] ∨ after = ['\n'])

/-- **A text that is the extension of a name**: the lower case of the word that the name ends in,
and empty if it ends in none. -/
structure HasExtension (name extension : Text) : Prop where
  /-- The word that the name ends in, in lower case. -/
  ofWord : ∀ word, EndsIn name word → extension = Text.lower word
  /-- Nothing, if the name does not end in a dot and a word. -/
  ofNone : (¬ ∃ word, EndsIn name word) → extension = []

/-- A text is what is looked at, and perhaps one line feed. -/
theorem eq_dropLastLineFeed (t : Text) :
    ∃ after, t = dropLastLineFeed t ++ after ∧ (after = [] ∨ after = ['\n']) := by
  unfold dropLastLineFeed
  split
  · rename_i h
    refine ⟨['\n'], ?_, .inr rfl⟩
    exact (List.dropLast_append_getLast? '\n' h).symm
  · exact ⟨[], (List.append_nil t).symm, .inl rfl⟩

/-- Only one line feed is not looked at. -/
theorem dropLastLineFeed_append {t after : Text} (ht : t.getLast? ≠ some '\n')
    (ha : after = [] ∨ after = ['\n']) : dropLastLineFeed (t ++ after) = t := by
  unfold dropLastLineFeed
  rcases ha with rfl | rfl
  · rw [List.append_nil, if_neg ht]
  · rw [if_pos List.getLast?_concat, List.dropLast_concat]

/-- The word that is found is one that the name ends in. -/
theorem endsIn_of_suffix? {name word : Text} (h : suffix? name = some word) :
    EndsIn name word := by
  obtain ⟨after, hn, ha⟩ := eq_dropLastLineFeed name
  unfold suffix? at h
  simp only at h
  have hsplit := List.takeWhile_append_dropWhile (p := isWord)
    (l := (dropLastLineFeed name).reverse)
  split at h
  · rename_i before hd
    split at h
    · cases h
    · rename_i hw
      obtain rfl := Option.some.inj h
      refine ⟨?_, ?_, before.reverse, after, ?_, ha⟩
      · simpa using hw
      · intro c hc
        exact List.all_eq_true.mp List.all_takeWhile c (List.mem_reverse.mp hc)
      · rw [hd] at hsplit
        conv_lhs => rw [hn, ← List.reverse_reverse (dropLastLineFeed name), ← hsplit]
        simp
  · cases h

/-- A word that the name ends in is found. -/
theorem suffix?_of_endsIn {name word : Text} (h : EndsIn name word) :
    suffix? name = some word := by
  obtain ⟨hn, hw, before, after, rfl, ha⟩ := h
  have hlast : (before ++ '.' :: word).getLast? ≠ some '\n' := by
    intro hl
    rw [List.getLast?_append, List.getLast?_cons] at hl
    cases hg : word.getLast? with
    | none => exact hn (List.getLast?_eq_none_iff.mp hg)
    | some c =>
      rw [hg] at hl
      obtain rfl : c = '\n' := Option.some.inj hl
      exact absurd (hw _ (List.mem_of_getLast? hg)) (by decide)
  have hdrop : dropLastLineFeed (before ++ '.' :: (word ++ after)) = before ++ '.' :: word := by
    rw [← dropLastLineFeed_append hlast ha]
    congr 1
    simp
  obtain ⟨htake, hrest⟩ := Text.takeWhile_append_stop (p := isWord) (t := word.reverse)
    (s := '.' :: before.reverse) (fun c hc => hw c (List.mem_reverse.mp hc))
    (fun c hc => Option.some.inj hc ▸ by decide)
  unfold suffix?
  rw [hdrop]
  simp only [List.reverse_append, List.reverse_cons, List.append_assoc, List.singleton_append,
    htake, hrest]
  rw [if_neg (by simpa using hn), List.reverse_reverse]

/-- **The word that is found is the one that the name ends in.** -/
theorem suffix?_eq_some_iff {name word : Text} : suffix? name = some word ↔ EndsIn name word :=
  ⟨endsIn_of_suffix?, suffix?_of_endsIn⟩

/-- **Every name has the extension that it is given.** -/
theorem hasExtension_extension (name : Text) : HasExtension name (extension name) := by
  constructor
  · intro word h
    rw [extension, suffix?_eq_some_iff.mpr h]
    rfl
  · intro h
    cases hs : suffix? name with
    | none =>
      rw [extension, hs]
      rfl
    | some word => exact absurd ⟨word, suffix?_eq_some_iff.mp hs⟩ h

/-- An extension is made of word characters and what lower case brings in. -/
theorem isWord_or_isSmall_of_mem_extension {name : Text} {c : Char} (h : c ∈ extension name) :
    isWord c = true ∨ IsSmall c := by
  unfold extension at h
  cases hs : suffix? name with
  | none =>
    rw [hs] at h
    cases h
  | some word =>
    rw [hs] at h
    exact (Text.mem_lower h).imp_left ((suffix?_eq_some_iff.mp hs).2.1 c)

end MailScreen.FileName
