import Mathlib.Data.List.Basic
import Mathlib.Data.List.TakeWhile
import MailScreen.Text.Blank

/-!
# What trimming leaves

Trimming takes characters from the ends of a text and leaves the others as they are. Nothing new
comes in, and a text that neither starts nor ends with a blank is left alone.
-/
namespace MailScreen

theorem isBlank_of_isSpaceOrTab {c : Char} (h : isSpaceOrTab c = true) : isBlank c = true := by
  have hc : c = ' ' ∨ c = '\t' := by simpa [isSpaceOrTab] using h
  rcases hc with rfl | rfl <;> decide

theorem isSpaceOrTab_of_not_isBlank {c : Char} (h : isBlank c = false) :
    isSpaceOrTab c = false := by
  rw [Bool.eq_false_iff]
  intro hs
  rw [isBlank_of_isSpaceOrTab hs] at h
  cases h

namespace Text

theorem dropEndWhile_sublist (p : Char → Bool) (t : Text) : (dropEndWhile p t).Sublist t := by
  have h := List.reverse_sublist.mpr (List.dropWhile_sublist p (l := t.reverse))
  rwa [List.reverse_reverse] at h

theorem trimBy_sublist (p : Char → Bool) (t : Text) : (trimBy p t).Sublist t :=
  (dropEndWhile_sublist p _).trans (List.dropWhile_sublist p)

/-- Trimming leaves a part of the text. -/
theorem trim_sublist (t : Text) : (trim t).Sublist t := trimBy_sublist isBlank t

/-- What holds of all elements of a list holds of the first element of what starts with it. -/
theorem forall_head?_append {α : Type} {p : α → Prop} {s t : List α} (hn : s ≠ [])
    (h : ∀ c ∈ s, p c) : ∀ c ∈ (s ++ t).head?, p c := by
  intro c hc
  rw [List.head?_append_of_ne_nil _ hn] at hc
  exact h c (List.mem_of_head? hc)

/-- What holds of the last elements of two lists holds of that of both together. -/
theorem forall_getLast?_append {α : Type} {p : α → Prop} {s t : List α}
    (hs : ∀ c ∈ s.getLast?, p c) (ht : ∀ c ∈ t.getLast?, p c) : ∀ c ∈ (s ++ t).getLast?, p c := by
  intro c hc
  rw [List.getLast?_append] at hc
  rcases Option.or_eq_some_iff.mp hc with h | ⟨-, h⟩
  · exact ht c h
  · exact hs c h

theorem dropWhile_of_head {α : Type} {p : α → Bool} {t : List α}
    (h : ∀ c ∈ t.head?, p c = false) : t.dropWhile p = t := by
  cases t with
  | nil => rfl
  | cons c rest => rw [List.dropWhile_cons_of_neg (by simp [h c rfl])]

/-- What is taken up to an element of another kind, and what is left. -/
theorem takeWhile_append_stop {α : Type} {p : α → Bool} {t s : List α} (ht : ∀ c ∈ t, p c = true)
    (hs : ∀ c ∈ s.head?, p c = false) :
    (t ++ s).takeWhile p = t ∧ (t ++ s).dropWhile p = s := by
  rw [List.takeWhile_append_of_pos ht, List.dropWhile_append_of_pos ht, dropWhile_of_head hs]
  cases s with
  | nil => simp
  | cons c rest =>
    have hc : p c = false := hs c rfl
    simp [hc]

/-- Nothing is left of blanks. -/
theorem trim_of_blanks {t : Text} (h : ∀ c ∈ t, isBlank c = true) : trim t = [] := by
  rw [trim, trimBy, List.dropWhile_eq_nil_iff.mpr h]
  rfl

/-- Something is left unless there are only blanks. -/
theorem trim_eq_nil_iff {t : Text} : trim t = [] ↔ isAllBlank t = true := by
  rw [isAllBlank, List.all_eq_true]
  refine ⟨fun h => ?_, trim_of_blanks⟩
  have hend : ∀ c ∈ (t.dropWhile isBlank).reverse, isBlank c = true :=
    List.dropWhile_eq_nil_iff.mp (List.reverse_eq_nil_iff.mp h)
  intro c hc
  rw [← List.takeWhile_append_dropWhile (p := isBlank) (l := t)] at hc
  rcases List.mem_append.mp hc with hc | hc
  · exact List.mem_takeWhile_imp hc
  · exact hend c (List.mem_reverse.mpr hc)

/-- What trimming leaves is followed by blanks, up to the end of the text. -/
theorem trim_append_blanks (t : Text) :
    trim t ++ ((t.dropWhile isBlank).reverse.takeWhile isBlank).reverse = t.dropWhile isBlank := by
  rw [trim, trimBy, dropEndWhile, ← List.reverse_append, List.takeWhile_append_dropWhile,
    List.reverse_reverse]

/-- What trimming leaves neither starts nor ends with a blank. -/
theorem ends_trim (t : Text) : (∀ c ∈ (trim t).head?, isBlank c = false) ∧
    ∀ c ∈ (trim t).getLast?, isBlank c = false := by
  have hhead := List.head?_dropWhile_not isBlank t
  have hlast := List.head?_dropWhile_not isBlank (t.dropWhile isBlank).reverse
  constructor
  · intro c hc
    have hne : trim t ≠ [] := by
      intro h
      rw [h] at hc
      cases hc
    rw [← trim_append_blanks, List.head?_append_of_ne_nil _ hne, hc] at hhead
    simpa using hhead
  · intro c hc
    rw [trim, trimBy, dropEndWhile, List.getLast?_reverse] at hc
    rw [hc] at hlast
    simpa using hlast

/-- A text that is left alone neither starts nor ends with a blank. -/
theorem ends_of_trim {t : Text} (h : trim t = t) :
    (∀ c ∈ t.head?, isBlank c = false) ∧ ∀ c ∈ t.getLast?, isBlank c = false := by
  have he := ends_trim t
  rwa [h] at he

/-- Characters of a class around a text that neither starts nor ends with one are all that trimming
takes. -/
theorem trimBy_surrounded {p : Char → Bool} {before t after : Text} (hb : ∀ c ∈ before, p c = true)
    (ha : ∀ c ∈ after, p c = true) (hh : ∀ c ∈ t.head?, p c = false)
    (hl : ∀ c ∈ t.getLast?, p c = false) : trimBy p (before ++ t ++ after) = t := by
  have hend : ∀ c ∈ t.reverse.head?, p c = false := by
    rw [List.head?_reverse]
    exact hl
  by_cases ht : t = []
  · rw [ht, List.append_nil, trimBy,
      List.dropWhile_eq_nil_iff.mpr (List.forall_mem_append.mpr ⟨hb, ha⟩)]
    rfl
  · have hstart : ∀ c ∈ (t ++ after).head?, p c = false := by
      rw [List.head?_append_of_ne_nil _ ht]
      exact hh
    rw [trimBy, List.append_assoc, List.dropWhile_append_of_pos hb, dropWhile_of_head hstart,
      dropEndWhile, List.reverse_append,
      List.dropWhile_append_of_pos (by simpa using ha), dropWhile_of_head hend,
      List.reverse_reverse]

theorem trim_surrounded {before t after : Text} (hb : ∀ c ∈ before, isBlank c = true)
    (ha : ∀ c ∈ after, isBlank c = true) (hh : ∀ c ∈ t.head?, isBlank c = false)
    (hl : ∀ c ∈ t.getLast?, isBlank c = false) : trim (before ++ t ++ after) = t :=
  trimBy_surrounded hb ha hh hl

/-- A text that neither starts nor ends with a blank is left alone. -/
theorem trim_of_ends {t : Text} (hh : ∀ c ∈ t.head?, isBlank c = false)
    (hl : ∀ c ∈ t.getLast?, isBlank c = false) : trim t = t := by
  have h := trim_surrounded (List.forall_mem_nil _) (List.forall_mem_nil _) hh hl
  rwa [List.nil_append, List.append_nil] at h

theorem trim_trim (t : Text) : trim (trim t) = trim t :=
  trim_of_ends (ends_trim t).1 (ends_trim t).2

/-- What trimming takes are blanks before and after what it leaves. -/
theorem exists_surrounded (t : Text) : ∃ before after, t = before ++ trim t ++ after ∧
    (∀ c ∈ before, isBlank c = true) ∧ ∀ c ∈ after, isBlank c = true := by
  refine ⟨t.takeWhile isBlank, ((t.dropWhile isBlank).reverse.takeWhile isBlank).reverse, ?_,
    fun c hc => List.mem_takeWhile_imp hc,
    fun c hc => List.mem_takeWhile_imp (List.mem_reverse.mp hc)⟩
  rw [List.append_assoc, trim_append_blanks, List.takeWhile_append_dropWhile]

/-- Blanks around a text make no difference to what trimming leaves of it. -/
theorem trim_append_of_blanks {before after : Text} (hb : ∀ c ∈ before, isBlank c = true)
    (ha : ∀ c ∈ after, isBlank c = true) (t : Text) : trim (before ++ t ++ after) = trim t := by
  obtain ⟨before', after', ht, hb', ha'⟩ := exists_surrounded t
  have hr : before ++ t ++ after = (before ++ before') ++ trim t ++ (after' ++ after) := by
    conv_lhs => rw [ht]
    simp only [List.append_assoc]
  rw [hr]
  exact trim_surrounded (List.forall_mem_append.mpr ⟨hb, hb'⟩)
    (List.forall_mem_append.mpr ⟨ha', ha⟩) (ends_trim t).1 (ends_trim t).2

end Text
end MailScreen
