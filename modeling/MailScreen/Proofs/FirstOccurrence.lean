import Mathlib.Data.List.Induction
import Mathlib.Data.List.Nodup

/-!
# First occurrences

What is listed by where it first occurs is listed once. Types and extensions are listed so in tags,
and files in the report of a run, which goes through a list from front to back and adds to the end
what is new (`eraseDups_append_singleton`).
-/
namespace MailScreen

variable {α β : Type} [BEq α] [LawfulBEq α] [BEq β] [LawfulBEq β]

theorem nodup_eraseDups (items : List α) : items.eraseDups.Nodup := by
  -- what is left after the first item is shorter, but not the tail
  cases items with
  | nil => exact List.nodup_nil
  | cons item rest =>
    rw [List.eraseDups_cons, List.nodup_cons]
    refine ⟨?_, nodup_eraseDups _⟩
    rw [List.mem_eraseDups, List.mem_filter]
    simp
termination_by items.length
decreasing_by exact Nat.lt_succ_of_le (List.length_filter_le ..)

/-- One more item comes at the end, unless it is there already. -/
theorem eraseDups_append_singleton (items : List α) (item : α) :
    (items ++ [item]).eraseDups =
      if item ∈ items then items.eraseDups else items.eraseDups ++ [item] := by
  rw [List.eraseDups_append]
  by_cases hm : item ∈ items
  · have hr : [item].removeAll items = [] := by simp [List.removeAll, hm]
    rw [if_pos hm, hr, List.eraseDups_nil, List.append_nil]
  · have hr : [item].removeAll items = [item] := by simp [List.removeAll, hm]
    rw [if_neg hm, hr]
    rfl

/-- What different items come to first occurs where they do. -/
theorem eraseDups_map {f : α → β} {items : List α}
    (hf : ∀ item ∈ items, ∀ other ∈ items, f item = f other → item = other) :
    (items.map f).eraseDups = items.eraseDups.map f := by
  induction items using List.reverseRecOn with
  | nil => rfl
  | append_singleton items last ih =>
    have hm : f last ∈ items.map f ↔ last ∈ items := by
      constructor
      · intro h
        obtain ⟨item, hi, he⟩ := List.mem_map.mp h
        have heq := hf item (List.mem_append_left _ hi) last (by simp) he
        exact heq ▸ hi
      · exact List.mem_map_of_mem
    have ih := ih fun item hi other ho =>
      hf item (List.mem_append_left _ hi) other (List.mem_append_left _ ho)
    rw [List.map_append, List.map_singleton, eraseDups_append_singleton,
      eraseDups_append_singleton, ih]
    by_cases hl : last ∈ items
    · rw [if_pos hl, if_pos (hm.mpr hl)]
    · rw [if_neg hl, if_neg (hm.not.mpr hl), List.map_append, List.map_singleton]

end MailScreen
