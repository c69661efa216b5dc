import Mathlib.Data.List.Basic
import Mathlib.Data.List.Nodup
import MailScreen.Proofs.FirstOccurrence
import MailScreen.Table

/-!
# What tables hold

A table is looked at in two ways: by what is found under a name, and by the order in which its names
came in. Writing a value changes the first at its own name only (`find?_insert`) and the second only
if the name is new (`names_insert`). A table that is written from a list of named values sends each
name to the last value under it and has every name once (`isLastOf_ofList`), where it first comes
(`names_ofList`).
-/
namespace MailScreen.Table

variable {α : Type} {table : Table α} {name : Text}

/-! ## Names -/

theorem names_cons (entry : Text × α) (rest : Table α) :
    names (entry :: rest) = entry.1 :: names rest := rfl

theorem insert_ne_nil (table : Table α) (name : Text) (value : α) :
    table.insert name value ≠ [] := by
  unfold insert
  split
  · simp
  · split <;> simp

/-- A new name comes at the end. -/
theorem insert_of_notMem (h : name ∉ table.names) (value : α) :
    table.insert name value = table ++ [(name, value)] := by
  induction table with
  | nil => rfl
  | cons entry rest ih =>
    rw [names_cons, List.mem_cons, not_or] at h
    rw [insert, if_neg (by simpa using Ne.symm h.1), ih h.2]
    rfl

theorem names_append (first second : Table α) :
    names (first ++ second) = first.names ++ second.names := List.map_append

/-- What is made of the values does not change the names. -/
theorem names_map {β : Type} (table : Table α) (f : α → β) :
    names (table.map fun entry => (entry.1, f entry.2)) = table.names := by
  rw [names, List.map_map]
  rfl

theorem names_erase (table : Table α) (name : Text) :
    (table.erase name).names = table.names.filter (· != name) := by
  rw [erase, names, names, List.filter_map]
  rfl

theorem erase_append (first second : Table α) (name : Text) :
    erase (first ++ second) name = first.erase name ++ second.erase name := List.filter_append ..

/-- A name that is taken out and written again comes at the end. -/
theorem insert_erase (table : Table α) (name : Text) (value : α) :
    (table.erase name).insert name value = table.erase name ++ [(name, value)] :=
  insert_of_notMem (by simp [names_erase]) value

/-- Writing under a name that is there keeps the names and their order. -/
theorem names_insert (table : Table α) (name : Text) (value : α) :
    (table.insert name value).names =
      if name ∈ table.names then table.names else table.names ++ [name] := by
  induction table with
  | nil => rfl
  | cons entry rest ih =>
    obtain ⟨other, old⟩ := entry
    rw [insert]
    by_cases ho : other = name
    · rw [if_pos (by simpa using ho), if_pos (by simp [names, ho]), ← ho]
      rfl
    · rw [if_neg (by simpa using ho), names_cons, names_cons, ih]
      by_cases hn : name ∈ names rest
      · rw [if_pos hn, if_pos (List.mem_cons_of_mem _ hn)]
      · rw [if_neg hn, if_neg (List.not_mem_cons_of_ne_of_not_mem (Ne.symm ho) hn),
          List.cons_append]

theorem nodup_names_insert (h : table.names.Nodup) (name : Text) (value : α) :
    (table.insert name value).names.Nodup := by
  rw [names_insert]
  split
  · exact h
  · rename_i hn
    exact List.nodup_append.mpr ⟨h, List.nodup_singleton name, by
      rintro key hk other ho rfl
      exact hn (List.mem_singleton.mp ho ▸ hk)⟩

/-! ## What is found -/

theorem exists_find?_of_has (h : table.has name = true) :
    ∃ value, table.find? name = some value := by
  obtain ⟨entry, he, hn⟩ := List.any_eq_true.mp h
  have hs : (List.find? (fun entry => entry.1 == name) table).isSome = true :=
    List.find?_isSome.mpr ⟨entry, he, hn⟩
  obtain ⟨found, hf⟩ := Option.isSome_iff_exists.mp hs
  exact ⟨found.2, by rw [find?, hf]; rfl⟩

/-- Where no name comes twice, what stands under a name is found under it. -/
theorem find?_of_mem {value : α} (hn : table.names.Nodup) (h : (name, value) ∈ table) :
    table.find? name = some value := by
  induction table with
  | nil => exact absurd h List.not_mem_nil
  | cons entry rest ih =>
    rw [names_cons, List.nodup_cons] at hn
    rcases List.mem_cons.mp h with rfl | h
    · simp [find?]
    · have hne : entry.1 ≠ name := fun he => hn.1 (he ▸ List.mem_map_of_mem h)
      rw [find?, List.find?_cons_of_neg (by simpa using hne)]
      exact ih hn.2 h

theorem mem_of_find? {value : α} (h : table.find? name = some value) : (name, value) ∈ table := by
  obtain ⟨entry, he, rfl⟩ := Option.map_eq_some_iff.mp h
  have hn : entry.1 = name := by simpa using List.find?_some he
  rw [← hn]
  exact List.mem_of_find?_eq_some he

/-- A name is in a table exactly if something is found under it. -/
theorem mem_names_iff : name ∈ table.names ↔ ∃ value, table.find? name = some value := by
  constructor
  · intro h
    obtain ⟨entry, he, hn⟩ := List.mem_map.mp h
    exact exists_find?_of_has (List.any_eq_true.mpr ⟨entry, he, by simpa using hn⟩)
  · rintro ⟨value, h⟩
    exact List.mem_map_of_mem (mem_of_find? h)

/-- Where no name comes twice, the order of a table does not matter. -/
theorem find?_perm {other : Table α} (hn : table.names.Nodup) (h : other.Perm table) (name : Text) :
    other.find? name = table.find? name := by
  have ho : other.names.Nodup := (h.map _).nodup_iff.mpr hn
  refine Option.ext fun value => ⟨fun hv => ?_, fun hv => ?_⟩
  · exact find?_of_mem hn (h.subset (mem_of_find? hv))
  · exact find?_of_mem ho (h.symm.subset (mem_of_find? hv))

/-- The value that is written under a name is found under it, and the others stay. -/
theorem find?_insert (table : Table α) (name : Text) (value : α) (key : Text) :
    (table.insert name value).find? key = if name = key then some value else table.find? key := by
  induction table with
  | nil =>
    by_cases hk : name = key
    · simp [insert, find?, hk]
    · simp [insert, find?, hk]
  | cons entry rest ih =>
    obtain ⟨other, old⟩ := entry
    unfold find? at ih
    rw [insert]
    by_cases ho : other = name
    · rw [if_pos (by simpa using ho)]
      by_cases hk : name = key
      · simp [find?, hk]
      · simp [find?, hk, ho]
    · rw [if_neg (by simpa using ho), find?, find?]
      by_cases hk : other = key
      · rw [List.find?_cons_of_pos (by simpa using hk), List.find?_cons_of_pos (by simpa using hk),
          if_neg (fun h => ho (hk.trans h.symm))]
      · rw [List.find?_cons_of_neg (by simpa using hk), List.find?_cons_of_neg (by simpa using hk),
          ih]

/-- A value under a new name is the one that is found under it; the others stay. -/
theorem find?_insert_of_not_has (h : table.has name = false) (value : α) (key : Text) :
    (table.insert name value).find? key =
      (table.find? key).or (if name = key then some value else none) := by
  rw [find?_insert]
  by_cases hk : name = key
  · have hn : table.find? key = none := by
      rw [find?, Option.map_eq_none_iff, List.find?_eq_none, ← hk]
      exact List.any_eq_false.mp h
    rw [if_pos hk, if_pos hk, hn]
    rfl
  · rw [if_neg hk, if_neg hk, Option.or_none]

/-! ## Tables of lists -/

/-- A table that sends each name of a list of named values to the last value under it, that has no
other names, and has each of them once. -/
structure IsLastOf (table : Table α) (entries : List (Text × α)) : Prop where
  /-- No name comes twice. -/
  nodup : table.names.Nodup
  /-- What is found under a name is the last value under it. -/
  find?_eq : ∀ key, table.find? key = (entries.reverse.find? fun entry => entry.1 == key).map (·.2)

/-- Such a table has the names of the list. -/
theorem IsLastOf.mem_names_iff {entries : List (Text × α)} (h : table.IsLastOf entries)
    {key : Text} : key ∈ table.names ↔ key ∈ names entries := by
  rw [Table.mem_names_iff, ← Option.isSome_iff_exists, h.find?_eq, Option.isSome_map,
    List.find?_isSome]
  simp [names]

theorem insertAll_cons (table : Table α) (entry : Text × α) (rest : Table α) :
    table.insertAll (entry :: rest) = (table.insert entry.1 entry.2).insertAll rest := rfl

theorem nodup_names_insertAll (h : table.names.Nodup) (entries : List (Text × α)) :
    (table.insertAll entries).names.Nodup := by
  induction entries generalizing table with
  | nil => exact h
  | cons entry rest ih => exact ih (nodup_names_insert h entry.1 entry.2)

theorem find?_insertAll (table : Table α) (entries : List (Text × α)) (key : Text) :
    (table.insertAll entries).find? key =
      ((entries.reverse.find? fun entry => entry.1 == key).map (·.2)).or (table.find? key) := by
  induction entries generalizing table with
  | nil => rfl
  | cons entry rest ih =>
    rw [insertAll_cons, ih, find?_insert, List.reverse_cons, List.find?_append]
    cases rest.reverse.find? fun entry => entry.1 == key with
    | some found => rfl
    | none =>
      by_cases hk : entry.1 = key
      · simp [hk]
      · simp [hk]

/-- What is found under a name when one table has been written over another. -/
theorem find?_insertAll_of_nodup {other : Table α} (hn : other.names.Nodup) (key : Text) :
    (table.insertAll other).find? key = (other.find? key).or (table.find? key) := by
  rw [find?_insertAll]
  show (find? other.reverse key).or _ = _
  rw [find?_perm hn (List.reverse_perm other)]

theorem mem_of_mem_insert {entry : Text × α} {value : α} (h : entry ∈ table.insert name value) :
    entry ∈ table ∨ entry = (name, value) := by
  induction table with
  | nil => exact .inr (List.mem_singleton.mp h)
  | cons first rest ih =>
    obtain ⟨other, old⟩ := first
    rw [insert] at h
    split at h
    · rcases List.mem_cons.mp h with h | h
      · exact .inr h
      · exact .inl (List.mem_cons_of_mem _ h)
    · rcases List.mem_cons.mp h with h | h
      · exact .inl (List.mem_cons.mpr (.inl h))
      · exact (ih h).imp_left (List.mem_cons_of_mem _)

theorem mem_of_mem_insertAll {entries : List (Text × α)} {entry : Text × α}
    (h : entry ∈ table.insertAll entries) : entry ∈ table ∨ entry ∈ entries := by
  induction entries generalizing table with
  | nil => exact .inl h
  | cons first rest ih =>
    rcases ih h with h | h
    · exact (mem_of_mem_insert h).imp_right fun he => List.mem_cons.mpr (.inl he)
    · exact .inr (List.mem_cons_of_mem _ h)

/-- A table that is written from a list holds nothing else. -/
theorem mem_of_mem_ofList {entries : List (Text × α)} {entry : Text × α}
    (h : entry ∈ ofList entries) : entry ∈ entries :=
  (mem_of_mem_insertAll h).resolve_left List.not_mem_nil

/-- **A table that is written from a list holds the last value under each name.** -/
theorem isLastOf_ofList (entries : List (Text × α)) : (ofList entries).IsLastOf entries := by
  have he : (names ([] : Table α)).Nodup := List.nodup_nil
  refine ⟨nodup_names_insertAll he entries, fun key => ?_⟩
  rw [ofList, find?_insertAll]
  exact Option.or_none

theorem ofList_append_singleton (entries : List (Text × α)) (entry : Text × α) :
    ofList (entries ++ [entry]) = (ofList entries).insert entry.1 entry.2 := by
  rw [ofList, insertAll, List.foldl_append]
  rfl

/-- The names of a table that is written from a list are in the order in which they first come. -/
theorem names_ofList (entries : List (Text × α)) :
    (ofList entries).names = (entries.map (·.1)).eraseDups := by
  induction entries using List.reverseRecOn with
  | nil => rfl
  | append_singleton entries last ih =>
    rw [ofList_append_singleton, names_insert, List.map_append, List.map_singleton,
      eraseDups_append_singleton, ih]
    simp only [List.mem_eraseDups]

/-- Where all values under a name are one, this is what is found. -/
theorem find?_ofList_of_mem {entries : List (Text × α)} {entry : Text × α} (h : entry ∈ entries)
    (hu : ∀ other ∈ entries, other.1 = entry.1 → other.2 = entry.2) :
    (ofList entries).find? entry.1 = some entry.2 := by
  rw [(isLastOf_ofList entries).find?_eq]
  cases hf : entries.reverse.find? fun other => other.1 == entry.1 with
  | none =>
    have hm := List.find?_eq_none.mp hf entry (List.mem_reverse.mpr h)
    exact absurd (beq_self_eq_true entry.1) hm
  | some other =>
    have hn : other.1 = entry.1 := by simpa using List.find?_some hf
    exact congrArg some (hu other (List.mem_reverse.mp (List.mem_of_find?_eq_some hf)) hn)

/-- The last value under a name is found under it. -/
theorem find?_ofList_of_last {after : List (Text × α)} (h : name ∉ names after)
    (before : List (Text × α)) (value : α) :
    (ofList (before ++ (name, value) :: after)).find? name = some value := by
  have hafter : after.reverse.find? (fun entry => entry.1 == name) = none := by
    rw [List.find?_eq_none]
    intro entry hm he
    exact h (List.mem_map.mpr ⟨entry, List.mem_reverse.mp hm, by simpa using he⟩)
  rw [(isLastOf_ofList _).find?_eq, List.reverse_append, List.reverse_cons, List.append_assoc,
    List.find?_append, hafter]
  simp

end MailScreen.Table
