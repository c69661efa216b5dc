import MailScreen.Proofs.Header.Combination

/-!
# Parameters with malformed names

A name in which nothing comes before the first asterisk, or something after it that tells no form,
is malformed, and the parameter says nothing. **Parameters are read as if those with malformed names
were not there** (`Header.result_combine_filter`). That they are is noted, so where nothing is noted
all names are well-formed (`Header.splitName?_ne_none_of_combine`).
-/
namespace MailScreen.Header

variable {settings : Settings} {params : Table Text} {written : List (Text × Text)}

/-- What is gathered is what the parameters with well-formed names come to. -/
theorem readForms_filter (written : List (Text × Text)) :
    readForms (written.filter fun entry => (splitName? entry.1).isSome) = readForms written := by
  unfold readForms
  rw [Noted.result_foldlM, Noted.result_foldlM]
  -- the induction is on what is to be added, whatever has been gathered before
  generalize ({} : Forms) = forms
  induction written generalizing forms with
  | nil => rfl
  | cons entry rest ih =>
    cases hs : splitName? entry.1 with
    | none =>
      have hadd : (forms.add entry.1 entry.2).result = .ok forms := by
        rw [Forms.add_eq_ok_iff, hs]
      rw [List.filter_cons_of_neg (by simp [hs]), List.foldlM_cons, hadd]
      exact ih forms
    | some found =>
      rw [List.filter_cons_of_pos (by simp [hs]), List.foldlM_cons, List.foldlM_cons]
      exact bind_congr ih

/-- **Parameters are read as if those with malformed names were not there.** -/
theorem result_combine_filter (settings : Settings) (written : List (Text × Text)) :
    (combine settings (written.filter fun entry => (splitName? entry.1).isSome)).result =
      (combine settings written).result := by
  rw [combine_result, combine_result, readForms_filter]

/-- A parameter of which nothing is noted has a well-formed name. -/
theorem Forms.splitName?_ne_none_of_add {forms forms' : Forms} {name value : Text}
    (h : forms.add name value = pure forms') : splitName? name ≠ none := by
  intro hs
  unfold Forms.add at h
  rw [hs] at h
  obtain ⟨done, hd, -⟩ := Noted.bind_eq_pure_iff.mp h
  cases congrArg Noted.log hd

/-- **If nothing is noted, all names are well-formed.** -/
theorem splitName?_ne_none_of_combine (h : combine settings written = pure params) :
    ∀ entry ∈ written, splitName? entry.1 ≠ none := by
  obtain ⟨after, hforms, -⟩ := Noted.bind_eq_pure_iff.mp h
  clear h
  generalize ({} : Forms) = forms at hforms
  induction written generalizing forms with
  | nil => simp
  | cons entry rest ih =>
    obtain ⟨next, hadd, hrest⟩ := Noted.bind_eq_pure_iff.mp hforms
    exact List.forall_mem_cons.mpr ⟨Forms.splitName?_ne_none_of_add hadd, ih next hrest⟩

/-- Plain parameters come to the table of their names and values, and nothing is noted. -/
theorem combine_eq_of_plain (hd : settings.decodeEncodedWords = false)
    (h : ∀ entry ∈ written, entry.1 ≠ [] ∧ '*' ∉ entry.1) :
    combine settings written = pure (.ofList written) := by
  refine Noted.bind_eq_pure_iff.mpr ⟨_, foldlM_add_plain {} h, ?_⟩
  refine Noted.bind_eq_pure_iff.mpr ⟨.ofList written, rfl, ?_⟩
  rw [hd]
  rfl

end MailScreen.Header
