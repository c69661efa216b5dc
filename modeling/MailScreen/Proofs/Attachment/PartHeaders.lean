import MailScreen.Attachment.Part
import MailScreen.Proofs.Table

/-!
# The headers of a part

A part keeps its headers by name in lower case, and of headers with one name the first counts: what
it has under a name is the value of the first header of that name, in whatever case
(`Part.header?_ofHeaders`).
-/
namespace MailScreen

namespace Part

/-- One more header of a part. -/
theorem find?_foldl (headers : List (Text × Text)) (table : Table (Option Text)) (key : Text) :
    (headers.foldl
      (fun (table : Table (Option Text)) (name, value) =>
        let key := Text.lower name
        if table.has key then table else table.insert key (some value))
      table).find? key =
      (table.find? key).or
        ((headers.find? fun header => Text.lower header.1 == key).map fun header =>
          some header.2) := by
  induction headers generalizing table with
  | nil => simp
  | cons header rest ih =>
    rw [List.foldl_cons, ih]
    by_cases hh : table.has (Text.lower header.1) = true
    · simp only [hh, if_true]
      by_cases hk : Text.lower header.1 = key
      · rw [hk] at hh
        obtain ⟨value, hv⟩ := Table.exists_find?_of_has hh
        rw [hv]
        rfl
      · rw [List.find?_cons_of_neg (by simpa using hk)]
    · have hf : table.has (Text.lower header.1) = false := by simpa using hh
      simp only [hf, Bool.false_eq_true, if_false]
      rw [Table.find?_insert_of_not_has hf, Option.or_assoc]
      by_cases hk : Text.lower header.1 = key
      · rw [List.find?_cons_of_pos (by simpa using hk), if_pos hk]
        rfl
      · rw [List.find?_cons_of_neg (by simpa using hk), if_neg hk]
        rfl

/-- **What a part has under a name is the value of the first header of that name.** -/
theorem header?_ofHeaders (headers : List (Text × Text)) (name : Text) :
    (ofHeaders headers).header? name =
      (headers.find? fun header => Text.lower header.1 == Text.lower name).map (·.2) := by
  rw [header?, ofHeaders, find?_foldl]
  cases headers.find? fun header => Text.lower header.1 == Text.lower name <;> rfl

theorem header?_nil (name : Text) : (ofHeaders []).header? name = none := rfl

variable {name key value : Text} {rest : List (Text × Text)}

theorem header?_first (h : Text.lower name = Text.lower key) :
    (ofHeaders ((name, value) :: rest)).header? key = some value := by
  rw [header?_ofHeaders, List.find?_cons_of_pos (by simpa using h)]
  rfl

theorem header?_skip (h : Text.lower name ≠ Text.lower key) :
    (ofHeaders ((name, value) :: rest)).header? key = (ofHeaders rest).header? key := by
  rw [header?_ofHeaders, header?_ofHeaders, List.find?_cons_of_neg (by simpa using h)]

end Part
end MailScreen
