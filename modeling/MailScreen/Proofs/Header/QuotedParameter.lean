import MailScreen.Proofs.Header.PassedOver
import MailScreen.Proofs.Header.WrittenHeader

/-!
# Parameters in quotation marks

A value may be put in quotation marks in more than one way, as a backslash may stand before any of
its characters. In whichever way it is done, **parameters in quotation marks are read as their names
and values** (`Header.QuotedParameter.items_flatMap_text`). They are what a header may go on with
after the parameter that a theorem is about.
-/
namespace MailScreen.Header

open Ascii

/-- A parameter in quotation marks. -/
structure QuotedParameter where
  /-- What separates it from what comes before it. -/
  separator : Text
  /-- The name. -/
  name : Text
  /-- What stands between the quotation marks. -/
  body : Text
  /-- The value that this stands for. -/
  value : Text
  deriving DecidableEq, Repr

namespace QuotedParameter

/-- A parameter as it is put down after what comes before it. -/
def text (p : QuotedParameter) : Text :=
  p.separator ++ (p.name ++ '=' :: '"' :: (p.body ++ ['"']))

/-- The name and the value that a parameter is read as. -/
def pair (p : QuotedParameter) : Text × Text := (Text.lower p.name, p.value)

/-- A parameter of the plain form, on one line. -/
structure IsProper (p : QuotedParameter) : Prop where
  separator : IsSeparator p.separator
  name : IsToken p.name
  plain : '*' ∉ p.name
  quotes : Quotes p.body p.value
  noBreak : NoBreak p.body

variable {p : QuotedParameter} {ps : List QuotedParameter}

theorem noBreak_flatMap_text (hp : ∀ p ∈ ps, p.IsProper) : NoBreak (ps.flatMap text) := by
  intro c hc
  obtain ⟨p, hm, hc⟩ := List.mem_flatMap.mp hc
  have hq : NoBreak ('=' :: '"' :: (p.body ++ ['"'])) :=
    (((hp p hm).noBreak.append (by decide)).cons (by decide) (by decide)).cons (by decide)
      (by decide)
  exact (hp p hm).separator.noBreak.append ((NoBreak.of_isToken (hp p hm).name).append hq) c hc

/-- Parameters in quotation marks end in no blank. -/
theorem getLast?_flatMap_text (ps : List QuotedParameter) :
    ∀ c ∈ (ps.flatMap text).getLast?, isBlank c = false := by
  induction ps with
  | nil => simp
  | cons p ps ih =>
    refine Text.forall_getLast?_append ?_ ih
    have ht : p.text = (p.separator ++ (p.name ++ '=' :: '"' :: p.body)) ++ ['"'] := by simp [text]
    intro c hc
    rw [ht, List.getLast?_concat] at hc
    obtain rfl := Option.some.inj hc
    decide

/-- **Parameters in quotation marks are read one by one.** -/
theorem items_flatMap_text (hp : ∀ p ∈ ps, p.IsProper) :
    items (ps.flatMap text) = ps.map fun p => .parameter (Text.lower p.name) p.value := by
  induction ps with
  | nil => exact items_nil
  | cons p ps ih =>
    rw [List.forall_mem_cons] at hp
    have ht : (p :: ps).flatMap text = p.separator ++ (p.name ++ '=' :: ('"' ::
        (p.body ++ '"' :: ps.flatMap text))) := by simp [text]
    have hv : takeValue (Text.lower p.name) (dropSpaces ('"' :: (p.body ++ '"' ::
        ps.flatMap text))) = (.parameter (Text.lower p.name) p.value, some (ps.flatMap text)) := by
      rw [dropSpaces_of_head (by simp; decide)]
      exact takeValue_quotes _ hp.1.quotes _
    rw [ht, items_of_parameter hp.1.separator hp.1.name hv, ih hp.2, List.map_cons]

theorem writtenPairs_flatMap_text (hp : ∀ p ∈ ps, p.IsProper) :
    writtenPairs (items (ps.flatMap text)) = ps.map pair := by
  rw [items_flatMap_text hp, writtenPairs, List.filterMap_map, ← List.filterMap_eq_map]
  rfl

/-- Parameters of the plain form have names that are read as they are. -/
theorem plain_of_mem_map_pair (hp : ∀ p ∈ ps, p.IsProper) :
    ∀ entry ∈ ps.map pair, entry.1 ≠ [] ∧ '*' ∉ entry.1 := by
  intro entry hm
  obtain ⟨p, hps, rfl⟩ := List.mem_map.mp hm
  exact ⟨lower_ne_nil (hp p hps).name, star_notMem_lower (hp p hps).name (hp p hps).plain⟩

end QuotedParameter
end MailScreen.Header
