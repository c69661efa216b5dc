import Mathlib.Data.List.TakeWhile
import MailScreen.Proofs.Rule.Compiled
import MailScreen.Proofs.Rule.Composition

/-!
# The names of rules

A rule is named by a word of its line: what stands before the first blank. So there is no blank in
the name of a rule that is loaded, and no line break either (`RuleSet.noBlank_of_ofLines`), whatever
the text is that it is loaded from. As of every verdict that has a ground, this is an invariant of
taking them.
-/
namespace MailScreen

/-- The name of the rule that a verdict defines, if it defines one. -/
def LineVerdict.name? : LineVerdict → Option Text
  | rule defined => some defined.name
  | check defined => some defined.name
  | _ => none

namespace RuleLine

/-- There is no blank in a word. -/
theorem isBlank_of_mem_firstWord {t : Text} {c : Char} (h : c ∈ (firstWord t).1) :
    isBlank c = false := by
  have hw := List.mem_takeWhile_imp h
  rwa [Bool.not_eq_true'] at hw

/-- A call is made under the first word of its line. -/
theorem name_of_readCall? {value : Text} {call : CheckCall} (h : readCall? value = some call) :
    call.name = (firstWord value).1 := by
  unfold readCall? at h
  obtain ⟨asked, -, h⟩ := Option.bind_eq_some_iff.mp h
  simp only at h
  split at h
  · cases h
  · split at h
    · split at h
      · obtain rfl := Option.some.inj h
        rfl
      · cases h
    · cases h

/-- **What a line defines is named by a word of it.** -/
theorem Grounded.isBlank_of_mem_name? {strict : Bool} {said : LineVerdict}
    (h : Grounded strict said) {name : Text} (hn : said.name? = some name) :
    ∀ c ∈ name, isBlank c = false := by
  cases h with
  | passed | refused => cases hn
  | rule hc =>
    obtain rfl := Option.some.inj hn
    rw [(AttachmentRule.compiledFrom_of_compile hc).name_eq]
    exact fun _ => isBlank_of_mem_firstWord
  | check hc =>
    obtain rfl := Option.some.inj hn
    rw [name_of_readCall? hc]
    exact fun _ => isBlank_of_mem_firstWord

end RuleLine

namespace RuleSet

/-- A verdict adds no name but that of the rule it defines. -/
theorem mem_names_take {set : RuleSet} {number : Nat} {said : LineVerdict} {name : Text}
    (h : name ∈ (set.take number said).names) : said.name? = some name ∨ name ∈ set.names := by
  cases said with
  | passed | refused => exact .inr h
  | rule rule =>
    exact (((renamed_define set rule).mem_iff name).mp h).imp_left fun he => congrArg some he.symm
  | check rule =>
    exact (((renamed_defineCheck set rule).mem_iff name).mp h).imp_left fun he =>
      congrArg some he.symm

/-- **There is no blank in the name of a rule that lines define.** -/
theorem noBlank_of_ofLines {strict : Bool} {lines : List Text} {set : RuleSet}
    (h : (ofLines strict lines).result = .ok set) :
    ∀ name ∈ set.names, ∀ c ∈ name, isBlank c = false := by
  refine keeps_of_ofLines (p := fun set => ∀ name ∈ set.names, ∀ c ∈ name, isBlank c = false)
    (fun _ hn => absurd hn List.not_mem_nil) ?_ h
  intro set number said hg hs name hn
  rcases mem_names_take hn with hn | hn
  · exact hg.isBlank_of_mem_name? hn
  · exact hs name hn

end RuleSet
end MailScreen
