import MailScreen.Proofs.FirstFailure
import MailScreen.Proofs.Rule.Verdict
import MailScreen.Proofs.Table

/-!
# Rule files one after the other

A rule file may be put together from others, and a definition that comes later is meant to replace
an earlier one of its name. What lines define that come after other lines is settled by what each of
the two lists defines alone (`RuleSet.ofLines_append`): of the first the rules whose names the
second does not define, and then those of the second. So **the last accepted definition wins**, and
its place is the one that counts as well. On record is the record of both, the second with its
numbers moved on.

A rule set that is built in this way has each name once, under which its rule stands. This is an
invariant of verdicts (`RuleSet.WellFormed.take`): a definition first takes its name from both
tables. A refusal leaves the tables as they are, so a bad redefinition takes nothing away.
-/
namespace MailScreen

/-- A rejection with the number that its line has after `count` more lines. -/
def Rejection.after (count : Nat) (rejection : Rejection) : Rejection :=
  { rejection with line := rejection.line + count }

namespace RuleSet

open RuleLine

/-- The entries of a table whose names are not defined anew. -/
def keepOthers {α : Type} (names : List Text) (table : Table α) : Table α :=
  table.filter fun entry => !names.contains entry.1

/-- The rule set of `count` lines and then of more lines. -/
def followedBy (first : RuleSet) (count : Nat) (second : RuleSet) : RuleSet where
  attachmentRules := keepOthers second.names first.attachmentRules ++ second.attachmentRules
  checkRules := keepOthers second.names first.checkRules ++ second.checkRules
  rejections := first.rejections ++ second.rejections.map (Rejection.after count)

/-- A rule set in which each name belongs to one rule, which stands under it. -/
structure WellFormed (set : RuleSet) : Prop where
  /-- No name is in both tables. -/
  disjoint : ∀ name ∈ set.attachmentRules.names, name ∉ set.checkRules.names
  /-- An attachment rule stands under its own name. -/
  ruleName : ∀ entry ∈ set.attachmentRules, entry.2.name = entry.1
  /-- A check rule stands under its own name. -/
  checkName : ∀ entry ∈ set.checkRules, entry.2.name = entry.1
  /-- No name is listed twice. -/
  nodup : set.names.Nodup
  /-- There are as many names as rules. -/
  length : set.names.length = set.size

/-! ## Definitions -/

/-- A rule goes to the end of its table, and its name is taken from both. -/
theorem define_eq (set : RuleSet) (rule : AttachmentRule) :
    set.define rule =
      { set with
        attachmentRules := set.attachmentRules.erase rule.name ++ [(rule.name, rule)]
        checkRules := set.checkRules.erase rule.name } := by
  simp only [define, release, Table.insert_erase]

theorem defineCheck_eq (set : RuleSet) (rule : CheckRule) :
    set.defineCheck rule =
      { set with
        attachmentRules := set.attachmentRules.erase rule.name
        checkRules := set.checkRules.erase rule.name ++ [(rule.name, rule)] } := by
  simp only [defineCheck, release, Table.insert_erase]

/-- The names with one name taken out and put in again. -/
def Renamed (name : Text) (names names' : List Text) : Prop :=
  names'.Perm (name :: names.filter (· != name))

/-- A definition takes its name out of the names of both kinds and adds it once. -/
theorem renamed_define (set : RuleSet) (rule : AttachmentRule) :
    Renamed rule.name set.names (set.define rule).names := by
  rw [Renamed, define_eq, names, names, List.filter_append, Table.names_append, Table.names_erase,
    Table.names_erase, List.append_assoc]
  exact List.perm_middle

theorem renamed_defineCheck (set : RuleSet) (rule : CheckRule) :
    Renamed rule.name set.names (set.defineCheck rule).names := by
  rw [Renamed, defineCheck_eq, names, names, List.filter_append, Table.names_append,
    Table.names_erase, Table.names_erase, ← List.append_assoc]
  exact List.perm_append_singleton ..

namespace Renamed

variable {name : Text} {names names' : List Text}

theorem mem_iff (h : Renamed name names names') (key : Text) :
    key ∈ names' ↔ key = name ∨ key ∈ names := by
  rw [List.Perm.mem_iff h, List.mem_cons, List.mem_filter, bne_iff_ne]
  by_cases hk : key = name
  · simp [hk]
  · simp [hk]

theorem nodup (h : Renamed name names names') (hn : names.Nodup) : names'.Nodup := by
  rw [List.Perm.nodup_iff h, List.nodup_cons, List.mem_filter]
  exact ⟨by simp, hn.filter _⟩

/-- What is kept beside one more name is what is kept without it. -/
theorem keepOthers_eq {α : Type} (h : Renamed name names names') (table : Table α) :
    keepOthers names' table = (keepOthers names table).erase name := by
  rw [keepOthers, keepOthers, Table.erase, List.filter_filter]
  refine List.filter_congr fun entry _ => ?_
  rw [Bool.eq_iff_iff]
  simp only [List.contains_eq_mem, Bool.not_eq_true', decide_eq_false_iff_not, Bool.and_eq_true,
    bne_iff_ne, h.mem_iff, not_or]

end Renamed

/-! ## One verdict -/

/-- **One verdict** changes a rule set after another one as it changes the rule set alone. -/
theorem take_followedBy (first second : RuleSet) (count number : Nat) (said : LineVerdict) :
    (first.followedBy count second).take (number + count) said =
      first.followedBy count (second.take number said) := by
  cases said with
  | passed => rfl
  | refused error =>
    simp only [take, reject, followedBy, names, List.map_append, List.append_assoc]
    rfl
  | rule rule =>
    simp only [take, followedBy, (renamed_define second rule).keepOthers_eq]
    simp only [define_eq, Table.erase_append, List.append_assoc]
  | check rule =>
    simp only [take, followedBy, (renamed_defineCheck second rule).keepOthers_eq]
    simp only [defineCheck_eq, Table.erase_append, List.append_assoc]

/-- What the names of a rule set have to be for it to be well formed. -/
theorem WellFormed.of_nodup {set : RuleSet} (hn : set.names.Nodup)
    (hr : ∀ entry ∈ set.attachmentRules, entry.2.name = entry.1)
    (hc : ∀ entry ∈ set.checkRules, entry.2.name = entry.1) : set.WellFormed where
  disjoint := fun _ ha hb => (List.nodup_append.mp hn).2.2 _ ha _ hb rfl
  ruleName := hr
  checkName := hc
  nodup := hn
  length := by simp only [names, Table.names, size, List.length_append, List.length_map]

/-- **One verdict keeps a rule set well formed.** -/
theorem WellFormed.take {set : RuleSet} (h : set.WellFormed) (number : Nat) (said : LineVerdict) :
    (set.take number said).WellFormed := by
  cases said with
  | passed => exact h
  | refused error => exact .of_nodup h.nodup h.ruleName h.checkName
  | rule rule =>
    refine .of_nodup ((renamed_define set rule).nodup h.nodup) ?_ ?_
    · rw [RuleSet.take, define_eq]
      exact List.forall_mem_append.mpr
        ⟨fun entry he => h.ruleName entry (List.mem_of_mem_filter he), by simp⟩
    · rw [RuleSet.take, define_eq]
      exact fun entry he => h.checkName entry (List.mem_of_mem_filter he)
  | check rule =>
    refine .of_nodup ((renamed_defineCheck set rule).nodup h.nodup) ?_ ?_
    · rw [RuleSet.take, defineCheck_eq]
      exact fun entry he => h.ruleName entry (List.mem_of_mem_filter he)
    · rw [RuleSet.take, defineCheck_eq]
      exact List.forall_mem_append.mpr
        ⟨fun entry he => h.checkName entry (List.mem_of_mem_filter he), by simp⟩

/-- A verdict that puts something on record does nothing else. -/
theorem take_of_rejections_ne {set : RuleSet} {number : Nat} {said : LineVerdict}
    (h : (set.take number said).rejections ≠ set.rejections) :
    ∃ rejection, rejection.line = number ∧ set.take number said = set.reject rejection := by
  cases said with
  | refused error => exact ⟨_, rfl, rfl⟩
  | _ => exact absurd rfl h

/-! ## All verdicts -/

theorem followedBy_empty (set : RuleSet) (count : Nat) : set.followedBy count {} = set := by
  simp only [followedBy, keepOthers, names, Table.names, List.map_nil, List.append_nil,
    List.contains_nil, Bool.not_false, List.filter_true]

/-- Verdicts change a rule set after another one as they change the rule set alone. -/
theorem takeAll_followedBy (first second : RuleSet) (count number : Nat)
    (said : List LineVerdict) :
    (first.followedBy count second).takeAll (number + count) said =
      first.followedBy count (second.takeAll number said) := by
  induction said generalizing second number with
  | nil => rfl
  | cons v rest ih => rw [takeAll, takeAll, take_followedBy, Nat.add_right_comm, ih]

theorem takeAll_append (set : RuleSet) (number : Nat) (said more : List LineVerdict) :
    set.takeAll number (said ++ more) =
      (set.takeAll number said).takeAll (number + said.length) more := by
  induction said generalizing set number with
  | nil => rfl
  | cons v rest ih =>
    rw [List.cons_append, takeAll, takeAll, ih, List.length_cons, Nat.add_right_comm, Nat.add_assoc]

/-! ## Lines -/

/-- **Lines after other lines** come to what both come to alone, the second over the first. They
fail as the first lines fail, or as the second do. -/
theorem ofLines_append (strict : Bool) (lines more : List Text) :
    (ofLines strict (lines ++ more)).result = do
      let first ← (ofLines strict lines).result
      let second ← (ofLines strict more).result
      return first.followedBy lines.length second := by
  simp only [ofLines_result, List.mapM_append]
  cases hl : lines.mapM (verdict strict) with
  | error fault => rfl
  | ok said =>
    cases hm : more.mapM (verdict strict) with
    | error fault => rfl
    | ok rest =>
      have hn : said.length = lines.length := (mapM_eq_ok_iff.mp hl).length_eq.symm
      refine congrArg Except.ok ?_
      rw [takeAll_append, hn, ← takeAll_followedBy, followedBy_empty]

/-- What lines define is well formed. -/
theorem wellFormed_of_ofLines {strict : Bool} {lines : List Text} {set : RuleSet}
    (h : (ofLines strict lines).result = .ok set) : set.WellFormed := by
  have he : WellFormed {} := .of_nodup List.nodup_nil (by simp) (by simp)
  exact keeps_of_ofLines he (fun _ number said _ hw => hw.take number said) h

/-- One line more changes what the lines before it define by what it says. -/
theorem ofLines_append_singleton {strict : Bool} {lines : List Text} {set : RuleSet}
    (h : (ofLines strict lines).result = .ok set) (line : Text) :
    (ofLines strict (lines ++ [line])).result =
      (verdict strict line).map (set.take (lines.length + 1)) := by
  rw [ofLines_result] at h ⊢
  obtain ⟨said, hs, rfl⟩ := map_eq_ok_iff.mp h
  rw [List.mapM_append, hs, List.mapM_cons, List.mapM_nil]
  cases verdict strict line with
  | error fault => rfl
  | ok v =>
    have hl : said.length = lines.length := (mapM_eq_ok_iff.mp hs).length_eq.symm
    show Except.ok (takeAll {} 1 (said ++ [v])) = _
    rw [takeAll_append, takeAll, takeAll, hl, Nat.add_comm 1]
    rfl

/-- A line that is put on record changes nothing but the record. -/
theorem eq_reject_of_rejections_ne {strict : Bool} {lines : List Text} {line : Text}
    {set next : RuleSet} (h : (ofLines strict lines).result = .ok set)
    (hn : (ofLines strict (lines ++ [line])).result = .ok next)
    (hr : next.rejections ≠ set.rejections) :
    ∃ rejection, rejection.line = lines.length + 1 ∧ next = set.reject rejection := by
  rw [ofLines_append_singleton h] at hn
  obtain ⟨said, -, rfl⟩ := map_eq_ok_iff.mp hn
  exact take_of_rejections_ne hr

/-- **Loading composes, and the last accepted definition wins.** Lines that come after others take
their names from them; whatever lines define is well formed; and a line that is refused leaves every
earlier definition in its place. -/
theorem ofLines_composes (strict : Bool) (lines : List Text) :
    (∀ more, (ofLines strict (lines ++ more)).result = do
      let first ← (ofLines strict lines).result
      let second ← (ofLines strict more).result
      return first.followedBy lines.length second) ∧
    ∀ set, (ofLines strict lines).result = .ok set →
      set.WellFormed ∧
        ∀ line next, (ofLines strict (lines ++ [line])).result = .ok next →
          next.rejections ≠ set.rejections →
            ∃ rejection, rejection.line = lines.length + 1 ∧ next = set.reject rejection :=
  ⟨ofLines_append strict lines, fun _ h => ⟨wellFormed_of_ofLines h, fun _ _ hn hr =>
    eq_reject_of_rejections_ne h hn hr⟩⟩

/-- A check takes the name of an attachment rule, and a bad line does not take that of another. -/
theorem ofLines_composes_of_badRedefinition :
    ∃ set next,
      (ofLines false ["attachment A ext == exe".toList, "attachment B name == x".toList,
        "body A eval:check_attachment_mime_error()".toList]).result = .ok set ∧
      (ofLines false (["attachment A ext == exe".toList, "attachment B name == x".toList,
        "body A eval:check_attachment_mime_error()".toList] ++
          ["attachment B size == 1".toList])).result = .ok next ∧
      next.rejections ≠ set.rejections ∧ set.WellFormed ∧
      ∃ rejection, rejection.line = 4 ∧ next = set.reject rejection := by
  let set : RuleSet :=
    { attachmentRules := [("B".toList, ⟨"B".toList,
        [⟨.name, .equal, .literal "x".toList, "name == x".toList⟩]⟩)]
      checkRules := [("A".toList, ⟨"A".toList, .mimeError⟩)] }
  let next := set.reject ⟨"B".toList, 4, "rule B: unknown key 'size' (near 'size == 1')"⟩
  have hs : (ofLines false ["attachment A ext == exe".toList, "attachment B name == x".toList,
      "body A eval:check_attachment_mime_error()".toList]).result = .ok set := by
    decide +kernel
  have hn : (ofLines false (["attachment A ext == exe".toList, "attachment B name == x".toList,
      "body A eval:check_attachment_mime_error()".toList] ++
        ["attachment B size == 1".toList])).result = .ok next := by
    decide +kernel
  have hr : next.rejections ≠ set.rejections := by decide
  obtain ⟨hw, hb⟩ := (ofLines_composes false _).2 set hs
  exact ⟨set, next, hs, hn, hr, hw, hb _ next hn hr⟩

end RuleSet
end MailScreen
