import MailScreen.Proofs.Rule.Composition
import MailScreen.Proofs.Rule.Content
import MailScreen.Proofs.Text.Join

/-!
# Rule files as they are written

Who writes a rule file puts a backslash before every number sign of a name or a definition, blanks
around and between the two, and comments after them or on lines of their own. **What is read is what
was meant** (`RuleSet.ofText_written`): every definition is compiled under its name, without the
blanks at its ends, whatever backslashes and number signs stand in it.

A line is read in four steps, and each of them undoes what it is there for: the comment goes, then
the escapes, then the blanks at the ends, and what is left is cut at the first blanks and again at
the next. As escaping is done character by character, the line without its comment is the escaped
form of what it means as a whole (`WrittenRule.text_eq`).
-/
namespace MailScreen

/-- Blanks that stand on one line. -/
def IsGap (t : Text) : Prop := ∀ c ∈ t, isBlank c = true ∧ isLineBreak c = false

/-- A text that stands on one line. -/
def IsOneLine (t : Text) : Prop := ∀ c ∈ t, isLineBreak c = false

instance (t : Text) : Decidable (IsGap t) :=
  inferInstanceAs (Decidable (∀ c ∈ t, isBlank c = true ∧ isLineBreak c = false))

instance (t : Text) : Decidable (IsOneLine t) :=
  inferInstanceAs (Decidable (∀ c ∈ t, isLineBreak c = false))

/-- The parts of a line that defines an attachment rule. The name and the definition are those that
are meant. -/
structure WrittenRule where
  /-- What stands before the keyword. -/
  before : Text
  /-- The keyword. -/
  keyword : Text
  /-- What stands between the keyword and the name. -/
  afterKeyword : Text
  /-- The name of the rule. -/
  name : Text
  /-- What stands between the name and the definition. -/
  afterName : Text
  /-- The definition of the rule. -/
  definition : Text
  /-- What stands after the definition. -/
  after : Text

/-- A line of a rule file: one that defines nothing, or one that defines an attachment rule. -/
inductive WrittenLine where
  | blank (gap : Text) (comment? : Option Text)
  | rule (written : WrittenRule) (comment? : Option Text)

namespace WrittenRule

/-- What a line means: its parts one after the other. -/
def meant (written : WrittenRule) : Text :=
  written.before ++ written.keyword ++ written.afterKeyword ++ written.name ++ written.afterName ++
    written.definition ++ written.after

/-- What is written: the parts with escapes in the name and in the definition. -/
def text (written : WrittenRule) : Text :=
  written.before ++ written.keyword ++ written.afterKeyword ++ RuleLine.escape written.name ++
    written.afterName ++ RuleLine.escape written.definition ++ written.after

/-- Parts that make a line that defines an attachment rule. -/
structure IsWellWritten (written : WrittenRule) : Prop where
  before : IsGap written.before
  /-- The keyword stands in any letter case. -/
  keyword : written.keyword.map Char.toLower = "attachment".toList
  afterKeyword : IsGap written.afterKeyword
  afterKeyword_ne : written.afterKeyword ≠ []
  /-- There is a name, and no blank in it. -/
  name_ne : written.name ≠ []
  name : ∀ c ∈ written.name, isBlank c = false
  afterName : IsGap written.afterName
  afterName_ne : written.afterName ≠ []
  /-- The definition is not blank. -/
  definition_ne : Text.isAllBlank written.definition = false
  definition : IsOneLine written.definition
  after : IsGap written.after

end WrittenRule

namespace WrittenLine

/-- A text with a comment after it, if there is one. -/
def withComment (t : Text) : Option Text → Text
  | none => t
  | some comment => t ++ '#' :: comment

/-- What is written. -/
def text : WrittenLine → Text
  | blank gap comment? => withComment gap comment?
  | rule written comment? => withComment written.text comment?

/-- Parts that make a line. There is a blank between a definition and a comment. -/
def IsWellWritten : WrittenLine → Prop
  | blank gap comment? => IsGap gap ∧ ∀ comment ∈ comment?, IsOneLine comment
  | rule written comment? =>
    written.IsWellWritten ∧ ∀ comment ∈ comment?, IsOneLine comment ∧ written.after ≠ []

end WrittenLine

/-- The rule set that lines are meant to define, the first of them having a given number: each
definition is compiled in its turn, a rule is defined or the refusal is put on record. -/
def RuleSet.defineWritten (strict : Bool) (set : RuleSet) (number : Nat) :
    List WrittenLine → Except RuleFault RuleSet
  | [] => .ok set
  | .blank _ _ :: rest => defineWritten strict set (number + 1) rest
  | .rule written _ :: rest =>
    match (AttachmentRule.compile strict written.name (Text.trim written.definition)).result with
    | .ok rule => defineWritten strict (set.define rule) (number + 1) rest
    | .error (.malformed error) =>
      defineWritten strict (set.reject ⟨error.rule, number, error.message⟩) (number + 1) rest
    | .error fault => .error fault

/-! ## Parts of a line -/

theorem IsGap.blank {t : Text} (h : IsGap t) : ∀ c ∈ t, isBlank c = true := fun c hc => (h c hc).1

theorem IsGap.oneLine {t : Text} (h : IsGap t) : IsOneLine t := fun c hc => (h c hc).2

theorem IsOneLine.append {s t : Text} (hs : IsOneLine s) (ht : IsOneLine t) : IsOneLine (s ++ t) :=
  List.forall_mem_append.mpr ⟨hs, ht⟩

theorem IsOneLine.lineFeed_notMem {t : Text} (h : IsOneLine t) : '\n' ∉ t :=
  fun hm => absurd (h _ hm) (by decide)

theorem isBlank_of_isLineBreak {c : Char} (h : isLineBreak c = true) : isBlank c = true := by
  simp only [isLineBreak, isBlank, Bool.or_eq_true, Bool.and_eq_true, decide_eq_true_eq,
    beq_iff_eq] at h ⊢
  omega

theorem isOneLine_of_noBlank {t : Text} (h : ∀ c ∈ t, isBlank c = false) : IsOneLine t := by
  intro c hc
  rw [Bool.eq_false_iff]
  intro hb
  exact absurd (isBlank_of_isLineBreak hb) (by simp [h c hc])

theorem IsGap.escape_eq {t : Text} (h : IsGap t) : RuleLine.escape t = t :=
  RuleLine.escape_of_notMem fun hm => absurd (h _ hm).1 (by decide)

/-- A text that ends in a gap does not end in a backslash. -/
theorem IsGap.getLast?_append {t : Text} (h : IsGap t) (hn : t ≠ []) (s : Text) :
    ∀ c ∈ (s ++ t).getLast?, c ≠ '\\' := by
  rw [List.getLast?_append_of_ne_nil _ hn]
  rintro c hc rfl
  exact absurd (h _ (List.mem_of_getLast? hc)).1 (by decide)

namespace WrittenRule

variable {written : WrittenRule}

/-- The keyword is a word of letters. -/
theorem IsWellWritten.keyword_spec (h : written.IsWellWritten) :
    written.keyword ≠ [] ∧ (∀ c ∈ written.keyword, isBlank c = false ∧ c ≠ '#') ∧
      Text.lower written.keyword = "attachment".toList := by
  obtain ⟨ha, hl⟩ := Ascii.isAlpha_and_lower_of_toLower (by decide) h.keyword
  refine ⟨?_, fun c hc => ?_, hl⟩
  · intro hn
    rw [hn] at hl
    cases hl
  · exact Ascii.forall_of_isAlpha (p := fun c => isBlank c = false ∧ c ≠ '#') (by decide) (ha c hc)

theorem IsWellWritten.trim_definition_ne (h : written.IsWellWritten) :
    Text.trim written.definition ≠ [] := by
  intro hn
  rw [Text.trim_eq_nil_iff, h.definition_ne] at hn
  cases hn

/-- **What is written is the escaped form of what is meant.** -/
theorem text_eq (h : written.IsWellWritten) : written.text = RuleLine.escape written.meant := by
  have hk : RuleLine.escape written.keyword = written.keyword :=
    RuleLine.escape_of_notMem fun hm => (h.keyword_spec.2.1 _ hm).2 rfl
  simp only [text, meant, RuleLine.escape_append, h.before.escape_eq, hk,
    h.afterKeyword.escape_eq, h.afterName.escape_eq, h.after.escape_eq]

/-- What a line means is one line. -/
theorem isOneLine_meant (h : written.IsWellWritten) : IsOneLine written.meant := by
  have hkeyword : IsOneLine written.keyword :=
    isOneLine_of_noBlank fun c hc => (h.keyword_spec.2.1 c hc).1
  have hstart : IsOneLine (written.before ++ written.keyword ++ written.afterKeyword) :=
    (h.before.oneLine.append hkeyword).append h.afterKeyword.oneLine
  have hname := (hstart.append (isOneLine_of_noBlank h.name)).append h.afterName.oneLine
  exact (hname.append h.definition).append h.after.oneLine

/-- What a line means without the blanks at its ends: the keyword, the name and the definition
without the blanks at the ends of the definition. -/
theorem exists_trim_meant (h : written.IsWellWritten) :
    ∃ blanks, blanks ≠ [] ∧ (∀ c ∈ blanks, isBlank c = true) ∧
      Text.trim written.meant = written.keyword ++ written.afterKeyword ++
        (written.name ++ blanks ++ Text.trim written.definition) := by
  obtain ⟨lead, trail, hd, hlead, htrail⟩ := Text.exists_surrounded written.definition
  obtain ⟨-, hlast⟩ := Text.ends_trim written.definition
  obtain ⟨hkn, hk, -⟩ := h.keyword_spec
  refine ⟨written.afterName ++ lead, List.append_ne_nil_of_left_ne_nil h.afterName_ne _,
    List.forall_mem_append.mpr ⟨h.afterName.blank, hlead⟩, ?_⟩
  have hm : written.meant = written.before ++ (written.keyword ++ written.afterKeyword ++
      (written.name ++ (written.afterName ++ lead) ++ Text.trim written.definition)) ++
        (trail ++ written.after) := by
    conv_lhs => rw [meant, hd]
    simp only [List.append_assoc]
  rw [hm]
  refine Text.trim_surrounded h.before.blank
    (List.forall_mem_append.mpr ⟨htrail, h.after.blank⟩) ?_ ?_
  · rw [List.append_assoc]
    exact Text.forall_head?_append hkn fun c hc => (hk c hc).1
  · rw [← List.append_assoc, List.getLast?_append_of_ne_nil _ h.trim_definition_ne]
    exact hlast

end WrittenRule

/-! ## One line -/

theorem IsOneLine.escape {t : Text} (h : IsOneLine t) : IsOneLine (RuleLine.escape t) := by
  intro c hc
  obtain ⟨d, hd, hc⟩ := List.mem_flatMap.mp hc
  split at hc
  · have hs : ∀ c ∈ ['\\', '#'], isLineBreak c = false := by decide
    exact hs c hc
  · rw [List.mem_singleton.mp hc]
    exact h d hd

theorem IsOneLine.withComment {t : Text} (h : IsOneLine t) {comment? : Option Text}
    (hc : ∀ comment ∈ comment?, IsOneLine comment) :
    IsOneLine (WrittenLine.withComment t comment?) := by
  cases comment? with
  | none => exact h
  | some comment =>
    exact h.append (List.forall_mem_cons.mpr ⟨by decide, hc comment rfl⟩)

/-- A comment changes nothing of what a line says. -/
theorem RuleLine.content_withComment {t : Text} {comment? : Option Text}
    (h : ∀ comment ∈ comment?, IsOneLine comment ∧ ∀ c ∈ t.getLast?, c ≠ '\\') :
    content (WrittenLine.withComment (escape t) comment?) = Text.trim t := by
  cases comment? with
  | none => exact content_escape t
  | some comment =>
    obtain ⟨hc, ht⟩ := h comment rfl
    exact content_escape_comment ht hc.lineFeed_notMem

namespace WrittenLine

/-- The verdict that a line is meant to have: nothing, or what compiling its definition comes to. -/
def verdict (strict : Bool) : WrittenLine → Except RuleFault LineVerdict
  | blank _ _ => .ok .passed
  | rule written _ => RuleLine.settle
      ((AttachmentRule.compile strict written.name (Text.trim written.definition)).result.map .rule)

theorem isOneLine_text {line : WrittenLine} (h : line.IsWellWritten) : IsOneLine line.text := by
  cases line with
  | blank gap comment? => exact h.1.oneLine.withComment h.2
  | rule written comment? =>
    rw [text, WrittenRule.text_eq h.1]
    exact (WrittenRule.isOneLine_meant h.1).escape.withComment fun comment hc => (h.2 comment hc).1

/-- What a line without a rule in it says. -/
theorem content_blank {gap : Text} {comment? : Option Text}
    (h : (blank gap comment?).IsWellWritten) :
    RuleLine.content (blank gap comment?).text = [] := by
  have hlast : ∀ c ∈ gap.getLast?, c ≠ '\\' := by
    rintro c hc rfl
    exact absurd (h.1 _ (List.mem_of_getLast? hc)).1 (by decide)
  have hc : RuleLine.content (withComment (RuleLine.escape gap) comment?) = Text.trim gap :=
    RuleLine.content_withComment fun comment hc => ⟨h.2 comment hc, hlast⟩
  rw [text, ← Text.trim_of_blanks h.1.blank, ← hc, h.1.escape_eq]

theorem content_rule {written : WrittenRule} {comment? : Option Text}
    (h : (rule written comment?).IsWellWritten) :
    RuleLine.content (rule written comment?).text = Text.trim written.meant := by
  rw [text, WrittenRule.text_eq h.1]
  refine RuleLine.content_withComment fun comment hc => ⟨(h.2 comment hc).1, ?_⟩
  exact h.1.after.getLast?_append (h.2 comment hc).2 _

/-- **A line says what it is meant to say.** -/
theorem verdict_text (strict : Bool) {line : WrittenLine} (h : line.IsWellWritten) :
    RuleLine.verdict strict line.text = line.verdict strict := by
  cases line with
  | blank gap comment? =>
    rw [RuleLine.verdict, content_blank h]
    rfl
  | rule written comment? =>
    have hf := RuleLine.value_contains_lineFeed (isOneLine_text h).lineFeed_notMem
    obtain ⟨blanks, hn, hb, hm⟩ := WrittenRule.exists_trim_meant h.1
    obtain ⟨hkn, hk, hl⟩ := h.1.keyword_spec
    have hstart : ∀ c ∈ (written.name ++ blanks ++ Text.trim written.definition).head?,
        isBlank c = false := by
      rw [List.append_assoc]
      exact Text.forall_head?_append h.1.name_ne h.1.name
    have hvalue := RuleLine.firstWord_append (fun c hc => (hk c hc).1) h.1.afterKeyword_ne
      h.1.afterKeyword.blank hstart
    have hname := RuleLine.firstWord_append h.1.name hn hb (Text.ends_trim written.definition).1
    have hne : (written.keyword ++ written.afterKeyword ++
        (written.name ++ blanks ++ Text.trim written.definition)).isEmpty = false := by
      simp [hkn]
    have hcore : (Text.trim written.definition).isEmpty = false := by
      simpa using h.1.trim_definition_ne
    rw [content_rule h, hm, hvalue] at hf
    rw [RuleLine.verdict, content_rule h, hm, hne, RuleLine.contentVerdict, hvalue]
    simp only [hf, hl, RuleLine.attachmentVerdict, hname, hcore, Bool.false_eq_true, if_false,
      if_true]
    rfl

end WrittenLine

/-! ## All lines -/

namespace RuleSet

open RuleLine

/-- Lines define what they are meant to define, whatever has been read before them. -/
theorem readLines_text (strict : Bool) {lines : List WrittenLine}
    (h : ∀ line ∈ lines, line.IsWellWritten) (set : RuleSet) (number : Nat) :
    (readLines strict set number (lines.map WrittenLine.text)).result =
      set.defineWritten strict number lines := by
  induction lines generalizing set number with
  | nil => rfl
  | cons line rest ih =>
    rw [List.forall_mem_cons] at h
    rw [List.map_cons, readLines, Noted.result_bind, readLine_result,
      WrittenLine.verdict_text _ h.1]
    cases line with
    | blank gap comment? => exact ih h.2 set (number + 1)
    | rule written comment? =>
      rw [WrittenLine.verdict, defineWritten]
      cases (AttachmentRule.compile strict written.name (Text.trim written.definition)).result with
      | ok rule => exact ih h.2 (set.define rule) (number + 1)
      | error fault =>
        cases fault with
        | malformed error =>
          exact ih h.2 (set.reject ⟨error.rule, number, error.message⟩) (number + 1)
        | pattern body fault => rfl
        | brokenLine => rfl

/-- An empty line at the end makes no difference. -/
theorem ofLines_append_nil (strict : Bool) (lines : List Text) :
    (ofLines strict (lines ++ [[]])).result = (ofLines strict lines).result := by
  have hnil : (ofLines strict [[]]).result = .ok {} := rfl
  rw [ofLines_append, hnil]
  cases (ofLines strict lines).result with
  | error fault => rfl
  | ok set => exact congrArg Except.ok (followedBy_empty set lines.length)

/-- Lines that are joined with line feeds are read as these lines. -/
theorem ofText_intercalate (strict : Bool) {lines : List Text}
    (h : ∀ line ∈ lines, IsOneLine line) :
    (ofText strict (List.intercalate ['\n'] lines)).result = (ofLines strict lines).result := by
  rw [ofText]
  rcases Text.lines_intercalate h with hl | hl
  · rw [hl]
  · rw [← ofLines_append_nil, hl]

/-- **Rule files are read as they are meant.** Names and definitions in which every number sign is
escaped, with blanks around and between them, with comments and with lines that define nothing, give
the rules that the definitions compile to under their names, and the refusals of those that do not,
under the numbers of their lines. Only a definition that is refused for a reason other than its form
ends the reading. -/
theorem ofText_written (strict : Bool) {lines : List WrittenLine}
    (h : ∀ line ∈ lines, line.IsWellWritten) :
    (ofText strict (List.intercalate ['\n'] (lines.map WrittenLine.text))).result =
      defineWritten strict {} 1 lines := by
  have hl : ∀ line ∈ lines.map WrittenLine.text, IsOneLine line := by
    intro line hm
    obtain ⟨written, hw, rfl⟩ := List.mem_map.mp hm
    exact WrittenLine.isOneLine_text (h written hw)
  rw [ofText_intercalate strict hl, ofLines_result, ← readLines_result, readLines_text strict h]

/-- A file with a comment on a line of its own, a rule with number signs and a backslash in its name
and its pattern and with a comment after it, a blank line, and a rule that is refused. -/
def sampleLines : List WrittenLine := [
  .blank [] (some " rules".toList),
  .rule ⟨" ".toList, "AttachMENT".toList, "\t".toList, "A#1".toList, "  ".toList,
    "name =~ /a\\#b/ ".toList, " ".toList⟩ (some "# new".toList),
  .blank " \t".toList none,
  .rule ⟨[], "attachment".toList, " ".toList, "B\\".toList, " ".toList, "nothing".toList, []⟩ none]

theorem ofText_written_of_sample :
    List.intercalate ['\n'] (sampleLines.map WrittenLine.text) =
      ("# rules\n AttachMENT\tA\\#1  name =~ /a\\\\#b/  ## new\n \t\n" ++
        "attachment B\\ nothing").toList ∧
    (∀ line ∈ sampleLines, line.IsWellWritten) ∧
    (ofText false (List.intercalate ['\n'] (sampleLines.map WrittenLine.text))).result =
      defineWritten false {} 1 sampleLines ∧
    (defineWritten false {} 1 sampleLines).toOption.map
      (fun set => (set.names, set.rejections.map Rejection.line)) = some (["A#1".toList], [4]) := by
  have h : ∀ line ∈ sampleLines, line.IsWellWritten := by
    refine List.forall_mem_cons.mpr ⟨?_, List.forall_mem_cons.mpr ⟨?_, List.forall_mem_cons.mpr
      ⟨?_, List.forall_mem_singleton.mpr ?_⟩⟩⟩
    · exact ⟨by decide, by rintro comment ⟨⟩; decide⟩
    · refine ⟨?_, by rintro comment ⟨⟩; decide⟩
      constructor <;> decide
    · exact ⟨by decide, by rintro comment ⟨⟩⟩
    · refine ⟨?_, by rintro comment ⟨⟩⟩
      constructor <;> decide
  exact ⟨by decide +kernel, h, ofText_written false h, by decide +kernel⟩

end RuleSet
end MailScreen
