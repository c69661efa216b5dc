import MailScreen.Proofs.Rule.Compiled
import MailScreen.Proofs.Rule.Printing

/-!
# Letters that are no options

A pattern between slashes ends at a slash after which, option letters passed over, there is a blank
or nothing. So a letter that is no option does not make a pattern malformed: its slash does not
close the pattern, which goes on over what follows. If the next condition has a pattern too, a slash
of that one is found instead, and **the two conditions are read as one**: what becomes of them
depends on the pattern that is then between the slashes (`AttachmentRule.readsOn`).
-/
namespace MailScreen

open WrittenClause

/-- Two conditions with patterns between slashes and a space between them, as in
`name =~ /body/letters ext =~ /later/`. Only the first pattern has letters after it. -/
def twoPatterns (first second : Target) (body letters later : Text) : Text :=
  Condition.printAll [⟨first, false, .pattern body letters⟩, ⟨second, false, .pattern later []⟩]

/-- What stands between the first slash of two such conditions and the third. -/
def begunPattern (second : Target) (body letters : Text) : Text :=
  body ++ '/' :: (letters ++ ' ' :: second.key.toList ++ " =~ ".toList)

/-- Whether a slash before a text closes a pattern: there is a blank after the option letters. -/
def closesBefore (t : Text) : Bool := (t.dropWhile isOptionLetter).head?.any isBlank

/-- What is left after a slash that closes a pattern and the option letters. -/
def leftAfter (t : Text) : Text := t.dropWhile isOptionLetter ++ ['/']

/-! ## Slashes in bodies -/

namespace NoEarlyEnd

variable {s t : Text}

theorem of_notMem (ht : '/' ∉ t) : NoEarlyEnd t :=
  fun _ hr => absurd (hr.subset (List.mem_cons_self ..)) ht

/-- What holds no slash may stand before. -/
theorem append (ht : '/' ∉ t) (hs : NoEarlyEnd s) : NoEarlyEnd (t ++ s) := by
  intro rest hr
  induction t with
  | nil => exact hs rest hr
  | cons c t ih =>
    rw [List.mem_cons, not_or] at ht
    rcases List.suffix_cons_iff.mp hr with he | hr
    · exact absurd (List.cons.inj he).1 ht.1
    · exact ih ht.2 hr

/-- A slash that does not close may stand before. -/
theorem slash (h : closesBefore s = false) (hs : NoEarlyEnd s) : NoEarlyEnd ('/' :: s) := by
  intro rest hr
  rcases List.suffix_cons_iff.mp hr with he | hr
  · obtain rfl := (List.cons.inj he).2
    intro c hc
    rw [closesBefore, Option.mem_def.mp hc] at h
    exact h
  · exact hs rest hr

end NoEarlyEnd

/-! ## Two conditions -/

theorem of_isAlpha {c : Char} (h : c.isAlpha = true) :
    isBlank c = false ∧ c ≠ '/' ∧ c ≠ '\n' :=
  Ascii.forall_of_isAlpha (p := fun c => isBlank c = false ∧ c ≠ '/' ∧ c ≠ '\n') (by decide) h

/-- Letters of which one is no option are not passed over. -/
theorem closesBefore_letters {letters : Text} (hl : ∀ c ∈ letters, c.isAlpha = true)
    (hf : ∃ c ∈ letters, isOptionLetter c = false) (t : Text) :
    closesBefore (letters ++ t) = false := by
  have hne : letters.dropWhile isOptionLetter ≠ [] := by
    obtain ⟨c, hm, hc⟩ := hf
    intro hn
    rw [List.dropWhile_eq_nil_iff.mp hn c hm] at hc
    cases hc
  obtain ⟨c, rest, hr⟩ := List.exists_cons_of_ne_nil hne
  have hmem : c ∈ letters.dropWhile isOptionLetter := by rw [hr]; exact List.mem_cons_self ..
  have hc : c.isAlpha = true := hl c ((List.dropWhile_sublist isOptionLetter).subset hmem)
  rw [closesBefore, List.dropWhile_append, hr]
  exact (of_isAlpha hc).1

section

variable {first second : Target} {body letters later : Text}

theorem begunPattern_notMem (hb : '\n' ∉ body) (hl : ∀ c ∈ letters, c.isAlpha = true) :
    '\n' ∉ begunPattern second body letters := by
  have hk : '\n' ∉ second.key.toList := by cases second <;> decide
  have hletters : '\n' ∉ letters := fun hm => (of_isAlpha (hl _ hm)).2.2 rfl
  simp [begunPattern, hb, hk, hletters]

/-- **A pattern goes on after letters that are no options**, up to the slashes of the next one. -/
theorem noEarlyEnd_begunPattern (hb : '/' ∉ body) (hl : ∀ c ∈ letters, c.isAlpha = true)
    (hf : ∃ c ∈ letters, isOptionLetter c = false) {t : Text} (ht : NoEarlyEnd t) :
    NoEarlyEnd (begunPattern second body letters ++ t) := by
  have hk : '/' ∉ second.key.toList := by cases second <;> decide
  have hletters : '/' ∉ letters := fun hm => (of_isAlpha (hl _ hm)).2.1 rfl
  have hmiddle : '/' ∉ letters ++ ' ' :: second.key.toList ++ " =~ ".toList := by
    simp [hk, hletters]
  rw [begunPattern, List.append_assoc, List.cons_append]
  refine .append hb (.slash ?_ (.append hmiddle ht))
  rw [List.append_assoc, List.append_assoc]
  exact closesBefore_letters hl hf _

/-- A slash that does not close the second pattern early is a part of the one that is read. -/
theorem twoPatterns_of_not_closesBefore :
    twoPatterns first second body letters later =
      (⟨first, false, .pattern (begunPattern second body letters ++ '/' :: later) []⟩ :
        Condition).print ++ [] := by
  simp [twoPatterns, Condition.printAll, Condition.print, Condition.operator,
    Operator.symbol, Comparand.print, begunPattern]

/-- A slash that closes is the last one of the pattern that is read. -/
theorem twoPatterns_of_closesBefore :
    twoPatterns first second body letters later =
      (⟨first, false, .pattern (begunPattern second body letters)
          (later.takeWhile isOptionLetter)⟩ : Condition).print ++
        leftAfter later := by
  have hsplit (t : Text) : later.takeWhile isOptionLetter ++
      (later.dropWhile isOptionLetter ++ t) = later ++ t := by
    rw [← List.append_assoc, List.takeWhile_append_dropWhile]
  simp [twoPatterns, Condition.printAll, Condition.print, Condition.operator,
    Operator.symbol, Comparand.print, begunPattern, leftAfter, hsplit]

theorem endsValue_leftAfter (h : closesBefore later = true) :
    endsValue (leftAfter later) = true := by
  unfold closesBefore at h
  unfold leftAfter
  cases hd : later.dropWhile isOptionLetter with
  | nil => rw [hd] at h; cases h
  | cons c rest => rw [hd] at h; exact h

end

/-! ## A condition and what follows it -/

/-- A condition is cut off where it starts. -/
theorem Cut.ofText_print_append {condition : Condition} (hp : condition.comparand.IsReadable)
    {rest : Text} (hr : endsValue rest = true) :
    ofText (condition.print ++ rest) =
      ⟨([], condition.written) :: (ofText rest).clauses, (ofText rest).last⟩ :=
  after_of_take? (take?_print hp hr)

namespace AttachmentRule

/-- The gap before a clause that starts a definition is not unrecognized. -/
theorem unrecognizedText_cons (written : WrittenClause) (cut : Cut) :
    unrecognizedText ⟨([], written) :: cut.clauses, cut.last⟩ = unrecognizedText cut := by
  rfl

/-- A condition on a pattern compiles as the pattern does. -/
theorem compileClause_pattern (rule : Text) (target : Target) (body letters : Text) :
    compileClause rule (⟨target, false, .pattern body letters⟩ : Condition).written =
      (compilePattern rule (.pattern ['/'] body '/' letters)).map fun compiled =>
        ⟨target, .matching, .pattern compiled,
          (⟨target, false, .pattern body letters⟩ : Condition).print⟩ := by
  have hk : Target.ofKey?
      (⟨target, false, .pattern body letters⟩ : Condition).written.key = some target :=
    Target.ofKey?_key target
  simp only [compileClause, hk, Condition.text_written]
  show (compilePattern rule (.pattern ['/'] body '/' letters)).map Operand.pattern >>= _ = _
  cases compilePattern rule (.pattern ['/'] body '/' letters) <;> rfl

section

variable {strict : Bool} {name body letters rest : Text} {target : Target}

/-- A pattern between slashes compiles as its body does under the options that are named. -/
theorem compilePattern_slashes (rule body : Text) (hl : ∀ c ∈ letters, isOptionLetter c = true) :
    (∀ compiled, compilePattern rule (.pattern ['/'] body '/' letters) = .ok compiled ↔
      CompiledPattern.ofText (.named letters) body = .ok compiled) ∧
    ((∃ error, compilePattern rule (.pattern ['/'] body '/' letters) =
        .error (.malformed error)) ↔ ∃ problem place,
      CompiledPattern.ofText (.named letters) body = .error (.malformed problem place)) := by
  have hp : (WrittenValue.pattern ['/'] body '/' letters).pattern? =
      some (body, .named letters) := pattern?_of_isDelimited (.pattern .slashes hl)
  constructor
  · intro compiled
    rw [compilePattern_eq_ok_iff, hp]
    simp
  · rw [compilePattern_eq_malformed_iff, hp]
    simp

/-- **A definition that starts with a condition on a pattern compiles exactly if** the pattern and
the clauses after it do, and a strict reader finds nothing else. -/
theorem compile_pattern_eq_ok_iff (hb : '\n' ∉ body) (he : NoEarlyEnd body)
    (hl : ∀ c ∈ letters, isOptionLetter c = true) (hr : endsValue rest = true)
    (rule : AttachmentRule) :
    (compile strict name
        ((⟨target, false, .pattern body letters⟩ : Condition).print ++ rest)).result = .ok rule ↔
      ∃ compiled more, CompiledPattern.ofText (.named letters) body = .ok compiled ∧
        ((Cut.ofText rest).clauses.map (·.2)).mapM (compileClause name) = .ok more ∧
        (strict = true → unrecognizedText (Cut.ofText rest) = []) ∧
        rule = ⟨name, lastClauses (⟨target, .matching, .pattern compiled,
          (⟨target, false, .pattern body letters⟩ : Condition).print⟩ :: more)⟩ := by
  have hreadable : (⟨target, false, .pattern body letters⟩ : Condition).comparand.IsReadable :=
    ⟨hb, he, hl⟩
  rw [compile_eq_ok_iff, Cut.ofText_print_append hreadable hr, unrecognizedText_cons]
  simp only [List.map_cons, List.mapM_cons, bind_eq_ok_iff, compileClause_pattern, map_eq_ok_iff,
    (compilePattern_slashes name body hl).1]
  constructor
  · rintro ⟨clauses, ⟨_, ⟨compiled, hc, rfl⟩, more, hm, ho⟩, -, hs, rfl⟩
    obtain rfl := Except.ok.inj ho
    exact ⟨compiled, more, hc, hm, hs, rfl⟩
  · rintro ⟨compiled, more, hc, hm, hs, rfl⟩
    exact ⟨_, ⟨_, ⟨compiled, hc, rfl⟩, more, hm, rfl⟩, List.cons_ne_nil _ _, hs, rfl⟩

/-- **It is found to be malformed exactly if** the pattern is, or else the clauses after it, or else
a strict reader finds something else. -/
theorem compile_pattern_eq_malformed_iff (hb : '\n' ∉ body) (he : NoEarlyEnd body)
    (hl : ∀ c ∈ letters, isOptionLetter c = true) (hr : endsValue rest = true) :
    (∃ error, (compile strict name
        ((⟨target, false, .pattern body letters⟩ : Condition).print ++ rest)).result =
          .error (.malformed error)) ↔
      (∃ problem place, CompiledPattern.ofText (.named letters) body =
          .error (.malformed problem place)) ∨
      (∃ compiled, CompiledPattern.ofText (.named letters) body = .ok compiled) ∧
        ((∃ error, ((Cut.ofText rest).clauses.map (·.2)).mapM (compileClause name) =
            .error (.malformed error)) ∨
          (∃ more, ((Cut.ofText rest).clauses.map (·.2)).mapM (compileClause name) = .ok more) ∧
            strict = true ∧ unrecognizedText (Cut.ofText rest) ≠ []) := by
  have hreadable : (⟨target, false, .pattern body letters⟩ : Condition).comparand.IsReadable :=
    ⟨hb, he, hl⟩
  obtain ⟨hok, hmalformed⟩ := compilePattern_slashes name body hl
  rw [compile_eq_malformed_iff, Cut.ofText_print_append hreadable hr, unrecognizedText_cons,
    ← hmalformed]
  simp only [List.map_cons, List.mapM_cons, bind_eq_ok_iff, bind_eq_error_iff,
    compileClause_pattern, map_eq_ok_iff, map_eq_error_iff, hok]
  constructor
  -- the first clause is malformed, or one after it, or all compile and something else is found
  · rintro (⟨error, h | ⟨_, ⟨compiled, hc, -⟩, h | ⟨_, -, h⟩⟩⟩ |
      ⟨clauses, ⟨_, ⟨compiled, hc, rfl⟩, more, hm, ho⟩, hn⟩)
    · exact .inl ⟨error, h⟩
    · exact .inr ⟨⟨compiled, hc⟩, .inl ⟨error, h⟩⟩
    · cases h
    · obtain rfl := Except.ok.inj ho
      exact .inr ⟨⟨compiled, hc⟩, .inr ⟨⟨more, hm⟩, hn.resolve_left (List.cons_ne_nil _ _)⟩⟩
  · rintro (⟨error, h⟩ | ⟨⟨compiled, hc⟩, ⟨error, h⟩ | ⟨⟨more, hm⟩, hs⟩⟩)
    · exact .inl ⟨error, .inl h⟩
    · exact .inl ⟨error, .inr ⟨_, ⟨compiled, hc, rfl⟩, .inl h⟩⟩
    · exact .inr ⟨_, ⟨_, ⟨compiled, hc, rfl⟩, more, hm, rfl⟩, .inr hs⟩

end

/-- **Two conditions that are read as one**, because the letters after the first pattern are no
options, by a strict reader or a lenient one. -/
structure ReadsOn (strict : Bool) (name : Text) (first second : Target)
    (body letters later : Text) : Prop where
  /-- If only its last slash closes the second pattern, everything between the outermost slashes is
  one pattern. What compiles has one clause, whose source is the whole definition. -/
  accepted_iff : closesBefore later = false → ∀ rule,
    (compile strict name (twoPatterns first second body letters later)).result = .ok rule ↔
      ∃ compiled, CompiledPattern.ofText {} (begunPattern second body letters ++ '/' :: later) =
          .ok compiled ∧
        rule = ⟨name, [⟨first, .matching, .pattern compiled,
          twoPatterns first second body letters later⟩]⟩
  /-- It is refused if this pattern is malformed, and not for the letters. -/
  refused_iff : closesBefore later = false →
    ((∃ error, (compile strict name (twoPatterns first second body letters later)).result =
        .error (.malformed error)) ↔
      ∃ problem place, CompiledPattern.ofText {}
        (begunPattern second body letters ++ '/' :: later) = .error (.malformed problem place))
  /-- If option letters and a blank follow the first slash of the second pattern, that slash closes
  the pattern that is read, and the rest is read on its own. -/
  accepted_early_iff : closesBefore later = true → ∀ rule,
    (compile strict name (twoPatterns first second body letters later)).result = .ok rule ↔
      ∃ compiled more,
        CompiledPattern.ofText (.named (later.takeWhile isOptionLetter))
          (begunPattern second body letters) = .ok compiled ∧
        ((Cut.ofText (leftAfter later)).clauses.map (·.2)).mapM (compileClause name) = .ok more ∧
        (strict = true → unrecognizedText (Cut.ofText (leftAfter later)) = []) ∧
        rule = ⟨name, lastClauses (⟨first, .matching, .pattern compiled,
          (⟨first, false, .pattern (begunPattern second body letters)
            (later.takeWhile isOptionLetter)⟩ : Condition).print⟩ :: more)⟩
  /-- It is refused if this pattern is malformed, or for what follows it. -/
  refused_early_iff : closesBefore later = true →
    ((∃ error, (compile strict name (twoPatterns first second body letters later)).result =
        .error (.malformed error)) ↔
      (∃ problem place, CompiledPattern.ofText (.named (later.takeWhile isOptionLetter))
          (begunPattern second body letters) = .error (.malformed problem place)) ∨
      (∃ compiled, CompiledPattern.ofText (.named (later.takeWhile isOptionLetter))
          (begunPattern second body letters) = .ok compiled) ∧
        ((∃ error, ((Cut.ofText (leftAfter later)).clauses.map (·.2)).mapM (compileClause name) =
            .error (.malformed error)) ∨
          (∃ more, ((Cut.ofText (leftAfter later)).clauses.map (·.2)).mapM (compileClause name) =
            .ok more) ∧ strict = true ∧ unrecognizedText (Cut.ofText (leftAfter later)) ≠ []))

/-- **A letter that is no option makes two conditions one**, whatever the patterns and the fields
are: nothing is refused for it, not even by a strict reader. -/
theorem readsOn (strict : Bool) (name : Text) (first second : Target) {body letters later : Text}
    (hbody : '/' ∉ body ∧ '\n' ∉ body) (hlater : '/' ∉ later ∧ '\n' ∉ later)
    (hl : ∀ c ∈ letters, c.isAlpha = true) (hf : ∃ c ∈ letters, isOptionLetter c = false) :
    ReadsOn strict name first second body letters later := by
  have hbegun : '\n' ∉ begunPattern second body letters := begunPattern_notMem hbody.2 hl
  have hwhole : '\n' ∉ begunPattern second body letters ++ '/' :: later := by
    simp [hbegun, hlater.2]
  have hend (hc : closesBefore later = false) :
      NoEarlyEnd (begunPattern second body letters ++ '/' :: later) :=
    noEarlyEnd_begunPattern hbody.1 hl hf (.slash hc (.of_notMem hlater.1))
  have hendEarly : NoEarlyEnd (begunPattern second body letters) := by
    have he : NoEarlyEnd (begunPattern second body letters ++ []) :=
      noEarlyEnd_begunPattern hbody.1 hl hf (.of_notMem List.not_mem_nil)
    rwa [List.append_nil] at he
  have hoptions : ∀ c ∈ later.takeWhile isOptionLetter, isOptionLetter c = true :=
    fun _ hc => List.mem_takeWhile_imp hc
  -- nothing is left after the last slash, so there are no more clauses and nothing else to refuse
  have hnone : Cut.ofText [] = ⟨[], []⟩ := by rw [Cut.ofText, Cut.after]; rfl
  have hunrecognized : unrecognizedText ⟨[], []⟩ = [] := rfl
  refine ⟨fun hc rule => ?_, fun hc => ?_, fun hc rule => ?_, fun hc => ?_⟩
  · rw [twoPatterns_of_not_closesBefore, compile_pattern_eq_ok_iff hwhole (hend hc) (by simp) rfl,
      hnone, hunrecognized]
    constructor
    · rintro ⟨compiled, more, hcompiled, hm, -, rfl⟩
      obtain rfl := Except.ok.inj hm
      exact ⟨compiled, hcompiled, by rw [List.append_nil]; rfl⟩
    · rintro ⟨compiled, hcompiled, rfl⟩
      exact ⟨compiled, [], hcompiled, rfl, fun _ => rfl, by rw [List.append_nil]; rfl⟩
  · rw [twoPatterns_of_not_closesBefore,
      compile_pattern_eq_malformed_iff hwhole (hend hc) (by simp) rfl, hnone, hunrecognized]
    constructor
    · rintro (h | ⟨-, ⟨error, h⟩ | ⟨-, -, h⟩⟩)
      · exact h
      · cases h
      · exact absurd rfl h
    · exact .inl
  · rw [twoPatterns_of_closesBefore]
    exact compile_pattern_eq_ok_iff hbegun hendEarly hoptions (endsValue_leftAfter hc) rule
  · rw [twoPatterns_of_closesBefore]
    exact compile_pattern_eq_malformed_iff hbegun hendEarly hoptions (endsValue_leftAfter hc)

/-- A second pattern that is read up to its end, and one that is closed at its start. -/
theorem readsOn_of_q :
    ReadsOn true "R".toList .name .extension "a".toList "q".toList "b".toList ∧
      ReadsOn false "R".toList .name .name "a b".toList "iQ".toList "i c == d ".toList :=
  ⟨readsOn _ _ _ _ (by decide) (by decide) (by decide) ⟨'q', by decide, by decide⟩,
    readsOn _ _ _ _ (by decide) (by decide) (by decide) ⟨'Q', by decide, by decide⟩⟩

/-- A strict reader takes two conditions with a mistyped letter between them for one. -/
theorem compile_of_mistypedLetter :
    (compile true "R".toList "name =~ /a/q ext =~ /b/".toList).result.map
        (fun rule => rule.clauses.map fun clause => (clause.target, clause.operand.text)) =
      .ok [(.name, "a/q ext =~ /b".toList)] := by
  decide +kernel

end AttachmentRule
end MailScreen
