import Mathlib.Data.List.Infix
import MailScreen.Proofs.Rule.TakenApart
import MailScreen.Proofs.Rule.Uncompilable
import MailScreen.Proofs.Text.Ascii

/-!
# Definitions that are printed and compiled

A rule is put down as conditions on different fields, each a text in quotation marks or a pattern
between slashes, with a space between them. **Compiling what is printed gives the conditions back**
(`AttachmentRule.compile_printAll`), in their order, for a strict reader as for a lenient one, and
each clause has the printed condition as its source.

What has to be shown is that every clause is read up to its own end and no further, whatever stands
in its text or its pattern: what looks like a clause, a quotation mark or a delimiter there. A
quoted text ends at the first quotation mark, as it holds none. A pattern holds slashes, but after
the letters that follow one of them there is no blank, so none of them closes it
(`WrittenClause.takeBody?_append_slash`).
-/
namespace MailScreen

/-- What a condition compares a field with. -/
inductive Comparand where
  /-- A text. -/
  | text (t : Text)
  /-- A pattern, by its body and the letters of its options. -/
  | pattern (body letters : Text)
  deriving DecidableEq, Repr

/-- A condition on one field of an attachment, as it is put down. -/
structure Condition where
  /-- The field. -/
  target : Target
  /-- Whether the field is to differ from what it is compared with. -/
  negated : Bool
  /-- What it is compared with. -/
  comparand : Comparand
  deriving DecidableEq, Repr

/-- The options that letters name. -/
def Pattern.Options.named (letters : Text) : Pattern.Options where
  ignoreCase := letters.contains 'i'
  multiline := letters.contains 'm'
  dotAll := letters.contains 's'
  verbose := letters.contains 'x'

/-- A body that no slash in it closes: after the letters that follow a slash there is no blank. -/
def NoEarlyEnd (body : Text) : Prop :=
  ∀ rest, '/' :: rest <:+ body →
    ∀ c ∈ (rest.dropWhile WrittenClause.isOptionLetter).head?, isBlank c = false

instance : DecidablePred NoEarlyEnd := fun body =>
  decidable_of_iff
    (∀ tail ∈ body.tails, tail.head? = some '/' →
      ∀ c ∈ (tail.tail.dropWhile WrittenClause.isOptionLetter).head?, isBlank c = false)
    ⟨fun h _ hs => h _ ((List.mem_tails ..).mpr hs) rfl, fun h tail ht hh => by
      obtain ⟨rest, rfl⟩ := List.head?_eq_some_iff.mp hh
      exact h rest ((List.mem_tails ..).mp ht)⟩

namespace Comparand

/-- A comparand as it is printed: a text in double quotation marks, a pattern between slashes. -/
def print : Comparand → Text
  | text t => '"' :: t ++ ['"']
  | pattern body letters => '/' :: body ++ '/' :: letters

/-- What can be printed: a text without quotation marks and line feeds, and a pattern without line
feeds that no slash in it closes and that compiles under its options. -/
def IsPrintable : Comparand → Prop
  | text t => '"' ∉ t ∧ '\n' ∉ t
  | pattern body letters =>
    '\n' ∉ body ∧ NoEarlyEnd body ∧ (∀ c ∈ letters, WrittenClause.isOptionLetter c = true) ∧
      ∃ compiled, CompiledPattern.ofText (.named letters) body = .ok compiled

/-- What is read as it is printed, whether or not it compiles. -/
def IsReadable : Comparand → Prop
  | text t => '"' ∉ t ∧ '\n' ∉ t
  | pattern body letters =>
    '\n' ∉ body ∧ NoEarlyEnd body ∧ ∀ c ∈ letters, WrittenClause.isOptionLetter c = true

theorem IsPrintable.isReadable {comparand : Comparand} (h : comparand.IsPrintable) :
    comparand.IsReadable := by
  cases comparand with
  | text t => exact h
  | pattern body letters => exact ⟨h.1, h.2.1, h.2.2.1⟩

/-- What a comparand is compiled to: the text itself, or the pattern under the options that its
letters name. -/
def CompilesTo : Comparand → Operand → Prop
  | text t, .literal u => u = t
  | pattern body letters, .pattern compiled =>
    CompiledPattern.ofText (.named letters) body = .ok compiled ∧ compiled.body = body
  | _, _ => False

/-- The value that a printed comparand is read as. -/
def written : Comparand → WrittenValue
  | text t => .quoted '"' t
  | pattern body letters => .pattern ['/'] body '/' letters

theorem text_written (comparand : Comparand) : comparand.written.text = comparand.print := by
  cases comparand <;> simp [written, WrittenValue.text, print]

/-- A printed comparand starts with a quotation mark or a slash. -/
theorem head?_print (comparand : Comparand) (rest : Text) :
    ∀ c ∈ (comparand.print ++ rest).head?, isBlank c = false := by
  cases comparand <;> (simp [print]; decide)

end Comparand

namespace Condition

/-- The operator of a condition. -/
def operator (condition : Condition) : Operator :=
  match condition.comparand, condition.negated with
  | .text _, false => .equal
  | .text _, true => .notEqual
  | .pattern .., false => .matching
  | .pattern .., true => .notMatching

/-- A condition as it is printed: the key, the operator and the comparand with spaces between. -/
def print (condition : Condition) : Text :=
  condition.target.key.toList ++ ' ' :: condition.operator.symbol ++
    ' ' :: condition.comparand.print

/-- The conditions of a rule as they are printed, with a space between them. -/
def printAll (conditions : List Condition) : Text := List.intercalate [' '] (conditions.map print)

/-- The clause that a condition is compiled to. -/
structure CompilesTo (condition : Condition) (clause : Clause) : Prop where
  target : clause.target = condition.target
  operator : clause.operator = condition.operator
  operand : condition.comparand.CompilesTo clause.operand
  source : clause.source = condition.print

/-- The clause that a printed condition is read as. -/
def written (condition : Condition) : WrittenClause where
  key := condition.target.key.toList
  before := [' ']
  operator :=
    (if condition.negated then '!' else '=',
      match condition.comparand with
      | .text _ => '='
      | .pattern .. => '~')
  after := [' ']
  value := condition.comparand.written

theorem text_written (condition : Condition) : condition.written.text = condition.print := by
  obtain ⟨target, negated, comparand⟩ := condition
  have h : comparand.written.text = comparand.print := comparand.text_written
  cases comparand <;> cases negated <;>
    simp [WrittenClause.text, written, print, operator, Operator.symbol, h]

end Condition

/-! ## Values -/

namespace WrittenClause

/-- A value that may end before a text is not followed by option letters. -/
theorem head?_of_endsValue {rest : Text} (h : endsValue rest = true) :
    ∀ c ∈ rest.head?, isOptionLetter c = false := by
  cases rest with
  | nil => simp
  | cons c rest =>
    intro d hd
    obtain rfl := Option.some.inj hd
    exact isOptionLetter_of_isBlank h

/-- A slash in a body that is not closed early does not close it before the slash at its end. -/
theorem not_endsValue_of_noEarlyEnd {rest : Text} (s : Text)
    (h : ∀ c ∈ (rest.dropWhile isOptionLetter).head?, isBlank c = false) :
    endsValue ((rest ++ '/' :: s).dropWhile isOptionLetter) = false := by
  rw [List.dropWhile_append]
  cases hr : rest.dropWhile isOptionLetter with
  | nil => rfl
  | cons c left =>
    rw [hr] at h
    exact h c rfl

/-- **A printed pattern is read up to the slash at its end.** -/
theorem takeBody?_append_slash {body letters rest : Text} (hb : '\n' ∉ body)
    (he : NoEarlyEnd body) (hl : ∀ c ∈ letters, isOptionLetter c = true)
    (hr : endsValue rest = true) :
    takeBody? '/' (body ++ '/' :: (letters ++ rest)) = some (body, letters, rest) := by
  induction body with
  | nil =>
    obtain ⟨h1, h2⟩ := Text.takeWhile_append_stop hl (head?_of_endsValue hr)
    rw [List.nil_append, takeBody?, h1, h2, if_pos (by simp [hr])]
  | cons c body ih =>
    rw [List.mem_cons, not_or] at hb
    -- a slash before the end is followed by what no value may end before
    have hc : (c = '/' && endsValue ((body ++ '/' :: (letters ++ rest)).dropWhile isOptionLetter)) =
        false := by
      by_cases hs : c = '/'
      · rw [not_endsValue_of_noEarlyEnd _ (he body (by rw [hs])),
          Bool.and_false]
      · simp [hs]
    rw [List.cons_append, takeBody?, hc, if_neg (by simp), if_neg (Ne.symm hb.1),
      ih hb.2 fun left hs => he left (hs.trans (List.suffix_cons c body))]
    rfl

/-- **A printed text is read up to the quotation mark at its end.** -/
theorem takeQuotedBody?_append_mark {t rest : Text} (hq : '"' ∉ t) (hn : '\n' ∉ t)
    (hr : endsValue rest = true) : takeQuotedBody? '"' (t ++ '"' :: rest) = some (t, rest) := by
  induction t with
  | nil => rw [List.nil_append, takeQuotedBody?, if_pos (by simp [hr])]
  | cons c t ih =>
    rw [List.mem_cons, not_or] at hq hn
    rw [List.cons_append, takeQuotedBody?, if_neg (by simp [Ne.symm hq.1]), if_neg (Ne.symm hn.1),
      ih hq.2 hn.2]
    rfl

theorem takeValue?_print {comparand : Comparand} (hp : comparand.IsReadable) {rest : Text}
    (hr : endsValue rest = true) :
    takeValue? (comparand.print ++ rest) = some (comparand.written, rest) := by
  cases comparand with
  | text t =>
    obtain ⟨hq, hn⟩ := hp
    have ht : takeQuoted? ('"' :: (t ++ '"' :: rest)) = some (.quoted '"' t, rest) := by
      rw [takeQuoted?, if_pos (by decide), takeQuotedBody?_append_mark hq hn hr]
      rfl
    have hs : takePattern? ('"' :: (t ++ '"' :: rest)) = none := rfl
    simp only [Comparand.print, List.cons_append, List.append_assoc, List.nil_append, takeValue?,
      hs, ht]
    rfl
  | pattern body letters =>
    obtain ⟨hb, he, hl⟩ := hp
    simp only [Comparand.print, List.cons_append, List.append_assoc, takeValue?, takePattern?,
      takePatternAfter?, takeBody?_append_slash hb he hl hr]
    rfl

/-- A key is a word. -/
theorem key_word (target : Target) :
    ∃ c word, target.key.toList = c :: word ∧ startsKey c = true ∧ ∀ d ∈ word, isWord d = true := by
  cases target <;> exact ⟨_, _, rfl, by decide, by decide⟩

theorem print_eq (condition : Condition) (rest : Text) :
    condition.print ++ rest = condition.target.key.toList ++ ' ' :: condition.written.operator.1 ::
      condition.written.operator.2 :: ' ' :: (condition.comparand.print ++ rest) := by
  rw [← condition.text_written]
  simp [text, Condition.written, Comparand.text_written]

theorem isOperator_written (condition : Condition) :
    isOperator condition.written.operator.1 condition.written.operator.2 = true := by
  obtain ⟨target, negated, comparand⟩ := condition
  cases negated <;> cases comparand <;> rfl

/-- **A printed condition is read up to its own end**, whatever stands after the blank that ends
it. -/
theorem take?_print {condition : Condition} (hp : condition.comparand.IsReadable) {rest : Text}
    (hr : endsValue rest = true) :
    take? (condition.print ++ rest) = some (condition.written, rest) := by
  obtain ⟨c, word, hk, hc, hw⟩ := key_word condition.target
  have hword (s : Text) : (word ++ ' ' :: s).takeWhile isWord = word ∧
      (word ++ ' ' :: s).dropWhile isWord = ' ' :: s :=
    Text.takeWhile_append_stop hw (by simp; decide)
  have hblank {s : Text} (h : ∀ c ∈ s.head?, isBlank c = false) :
      (' ' :: s).takeWhile isBlank = [' '] ∧ (' ' :: s).dropWhile isBlank = s :=
    Text.takeWhile_append_stop (t := [' ']) (by decide) h
  have hop := isOperator_written condition
  have hmark : ∀ d ∈ (condition.written.operator.1 :: condition.written.operator.2 :: ' ' ::
      (condition.comparand.print ++ rest)).head?, isBlank d = false := by
    cases hn : condition.negated <;> (simp [Condition.written, hn]; decide)
  rw [print_eq, hk, List.cons_append]
  simp only [take?, hc, if_true, hword, hblank hmark,
    hblank (condition.comparand.head?_print rest), hop, takeValue?_print hp hr]
  rw [← hk]
  rfl

end WrittenClause

/-! ## Cutting -/

namespace Cut

/-- A clause is cut off where it starts. -/
theorem after_of_take? {gap t left : Text} {clause : WrittenClause}
    (h : WrittenClause.take? t = some (clause, left)) :
    after false gap t =
      ⟨(gap.reverse, clause) :: (after false [] left).clauses, (after false [] left).last⟩ := by
  cases t with
  | nil => cases h
  | cons c rest =>
    rw [after]
    split
    next clause' left' h' =>
      obtain ⟨rfl, rfl⟩ := Prod.mk.inj (Option.some.inj (h.symm.trans h'))
      rfl
    next h' => exact absurd (h.symm.trans h') (by simp)

/-- No clause starts at a blank. -/
theorem after_space (gap t : Text) : after false gap (' ' :: t) = after false (' ' :: gap) t := by
  rw [after]
  rfl

/-- **What is printed is cut into the printed conditions**, with nothing but the spaces between
them. -/
theorem ofText_printAll {first : Condition} {rest : List Condition}
    (hp : ∀ condition ∈ first :: rest, condition.comparand.IsPrintable) :
    ofText (Condition.printAll (first :: rest)) =
      ⟨([], first.written) :: rest.map fun condition => ([' '], condition.written), []⟩ := by
  -- the induction is on the conditions left, after any gap that was passed over
  have key (gap : Text) : after false gap (Condition.printAll (first :: rest)) =
      ⟨(gap.reverse, first.written) :: rest.map fun condition => ([' '], condition.written),
        []⟩ := by
    induction rest generalizing first gap with
    | nil =>
      have h : WrittenClause.take? (first.print ++ []) = some (first.written, []) :=
        WrittenClause.take?_print (hp first (by simp)).isReadable rfl
      rw [List.append_nil] at h
      have hs : Condition.printAll [first] = first.print := List.intercalate_singleton
      rw [hs, after_of_take? h, after]
      rfl
    | cons second rest ih =>
      have h : WrittenClause.take?
          (first.print ++ ' ' :: Condition.printAll (second :: rest)) =
            some (first.written, ' ' :: Condition.printAll (second :: rest)) :=
        WrittenClause.take?_print (hp first (by simp)).isReadable
          (show isBlank ' ' = true by decide)
      have hs : Condition.printAll (first :: second :: rest) =
          first.print ++ ' ' :: Condition.printAll (second :: rest) := by
        simp [Condition.printAll]
      rw [hs, after_of_take? h, after_space, ih fun c hc => hp c (List.mem_cons_of_mem _ hc)]
      rfl
  exact key []

end Cut

namespace AttachmentRule

/-- Blanks between the clauses are not text that is unrecognized. -/
theorem unrecognizedText_of_blanks {cut : Cut}
    (h : ∀ gap ∈ cut.gaps, ∀ c ∈ gap, isBlank c = true) : unrecognizedText cut = [] := by
  have hf : (cut.gaps.map Text.trim).filter (fun piece => !piece.isEmpty) = [] := by
    rw [List.filter_eq_nil_iff]
    intro piece hm
    obtain ⟨gap, hg, rfl⟩ := List.mem_map.mp hm
    simp [Text.trim_of_blanks (h gap hg)]
  rw [unrecognizedText, hf]
  rfl

/-! ## Compiling -/

theorem named_cons (c : Char) (letters : Text) :
    Pattern.Options.named (c :: letters) =
      (Pattern.Options.named [c]).union (.named letters) := by
  simp [Pattern.Options.named, Pattern.Options.union]

theorem union_assoc (a b c : Pattern.Options) : (a.union b).union c = a.union (b.union c) := by
  simp [Pattern.Options.union, Bool.or_assoc]

/-- Options that letters turn on one after the other, on top of others. -/
theorem foldl_union_named {f : Pattern.Options → Char → Pattern.Options} {letters : Text}
    (hf : ∀ options, ∀ c ∈ letters, f options c = options.union (.named [c]))
    (options : Pattern.Options) : letters.foldl f options = options.union (.named letters) := by
  induction letters generalizing options with
  | nil => cases options; simp [Pattern.Options.union, Pattern.Options.named]
  | cons c letters ih =>
    rw [List.foldl_cons, ih fun options d hd => hf options d (List.mem_cons_of_mem c hd),
      hf options c (List.mem_cons_self ..), union_assoc, ← named_cons]

/-- Letters turn on the options that they name. -/
theorem optionsOfLetters_eq {letters : Text}
    (hl : ∀ c ∈ letters, WrittenClause.isOptionLetter c = true) :
    optionsOfLetters letters = .named letters := by
  refine (foldl_union_named (fun options c hc => ?_) {}).trans ?_
  · rcases (WrittenClause.isOptionLetter_iff c).mp (hl c hc) with rfl | rfl | rfl | rfl <;>
      simp [Pattern.Options.ofLetter?, Pattern.Options.union, Pattern.Options.named]
  · simp [Pattern.Options.union, Pattern.Options.named]

/-- A value that stands for a pattern stands for its body under the options that are named. -/
theorem pattern?_of_isDelimited {value : WrittenValue} {body letters : Text}
    (h : IsDelimited value.text body letters) :
    value.pattern? = some (body, .named letters) := by
  rw [WrittenValue.pattern?, WrittenValue.splitPattern?_of_isDelimited h, Option.map_some]
  exact congrArg (fun options => some (body, options)) (optionsOfLetters_eq h.isOptionLetter)

theorem body_of_ofText {options : Pattern.Options} {body : Text} {compiled : CompiledPattern}
    (h : CompiledPattern.ofText options body = .ok compiled) : compiled.body = body := by
  unfold CompiledPattern.ofText at h
  cases hr : CompiledPattern.read options body with
  | error fault => rw [hr] at h; cases h
  | ok found =>
    rw [hr] at h
    obtain rfl := Except.ok.inj h
    rfl

/-- A printed comparand compiles to what it says. -/
theorem compileOperand_written (rule : Text) {condition : Condition}
    (hp : condition.comparand.IsPrintable) :
    ∃ operand, compileOperand rule condition.operator condition.comparand.written = .ok operand ∧
      condition.comparand.CompilesTo operand := by
  obtain ⟨target, negated, comparand⟩ := condition
  cases comparand with
  | text t =>
    have hl : (Comparand.text t).written.literal = t := WrittenValue.unquote_quoted (by decide) t
    refine ⟨.literal t, ?_, rfl⟩
    cases negated <;> exact congrArg (fun t => Except.ok (Operand.literal t)) hl
  | pattern body letters =>
    obtain ⟨-, -, hl, compiled, hc⟩ := hp
    refine ⟨.pattern compiled, ?_, hc, body_of_ofText hc⟩
    have hv : (WrittenValue.pattern ['/'] body '/' letters).pattern? =
        some (body, .named letters) := pattern?_of_isDelimited (.pattern .slashes hl)
    have hr : compilePattern rule (.pattern ['/'] body '/' letters) = .ok compiled := by
      simp only [compilePattern, hv, hc]
    cases negated <;> exact congrArg (Except.map Operand.pattern) hr

/-- **A printed condition compiles to what it says.** -/
theorem compileClause_written (rule : Text) {condition : Condition}
    (hp : condition.comparand.IsPrintable) :
    ∃ clause, compileClause rule condition.written = .ok clause ∧
      condition.CompilesTo clause := by
  obtain ⟨operand, hc, ho⟩ := compileOperand_written rule hp
  have hk : Target.ofKey? condition.written.key = some condition.target :=
    Target.ofKey?_key condition.target
  have hs : Operator.ofSymbol [condition.written.operator.1, condition.written.operator.2] =
      condition.operator := by
    obtain ⟨target, negated, comparand⟩ := condition
    cases negated <;> cases comparand <;> rfl
  refine ⟨⟨condition.target, condition.operator, operand, condition.written.text⟩, ?_,
    rfl, rfl, ho, condition.text_written⟩
  have hv : condition.written.value = condition.comparand.written := rfl
  simp only [compileClause, hk, hs, hv, hc]
  rfl

/-- Printed conditions compile to what they say, in their order. -/
theorem mapM_compileClause_written (rule : Text) {conditions : List Condition}
    (hp : ∀ condition ∈ conditions, condition.comparand.IsPrintable) :
    ∃ clauses, (conditions.map Condition.written).mapM (compileClause rule) = .ok clauses ∧
      List.Forall₂ Condition.CompilesTo conditions clauses := by
  induction conditions with
  | nil => exact ⟨[], rfl, .nil⟩
  | cons first rest ih =>
    obtain ⟨clause, hc, hf⟩ := compileClause_written rule (hp first (List.mem_cons_self ..))
    obtain ⟨clauses, hcs, hfs⟩ := ih fun c hm => hp c (List.mem_cons_of_mem _ hm)
    refine ⟨clause :: clauses, ?_, .cons hf hfs⟩
    rw [List.map_cons, List.mapM_cons, hc, hcs]
    rfl

theorem map_target_of_compilesTo {conditions : List Condition} {clauses : List Clause}
    (h : List.Forall₂ Condition.CompilesTo conditions clauses) :
    clauses.map (·.target) = conditions.map (·.target) := by
  induction h with
  | nil => rfl
  | cons hc _ ih => rw [List.map_cons, List.map_cons, hc.target, ih]

/-- No clause replaces another if they look at different fields. -/
theorem lastClauses_of_nodup {clauses : List Clause} (h : (clauses.map (·.target)).Nodup) :
    lastClauses clauses = clauses := by
  induction clauses with
  | nil => rfl
  | cons clause rest ih =>
    rw [List.map_cons, List.nodup_cons] at h
    have hn : rest.any (·.target == clause.target) = false := by
      rw [List.any_eq_false]
      intro other hm he
      exact h.1 (List.mem_map.mpr ⟨other, hm, by simpa using he⟩)
    rw [lastClauses, hn, ih h.2]
    rfl

/-- **Printing and compiling give the conditions back.** Conditions on different fields, printed
with a space between them, compile to one clause each, in their order: on the same field, with the
same operator, with the same text or the pattern of the same body under the same options, and with
the printed condition as source. A strict reader has nothing to refuse. -/
theorem compile_printAll (strict : Bool) (name : Text) {conditions : List Condition}
    (hn : conditions ≠ []) (hd : (conditions.map (·.target)).Nodup)
    (hp : ∀ condition ∈ conditions, condition.comparand.IsPrintable) :
    ∃ clauses, (compile strict name (Condition.printAll conditions)).result = .ok ⟨name, clauses⟩ ∧
      List.Forall₂ Condition.CompilesTo conditions clauses := by
  obtain ⟨first, rest, rfl⟩ := List.exists_cons_of_ne_nil hn
  obtain ⟨clauses, hc, hf⟩ := mapM_compileClause_written name hp
  have hcut := Cut.ofText_printAll hp
  have hu : unrecognizedText (Cut.ofText (Condition.printAll (first :: rest))) = [] := by
    refine unrecognizedText_of_blanks fun gap hg => ?_
    have hgap : gap = [] ∨ gap = [' '] := by
      simp only [hcut, Cut.gaps, List.map_cons, List.map_map, List.mem_append, List.mem_cons,
        List.mem_map, Function.comp_apply, List.not_mem_nil, or_false] at hg
      rcases hg with (rfl | ⟨_, -, rfl⟩) | rfl
      · exact .inl rfl
      · exact .inr rfl
      · exact .inl rfl
    rcases hgap with rfl | rfl <;> decide
  have he : clauses.isEmpty = false := by
    cases hf with
    | cons _ _ => rfl
  have hl : lastClauses clauses = clauses :=
    lastClauses_of_nodup (by rw [map_target_of_compilesTo hf]; exact hd)
  have hw : (Cut.ofText (Condition.printAll (first :: rest))).clauses.map (·.2) =
      (first :: rest).map Condition.written := by
    simp [hcut, Function.comp_def]
  refine ⟨clauses, ?_, hf⟩
  simp only [compile, Noted.result_bind, compileClauses_result, hw, hc]
  change (if clauses.isEmpty then _ else _ : Noted RuleFault AttachmentRule).result = _
  rw [he, if_neg Bool.false_ne_true, hu]
  simp only [Noted.result_bind, noteReplaced_result, Noted.debug, Noted.result_note,
    Noted.result_pure, hl]
  rfl

/-- A text and a pattern that hold what looks like clauses, ends of values and quotation marks. -/
theorem compile_printAll_of_nested :
    ∃ clauses, (compile true "R".toList
        "name == \"type != x 'y' =~ /z/i\" ext !~ /a/ib \"c\"/is== d/xi".toList).result =
          .ok ⟨"R".toList, clauses⟩ ∧
      List.Forall₂ Condition.CompilesTo
        [⟨.name, false, .text "type != x 'y' =~ /z/i".toList⟩,
          ⟨.extension, true, .pattern "a/ib \"c\"/is== d".toList "xi".toList⟩] clauses := by
  have hcompiled : (CompiledPattern.ofText (.named "xi".toList)
      "a/ib \"c\"/is== d".toList).toOption.isSome = true := by decide +kernel
  refine @compile_printAll true "R".toList
    [⟨.name, false, .text "type != x 'y' =~ /z/i".toList⟩,
      ⟨.extension, true, .pattern "a/ib \"c\"/is== d".toList "xi".toList⟩]
    (List.cons_ne_nil _ _) (by decide) fun condition hm => ?_
  simp only [List.mem_cons, List.not_mem_nil, or_false] at hm
  rcases hm with rfl | rfl
  · exact ⟨by decide, by decide⟩
  · refine ⟨by decide, by decide +kernel, by decide, ?_⟩
    revert hcompiled
    cases CompiledPattern.ofText (.named "xi".toList) "a/ib \"c\"/is== d".toList with
    | ok compiled => exact fun _ => ⟨compiled, rfl⟩
    | error fault => exact fun h => absurd h (by simp [Except.toOption])

end AttachmentRule
end MailScreen
