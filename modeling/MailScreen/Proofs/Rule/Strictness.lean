import MailScreen.Proofs.Rule.Delimiters
import MailScreen.Proofs.Text.Join

/-!
# What a strict reader adds

A definition is scanned from left to right for its clauses, and what stands between them is left
over (`Cut.FindsFirst`). Nothing is lost in this: taken by turns, the leftover texts and the clauses
are the definition again (`Text.alternate`).

A strict reader of definitions differs from a lenient one only in what it makes of the leftover
texts. **It refuses what a lenient reader refuses, in the same words, and of what a lenient reader
accepts only that in which something other than blanks is left over**
(`AttachmentRule.refusesOnlyLeftovers`). As strictness is looked at only when all clauses have been
compiled, a definition with several faults has the same one reported by both.
-/
namespace MailScreen

/-- The pieces of two lists by turns, the first list first. -/
def Text.alternate : List Text → List Text → Text
  | gap :: gaps, piece :: pieces => gap ++ piece ++ alternate gaps pieces
  | gaps, [] => gaps.flatten
  | [], pieces => pieces.flatten

namespace WrittenClause

/-- Whether a clause starts between two texts: the first does not end within a word, and a clause
can be read from the second. -/
def StartsBetween (before rest : Text) : Prop :=
  (∀ c ∈ before.getLast?, isWord c = false) ∧ take? rest ≠ none

/-- No clause starts in a text that stands between two others. -/
def NoneStartsIn (before gap rest : Text) : Prop :=
  ∀ s t, gap = s ++ t → t ≠ [] → ¬ StartsBetween (before ++ s) (t ++ rest)

end WrittenClause

namespace Cut

/-- The leftover texts of a definition and the clauses after each are **found from left to right**,
when a text has been passed over: no clause starts in a leftover text, and each clause is the one
that can be read where it starts. -/
inductive FindsFirst : Text → List (Text × WrittenClause) → Text → Prop
  /-- No clause starts in the last leftover text. -/
  | last {before last : Text} (h : WrittenClause.NoneStartsIn before last []) :
    FindsFirst before [] last
  /-- No clause starts before the one that is read, and the others are found after it. -/
  | clause {before gap last : Text} {clause : WrittenClause} {clauses : List (Text × WrittenClause)}
    (hgap : WrittenClause.NoneStartsIn before gap (clause.text ++ text ⟨clauses, last⟩))
    (hstart : ∀ c ∈ (before ++ gap).getLast?, isWord c = false)
    (hread : WrittenClause.take? (clause.text ++ text ⟨clauses, last⟩) =
      some (clause, text ⟨clauses, last⟩))
    (hrest : FindsFirst (before ++ gap ++ clause.text) clauses last) :
    FindsFirst before ((gap, clause) :: clauses) last

/-- The clauses of a cut as they are written. -/
def sources (cut : Cut) : List Text := cut.clauses.map (·.2.text)

/-- The leftover texts in which there is something other than blanks, without the blanks at their
ends, and with a space between them. -/
def leftover (cut : Cut) : Text :=
  List.intercalate [' '] ((cut.gaps.filter fun gap => !Text.isAllBlank gap).map Text.trim)

end Cut

namespace AttachmentRule

/-- **A strict reader refuses only leftovers** besides what a lenient reader refuses. -/
structure RefusesOnlyLeftovers (name definition : Text) : Prop where
  /-- Leftover texts and clauses by turns are the definition. -/
  lossless :
    Text.alternate (Cut.ofText definition).gaps (Cut.ofText definition).sources = definition
  /-- They are found from left to right. -/
  found : Cut.FindsFirst [] (Cut.ofText definition).clauses (Cut.ofText definition).last
  /-- The clauses of a rule are some of those that are found. -/
  fromSources : ∀ strict rule, (compile strict name definition).result = .ok rule →
    (rule.clauses.map (·.source)).Sublist (Cut.ofText definition).sources
  /-- What a lenient reader refuses a strict one refuses for the same reason. -/
  sameFault : ∀ fault, (compile false name definition).result = .error fault →
    (compile true name definition).result = .error fault
  /-- What a lenient reader accepts a strict one accepts, if only blanks are left over. -/
  sameRule : ∀ rule, (compile false name definition).result = .ok rule →
    (∀ gap ∈ (Cut.ofText definition).gaps, Text.isAllBlank gap = true) →
      (compile true name definition).result = .ok rule
  /-- Otherwise it refuses the definition for what is left over. -/
  refused : ∀ rule, (compile false name definition).result = .ok rule →
    (¬ ∀ gap ∈ (Cut.ofText definition).gaps, Text.isAllBlank gap = true) →
      (compile true name definition).result =
        .error (.malformed ⟨.unrecognized, name, some (Cut.ofText definition).leftover⟩)

end AttachmentRule

/-! ## Nothing is lost -/

/-- A cut by turns is its text. -/
theorem Cut.alternate_eq_text (cut : Cut) : Text.alternate cut.gaps cut.sources = cut.text := by
  obtain ⟨clauses, last⟩ := cut
  induction clauses with
  | nil =>
    show [last].flatten = [] ++ last
    rw [List.flatten_singleton, List.nil_append]
  | cons first rest ih =>
    show first.1 ++ first.2.text ++ Text.alternate (gaps ⟨rest, last⟩) (sources ⟨rest, last⟩) = _
    rw [ih]
    simp only [text, List.flatMap_cons, List.append_assoc]

/-! ## Clauses are found where they start -/

namespace WrittenClause

variable {t rest : Text} {clause : WrittenClause}

/-- A key does not start with a blank. -/
theorem isBlank_of_startsKey {c : Char} (h : startsKey c = true) : isBlank c = false := by
  have hlt : c.toNat < 0x80 := by
    simp only [startsKey, Bool.or_eq_true, Bool.and_eq_true, decide_eq_true_eq, beq_iff_eq] at h
    rcases h with (⟨-, hz⟩ | ⟨-, hz⟩) | rfl
    · exact Nat.lt_of_le_of_lt (UInt32.le_iff_toNat_le.mp hz) (by decide)
    · exact Nat.lt_of_le_of_lt (UInt32.le_iff_toNat_le.mp hz) (by decide)
    · decide
  exact Ascii.forall_of_lt (p := fun c => startsKey c = true → isBlank c = false)
    (by decide) hlt h

/-- No clause is read from a blank. -/
theorem take?_of_endsValue (h : endsValue t = true) : take? t = none := by
  cases t with
  | nil => rfl
  | cons c rest =>
    have hk : ¬ startsKey c = true := by
      intro hk
      rw [endsValue, isBlank_of_startsKey hk] at h
      cases h
    rw [take?, if_neg hk]

theorem endsValue_of_takeQuotedBody? {mark : Char} {body : Text}
    (h : takeQuotedBody? mark t = some (body, rest)) : endsValue rest = true := by
  fun_induction takeQuotedBody? mark t generalizing body with
  | case1 => cases h
  | case2 c t hc =>
    obtain ⟨-, rfl⟩ := Prod.mk.inj (Option.some.inj h)
    exact (Bool.and_eq_true_iff.mp hc).2
  | case3 => cases h
  | case4 c t _ _ ih =>
    obtain ⟨⟨b, r⟩, hfound, he⟩ := Option.map_eq_some_iff.mp h
    obtain ⟨-, rfl⟩ := Prod.mk.inj he
    exact ih hfound

theorem endsValue_of_takePattern? {value : WrittenValue}
    (h : takePattern? t = some (value, rest)) : endsValue rest = true := by
  have hafter {opening s : Text} {closing : Char}
      (h : takePatternAfter? opening closing s = some (value, rest)) : endsValue rest = true := by
    obtain ⟨⟨body, letters, left⟩, hfound, he⟩ := Option.map_eq_some_iff.mp h
    obtain ⟨-, rfl⟩ := Prod.mk.inj he
    exact (of_takeBody? hfound).2
  unfold takePattern? at h
  split at h
  · exact hafter h
  · rcases Option.or_eq_some_iff.mp h with h | ⟨-, h⟩
    · obtain ⟨closing, -, h⟩ := Option.bind_eq_some_iff.mp h
      exact hafter h
    · split at h
      · cases h
      · exact hafter h
  · cases h

/-- Where a value ends it may end. -/
theorem endsValue_of_takeValue? {value : WrittenValue}
    (h : takeValue? t = some (value, rest)) : endsValue rest = true := by
  rcases Option.or_eq_some_iff.mp h with h | ⟨-, h⟩
  · exact endsValue_of_takePattern? h
  rcases Option.or_eq_some_iff.mp h with h | ⟨-, h⟩
  · unfold takeQuoted? at h
    split at h
    · cases h
    · split at h
      · obtain ⟨⟨text, left⟩, hfound, he⟩ := Option.map_eq_some_iff.mp h
        obtain ⟨-, rfl⟩ := Prod.mk.inj he
        exact endsValue_of_takeQuotedBody? hfound
      · cases h
  · obtain ⟨-, -, -, -, hend⟩ := of_takeBare? h
    exact hend

theorem endsValue_of_take? (h : take? t = some (clause, rest)) : endsValue rest = true := by
  obtain ⟨s, hvalue, -⟩ := (isRead_of_take? h).takesValue
  exact endsValue_of_takeValue? hvalue

theorem noneStartsIn_nil (before rest : Text) : NoneStartsIn before [] rest := by
  intro s t h ht
  exact absurd (List.append_eq_nil_iff.mp h.symm).2 ht

/-- A character at which no clause starts is left over with those before it. -/
theorem NoneStartsIn.concat {before gap : Text} {c : Char}
    (h : NoneStartsIn before gap (c :: rest)) (hc : ¬ StartsBetween (before ++ gap) (c :: rest)) :
    NoneStartsIn before (gap ++ [c]) rest := by
  intro s t he ht
  rcases List.eq_nil_or_concat t with rfl | ⟨left, d, rfl⟩
  · exact absurd rfl ht
  · rw [List.concat_eq_append] at he ⊢
    rw [← List.append_assoc] at he
    obtain ⟨hgap, hd⟩ := List.append_inj' he rfl
    obtain rfl : c = d := List.cons.inj hd |>.1
    rw [List.append_assoc]
    -- the place is the one before the character, or one that was passed over earlier
    by_cases hleft : left = []
    · rw [hleft, List.append_nil] at hgap
      rw [hleft, ← hgap]
      exact hc
    · exact h s left hgap hleft

end WrittenClause

namespace Cut

open WrittenClause

/-- **Scanning finds the clauses from left to right.** What has been passed over is followed by the
gap that is open. A word may go on only where the last character of the two is in it; after a clause
there is a blank, at which none starts anyway. -/
theorem findsFirst_after {inWord : Bool} {before gap t : Text}
    (hin : inWord = true → ∃ c ∈ (before ++ gap.reverse).getLast?, isWord c = true)
    (hout : inWord = false →
      (∀ c ∈ (before ++ gap.reverse).getLast?, isWord c = false) ∨ endsValue t = true)
    (hgap : NoneStartsIn before gap.reverse t) :
    FindsFirst before (after inWord gap t).clauses (after inWord gap t).last := by
  fun_induction after inWord gap t generalizing before with
  | case1 => exact .last hgap
  | case2 inWord gap c rest clause left h cut =>
    rename_i ih
    have hw : inWord = false := by
      cases inWord with
      | false => rfl
      | true => cases h
    rw [hw] at h
    have htake : take? (c :: rest) = some (clause, left) := h
    have hleft : cut.text = left := text_after false [] left
    have htext : c :: rest = clause.text ++ cut.text := by rw [hleft]; exact take?_append htake
    have hstart : ∀ c ∈ (before ++ gap.reverse).getLast?, isWord c = false := by
      refine (hout hw).resolve_right fun hend => ?_
      rw [take?_of_endsValue hend] at htake
      cases htake
    refine .clause (htext ▸ hgap) hstart ?_ (ih ?_ ?_ ?_)
    · rw [← htext, htake, hleft]
    · intro hfalse
      cases hfalse
    · exact fun _ => .inr (endsValue_of_take? htake)
    · exact noneStartsIn_nil _ _
  | case3 inWord gap c rest h ih =>
    have hlast : (before ++ (c :: gap).reverse).getLast? = some c := by
      rw [List.reverse_cons, ← List.append_assoc, List.getLast?_concat]
    have hnone : ¬ StartsBetween (before ++ gap.reverse) (c :: rest) := by
      rintro ⟨hword, htake⟩
      cases inWord with
      | true =>
        obtain ⟨d, hd, hisWord⟩ := hin rfl
        rw [hword d hd] at hisWord
        cases hisWord
      | false => exact htake h
    refine ih ?_ ?_ ?_
    · exact fun hc => ⟨c, hlast, hc⟩
    · intro hc
      refine .inl fun d hd => ?_
      obtain rfl := Option.some.inj (hlast.symm.trans hd)
      exact hc
    · rw [List.reverse_cons]
      exact hgap.concat hnone

theorem findsFirst_ofText (definition : Text) :
    FindsFirst [] (ofText definition).clauses (ofText definition).last := by
  refine findsFirst_after ?_ ?_ (noneStartsIn_nil _ _)
  · intro h
    cases h
  · exact fun _ => .inl fun _ hc => nomatch hc

end Cut

/-! ## What is left over -/

theorem Cut.leftover_eq_nil_iff (cut : Cut) :
    cut.leftover = [] ↔ ∀ gap ∈ cut.gaps, Text.isAllBlank gap = true := by
  constructor
  · intro h gap hm
    by_contra hn
    have hmem : Text.trim gap ∈ (cut.gaps.filter fun gap => !Text.isAllBlank gap).map Text.trim :=
      List.mem_map_of_mem (List.mem_filter.mpr ⟨hm, by simpa using hn⟩)
    exact hn (Text.trim_eq_nil_iff.mp (Text.eq_nil_of_intercalate_eq_nil h _ hmem))
  · intro h
    have hnone : cut.gaps.filter (fun gap => !Text.isAllBlank gap) = [] := by
      rw [List.filter_eq_nil_iff]
      intro gap hm
      rw [h gap hm]
      exact Bool.false_ne_true
    rw [Cut.leftover, hnone]
    rfl

namespace AttachmentRule

/-- What is found to be unrecognized is what is left over. -/
theorem unrecognizedText_eq_leftover (cut : Cut) : unrecognizedText cut = cut.leftover := by
  have hblank (gap : Text) : (!(Text.trim gap).isEmpty) = !Text.isAllBlank gap := by
    rw [Bool.eq_iff_iff, Bool.not_eq_true', Bool.not_eq_true', ← Bool.not_eq_true,
      ← Bool.not_eq_true, List.isEmpty_iff, Text.trim_eq_nil_iff]
  rw [unrecognizedText, Cut.leftover, List.filter_map]
  exact congrArg (fun gaps => List.intercalate [' '] (gaps.map Text.trim))
    (List.filter_congr fun gap _ => hblank gap)

/-! ## Both readers -/

/-- The clauses of a rule are some of those that are found in its definition. -/
theorem sources_of_compile {strict : Bool} {name definition : Text} {rule : AttachmentRule}
    (h : (compile strict name definition).result = .ok rule) :
    (rule.clauses.map (·.source)).Sublist (Cut.ofText definition).sources := by
  obtain ⟨clauses, hc, -, -, rfl⟩ := compile_eq_ok_iff.mp h
  have hs : clauses.map (·.source) = (Cut.ofText definition).sources := by
    rw [map_source_of_compiled (mapM_eq_ok_iff.mp hc), List.map_map]
    rfl
  rw [← hs]
  exact (lastClauses_sublist clauses).map _

/-- A lenient reader has nothing against what is left over. -/
theorem compile_lenient_eq_ok_iff {name definition : Text} {rule : AttachmentRule} :
    (compile false name definition).result = .ok rule ↔
      ∃ clauses, ((Cut.ofText definition).clauses.map (·.2)).mapM (compileClause name) =
        .ok clauses ∧ clauses ≠ [] ∧ rule = ⟨name, lastClauses clauses⟩ := by
  rw [compile_eq_ok_iff]
  simp

/-- **A strict reader refuses only leftovers** besides what a lenient reader refuses, whatever the
definition is. -/
theorem refusesOnlyLeftovers (name definition : Text) : RefusesOnlyLeftovers name definition := by
  refine ⟨?_, Cut.findsFirst_ofText definition, fun _ _ => sources_of_compile, ?_, ?_, ?_⟩
  · rw [Cut.alternate_eq_text, Cut.text_ofText]
  · intro fault h
    rw [compile_result] at h ⊢
    rcases bind_eq_error_iff.mp h with h | ⟨clauses, hc, h⟩
    · rw [h]
      rfl
    · rw [hc]
      -- with clauses that compile a lenient reader can only find that there are none
      by_cases hn : clauses = []
      · rw [hn] at h ⊢
        exact h
      · rw [if_neg hn, if_neg fun hs => Bool.false_ne_true hs.1] at h
        cases h
  · intro rule h hblank
    obtain ⟨clauses, hc, hn, rfl⟩ := compile_lenient_eq_ok_iff.mp h
    have hnone := (Cut.leftover_eq_nil_iff (Cut.ofText definition)).mpr hblank
    rw [compile_eq_ok_iff]
    exact ⟨clauses, hc, hn, fun _ => by rw [unrecognizedText_eq_leftover, hnone], rfl⟩
  · intro rule h hleft
    obtain ⟨clauses, hc, hn, rfl⟩ := compile_lenient_eq_ok_iff.mp h
    have hsome := mt (Cut.leftover_eq_nil_iff (Cut.ofText definition)).mp hleft
    rw [compile_result, hc, unrecognizedText_eq_leftover]
    show (if clauses = [] then _ else _) = _
    rw [if_neg hn, if_pos ⟨rfl, hsome⟩]
    rfl

/-- Two clauses with words before, between and after them. -/
def clausesAmongWords : Text := " or  name == a\tand then ext == b\tif ".toList

/-- A lenient reader accepts them, and a strict one names the words in one text. -/
theorem refusesOnlyLeftovers_of_words :
    (compile false "R".toList clausesAmongWords).result = .ok ⟨"R".toList,
      [⟨.name, .equal, .literal "a".toList, "name == a".toList⟩,
        ⟨.extension, .equal, .literal "b".toList, "ext == b".toList⟩]⟩ ∧
    (compile true "R".toList clausesAmongWords).result =
      .error (.malformed ⟨.unrecognized, "R".toList, some "or and then if".toList⟩) := by
  have hlenient : (compile false "R".toList clausesAmongWords).result = .ok ⟨"R".toList,
      [⟨.name, .equal, .literal "a".toList, "name == a".toList⟩,
        ⟨.extension, .equal, .literal "b".toList, "ext == b".toList⟩]⟩ := by
    decide +kernel
  have hleft : (Cut.ofText clausesAmongWords).leftover = "or and then if".toList := by
    decide +kernel
  have hstrict := (refusesOnlyLeftovers "R".toList clausesAmongWords).refused _ hlenient
    (by decide +kernel)
  rw [hleft] at hstrict
  exact ⟨hlenient, hstrict⟩

end AttachmentRule
end MailScreen
