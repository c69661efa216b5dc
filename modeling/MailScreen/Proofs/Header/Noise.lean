import MailScreen.Proofs.Header.PassedOver
import MailScreen.Proofs.Header.WrittenHeader

/-!
# Noise in headers

Spacing may stand before and after a primary value, after a semicolon, before the opening quotation
mark of a value and after its closing one. Semicolons may come several at a time, and between two of
them may stand text that is no parameter. **None of it changes what is read**
(`Header.Segment.parseDisposition_noise`): the header is read as the one that holds the same
parameters and nothing else.

Blanks at the end of a header are trimmed before anything is read, and they may belong to the noise.
So what is shown of each stretch of a header is that it is read as its parameters whatever blanks
are cut off its end (`Header.ReadsAs`).
-/
namespace MailScreen.Header

open Ascii OutlookMessage

variable {s t : Text} {pairs : List (Text × Text)}

/-- A text that is read as parameters with given names and values, whatever blanks are cut off its
end. -/
def ReadsAs (t : Text) (pairs : List (Text × Text)) : Prop :=
  ∀ cut blanks, t = cut ++ blanks → (∀ c ∈ blanks, isBlank c = true) →
    writtenPairs (items cut) = pairs

/-- A stretch of a header from a semicolon to where the next one may come. -/
inductive Segment where
  /-- A parameter in quotation marks, with what stands after the semicolon, before the opening
  quotation mark and after the closing one. -/
  | parameter (filler name gap value after : Text)
  /-- Text that is no parameter, with what stands after the semicolon. -/
  | junk (filler text : Text)
  deriving DecidableEq, Repr

namespace Segment

/-- A stretch as it is put down. -/
def text : Segment → Text
  | parameter filler name gap value after =>
    ';' :: (filler ++ (name ++ '=' :: (gap ++ '"' :: (value.flatMap quoteChar ++ '"' :: after))))
  | junk filler text => ';' :: (filler ++ text)

/-- The parameter of a stretch without any noise: a semicolon, a name, an equals sign and a value in
quotation marks. -/
def parameter? : Segment → Option WrittenParameter
  | parameter _ name _ value _ => some ⟨[';'], name, value, true⟩
  | junk _ _ => none

/-- A stretch in which only noise comes besides the parameter. -/
inductive IsProper : Segment → Prop
  | parameter {filler name gap value after : Text} (filler_ok : IsFiller filler)
    (name_ok : IsToken name) (plain : '*' ∉ name) (gap_ok : IsSpacing gap)
    (after_ok : IsSpacing after) : IsProper (.parameter filler name gap value after)
  | junk {filler text : Text} (filler_ok : IsFiller filler) (text_ok : IsPassedOver text) :
    IsProper (.junk filler text)

/-- The parameters of stretches without any noise. -/
def parameters (segments : List Segment) : List WrittenParameter := segments.filterMap parameter?

end Segment

/-! ## Texts with blanks at their ends -/

theorem readsAs_nil : ReadsAs [] [] := by
  intro cut blanks he _
  rw [(List.append_eq_nil_iff.mp he.symm).1, items_nil]
  rfl

/-- A text that reads as parameters, of which only blanks are left, reads as none. -/
theorem ReadsAs.of_blanks (ht : ReadsAs t pairs) (hb : ∀ c ∈ t, isBlank c = true) :
    writtenPairs (items []) = pairs := ht [] t rfl hb

/-- What may stand after a semicolon may stand before any text. -/
theorem ReadsAs.filler (hs : IsFiller s) (ht : ReadsAs t pairs) : ReadsAs (s ++ t) pairs := by
  intro cut blanks he hb
  rcases List.append_eq_append_iff.mp he with ⟨left, rfl, hleft⟩ | ⟨between, hbetween, rfl⟩
  · rw [items_append_filler hs]
    exact ht left blanks hleft hb
  · -- the blanks that are cut off begin among what is skipped, so all of the text is cut off
    rw [List.forall_mem_append] at hb
    have hcut := items_append_filler (hs.of_append_blanks hb.1 hbetween) []
    rw [List.append_nil] at hcut
    rw [hcut]
    exact ht.of_blanks hb.2

/-- What is passed over may stand before the end of an item. -/
theorem ReadsAs.passedOver (hs : IsPassedOver s) (he : EndsItem t) (ht : ReadsAs t pairs) :
    ReadsAs (s ++ t) pairs := by
  intro cut blanks happ hb
  rcases List.append_eq_append_iff.mp happ with ⟨left, rfl, hleft⟩ | ⟨between, hbetween, rfl⟩
  · rw [writtenPairs_passedOver hs (hleft ▸ he).of_append]
    exact ht left blanks hleft hb
  · rw [List.forall_mem_append] at hb
    have hcut := writtenPairs_passedOver (.of_append (hbetween ▸ hs)) endsItem_nil
    rw [List.append_nil] at hcut
    rw [hcut]
    exact ht.of_blanks hb.2

/-- A name, an equals sign and a value in quotation marks are taken as one item, with what stands
before the opening quotation mark. -/
theorem takeItem_quoted {name gap : Text} (hn : IsToken name) (hg : IsSpacing gap)
    (value rest : Text) :
    takeItem (name ++ '=' :: (gap ++ '"' :: (value.flatMap quoteChar ++ '"' :: rest))) =
      (.parameter (Text.lower name) value, some rest) := by
  rw [takeItem, takeName?_append hn]
  dsimp only
  rw [takeValue_dropSpaces, takeValue_of_skipBlanks (skipBlanks_append hg _)]
  exact takeValue_quoted (Text.lower name) value rest

/-- **A parameter in quotation marks is read**, and what comes after it as it stands. -/
theorem ReadsAs.parameter {name gap : Text} (hn : IsToken name) (hg : IsSpacing gap) (value : Text)
    (ht : ReadsAs t pairs) :
    ReadsAs (name ++ '=' :: (gap ++ '"' :: (value.flatMap quoteChar ++ '"' :: t)))
      ((Text.lower name, value) :: pairs) := by
  intro cut blanks he hb
  -- the closing quotation mark is no blank, so it is not cut off
  have hsplit : name ++ '=' :: (gap ++ '"' :: (value.flatMap quoteChar ++ '"' :: t)) =
      (name ++ '=' :: (gap ++ '"' :: value.flatMap quoteChar)) ++ '"' :: t := by simp
  obtain ⟨left, rfl, hleft⟩ := Text.cut_after (by decide) hb (hsplit.symm.trans he)
  have hjoin : (name ++ '=' :: (gap ++ '"' :: value.flatMap quoteChar)) ++ '"' :: left =
      name ++ '=' :: (gap ++ '"' :: (value.flatMap quoteChar ++ '"' :: left)) := by simp
  have hskip : skipSeparators
      (name ++ '=' :: (gap ++ '"' :: (value.flatMap quoteChar ++ '"' :: left))) =
      name ++ '=' :: (gap ++ '"' :: (value.flatMap quoteChar ++ '"' :: left)) := by
    refine skipSeparators_append (t := []) (by simp) fun c hc => ?_
    obtain ⟨h1, h2, h3, -⟩ := head?_token hn _ c hc
    exact ⟨h1, h2, h3⟩
  rw [hjoin, items_of_item hskip (by simp) (takeItem_quoted hn hg value left)]
  exact congrArg _ (ht left blanks hleft hb)

/-! ## Stretches of a header -/

namespace Segment

variable {segments : List Segment}

theorem endsItem_flatMap_text (segments : List Segment) : EndsItem (segments.flatMap text) := by
  cases segments with
  | nil => exact endsItem_nil
  | cons segment rest =>
    cases segment with
    | parameter => exact fun c hc => (Option.some.inj hc).symm
    | junk => exact fun c hc => (Option.some.inj hc).symm

/-- **Stretches of a header are read as their parameters.** -/
theorem readsAs_flatMap_text (hs : ∀ s ∈ segments, s.IsProper) {after : Text}
    (ha : IsSpacing after) :
    ReadsAs (after ++ segments.flatMap text) ((parameters segments).map (·.pair)) := by
  induction segments generalizing after with
  | nil => exact ReadsAs.filler ha.isFiller readsAs_nil
  | cons segment rest ih =>
    rw [List.forall_mem_cons] at hs
    obtain ⟨hsegment, hrest⟩ := hs
    refine ReadsAs.filler ha.isFiller ?_
    cases hsegment with
    | @parameter filler name gap value next hf hn _ hg hnext =>
      have htext : (Segment.parameter filler name gap value next :: rest).flatMap text =
          (';' :: filler) ++ (name ++ '=' :: (gap ++ '"' :: (value.flatMap quoteChar ++
            '"' :: (next ++ rest.flatMap text)))) := by simp [text]
      rw [htext]
      exact ReadsAs.filler (.cons (.inr rfl) hf) (ReadsAs.parameter hn hg value (ih hrest hnext))
    | @junk filler junk hf hj =>
      have htext : (Segment.junk filler junk :: rest).flatMap text =
          (';' :: filler) ++ (junk ++ rest.flatMap text) := by simp [text]
      rw [htext]
      exact ReadsAs.filler (.cons (.inr rfl) hf)
        (ReadsAs.passedOver hj (endsItem_flatMap_text rest) (ih hrest .nil))

/-- What may follow a primary value may follow it without the blanks at its end. -/
theorem endsPrimary_of_cut {after cut blanks : Text} (ha : IsSpacing after)
    (hb : ∀ c ∈ blanks, isBlank c = true)
    (he : after ++ segments.flatMap text = cut ++ blanks) : EndsPrimary cut := by
  have htail := endsItem_flatMap_text segments
  generalize segments.flatMap text = tail at he htail
  have hmark : ∀ {u : Text}, EndsItem u → skipBlanks u = u := fun hu =>
    skipBlanks_of_head fun c hc => by rw [hu c hc]; decide
  constructor
  · intro c hc
    have hm : c ∈ (after ++ tail).head? := by
      rw [he]
      cases cut with
      | nil => cases hc
      | cons d rest => exact hc
    cases ha with
    | nil => rw [htail c hm]; decide
    | cons hd _ => exact Option.some.inj hm ▸ isTokenChar_of_isSpaceOrTab hd
    | comment _ _ => exact Option.some.inj hm ▸ by decide
  · rcases List.append_eq_append_iff.mp he with ⟨left, rfl, hleft⟩ | ⟨between, hbetween, rfl⟩
    · have hends : EndsItem left := (hleft ▸ htail).of_append
      rw [skipBlanks_append ha, hmark hends]
      intro hs
      exact absurd (hends '=' hs) (by decide)
    · rw [List.forall_mem_append] at hb
      rw [skipBlanks_eq_nil (ha.of_append_blanks hb.1 hbetween)]
      simp

theorem isReadable_of_mem_parameters (hs : ∀ s ∈ segments, s.IsProper)
    (hb : NoBreak (segments.flatMap text)) {p : WrittenParameter} (hp : p ∈ parameters segments) :
    p.IsReadable ∧ '*' ∉ p.name ∧ p.quoted = true := by
  obtain ⟨segment, hm, hsome⟩ := List.mem_filterMap.mp hp
  have hproper := hs segment hm
  cases hproper with
  | @parameter filler name gap value after _ hn hplain _ _ =>
    obtain rfl := Option.some.inj hsome
    have hseparator : IsSeparator [';'] := by decide
    refine ⟨⟨hseparator, hn, ?_, fun h => nomatch h⟩, hplain, rfl⟩
    intro c hc
    refine hb c (List.mem_flatMap.mpr ⟨_, hm, ?_⟩)
    have hq : c ∈ value.flatMap quoteChar := by
      refine List.mem_flatMap.mpr ⟨c, hc, ?_⟩
      unfold quoteChar
      split <;> simp
    simp only [text, List.mem_cons, List.mem_append]
    simp [hq]
  | junk _ _ => cases hsome

/-- **Noise changes nothing.** A disposition with spacing around its primary value, and with noise
in and between the stretches that follow, is read as the disposition that has the same parameters
and no noise. -/
theorem parseDisposition_noise {settings : Settings} {lead primary after : Text}
    {segments : List Segment} (hb : NoBreak (lead ++ (primary ++ (after ++ segments.flatMap text))))
    (hl : IsSpacing lead) (hp : IsToken primary) (ha : IsSpacing after)
    (hs : ∀ s ∈ segments, s.IsProper) :
    ∃ params,
      (parseDisposition settings (primary ++ (parameters segments).flatMap (·.text))).result =
        .ok ⟨Text.lower primary, params⟩ ∧
      (parseDisposition settings
          (lead ++ (primary ++ (after ++ segments.flatMap text)))).result =
        .ok ⟨Text.lower primary, params⟩ := by
  have hbody : NoBreak (segments.flatMap text) := fun c hc => hb c (by simp [hc])
  have hr : ∀ p ∈ parameters segments, p.IsReadable ∧ '*' ∉ p.name ∧ p.quoted = true :=
    fun p hp => isReadable_of_mem_parameters hs hbody hp
  -- plain parameters are always read, with or without encoded words in them
  obtain ⟨params, hc⟩ : ∃ params,
      (combine settings ((parameters segments).map (·.pair))).result = .ok params := by
    refine (combine_reads_iff settings _).mpr ⟨_, _, readForms_plain ?_, rfl⟩
    intro entry hm
    obtain ⟨p, hp, rfl⟩ := List.mem_map.mp hm
    exact ⟨lower_ne_nil (hr p hp).1.name, star_notMem_lower (hr p hp).1.name (hr p hp).2.1⟩
  refine ⟨params, ?_, ?_⟩
  · refine WrittenParameter.parseDisposition_flatMap_text (fun p hp => (hr p hp).1) ?_ hc hp
    intro p hp he
    exact absurd ((hr p hp).2.2.symm.trans he.1) (by decide)
  · obtain ⟨left, cut, blanks, hleft, hcut, hblanks, hu⟩ := unfold_spacing hb hl hp
    refine parseDisposition_of_skipBlanks ?_ hp (endsPrimary_of_cut ha hblanks hcut) ?_
    · rw [hu, skipBlanks_append hleft, skipBlanks_token hp]
    · rw [parameters_result, readsAs_flatMap_text hs ha cut blanks hcut hblanks, hc]

/-- Comments with parentheses, quotation marks, semicolons and parameters in them, semicolons that
come twice, and junk with a quotation mark that is not closed. -/
theorem parseDisposition_noise_of_comments :
    ∃ params,
      (parseDisposition {} "Inline;Name=\"v;(1)\";n=\"2\"".toList).result =
        .ok ⟨"inline".toList, params⟩ ∧
      (parseDisposition {} ("(a\\)(b;\")) Inline\t(c);;(x=\"y\") Name=( )\"v;(1)\" (d);q\" foo; " ++
        "=bar; n=\"2\" ").toList).result = .ok ⟨"inline".toList, params⟩ := by
  have hspace : IsSpacing " ".toList := .cons rfl .nil
  have hplain : ∀ c ∈ "b;\"".toList, c ≠ '(' ∧ c ≠ ')' ∧ c ≠ '\\' := by decide
  have hbody : IsCommentBody "a\\)(b;\")".toList :=
    .plain (by decide) (.escaped (.nested (.of_plain hplain) .nil))
  have hlead : IsSpacing "(a\\)(b;\")) ".toList := IsSpread.comment hbody hspace
  have hc : IsCommentBody "c".toList := .of_plain (by decide)
  have hafter : IsSpacing "\t(c)".toList := .cons rfl (IsSpread.comment hc .nil)
  have hx : IsCommentBody "x=\"y\"".toList := .of_plain (by decide)
  have hfiller : IsFiller ";(x=\"y\") ".toList :=
    .cons (.inr rfl) (IsSpread.comment hx hspace.isFiller)
  have hblank : IsCommentBody " ".toList := .of_plain (by decide)
  have hgap : IsSpacing "( )".toList := IsSpread.comment hblank .nil
  have hd : IsCommentBody "d".toList := .of_plain (by decide)
  have hend : IsSpacing " (d)".toList := .cons rfl (IsSpread.comment hd .nil)
  obtain ⟨params, hplain, hnoise⟩ := @parseDisposition_noise {} "(a\\)(b;\")) ".toList
    "Inline".toList "\t(c)".toList
    [.parameter ";(x=\"y\") ".toList "Name".toList "( )".toList "v;(1)".toList " (d)".toList,
      .junk [] "q\" foo".toList, .junk " ".toList "=bar".toList,
      .parameter " ".toList "n".toList [] "2".toList " ".toList]
    (by decide) hlead (by decide) hafter (by
      intro s hs
      simp only [List.mem_cons, List.not_mem_nil, or_false] at hs
      rcases hs with rfl | rfl | rfl | rfl
      · exact .parameter hfiller (by decide) (by decide) hgap hend
      · exact .junk .nil (by decide)
      · exact .junk hspace.isFiller (by decide)
      · exact .parameter hspace.isFiller (by decide) (by decide) .nil hspace)
  have hl : Text.lower "Inline".toList = "inline".toList := by decide +kernel
  rw [hl] at hplain hnoise
  exact ⟨params, hplain, hnoise⟩

end Segment
end MailScreen.Header
