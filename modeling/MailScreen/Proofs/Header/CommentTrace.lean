import MailScreen.Proofs.Header.ParameterNames
import MailScreen.Proofs.Header.TrailingComment

/-!
# Comments that leave no trace

Everywhere else in a header comments are skipped, but after a value without quotation marks they are
taken with the value, as far as it goes on, and then one comment is cut off its end. So **comments
after such a value leave no trace exactly if what the value takes of them is one comment without
parentheses in it, and what it leaves is passed over** (`Header.leavesNoTrace_iff`). Of two comments
the first stays in the value. So does one with parentheses in it, though they may be nested or have
backslashes before them. What comes after a semicolon in a comment is read as if the comment had
ended there.

A trace is a value or another parameter that is not what it is without the comments. Notes of what
is passed over are none. They tell of comments that are left in part, as one is in which a backslash
stands before a closing parenthesis; if nothing is noted, there is one comment, and the value goes
on to its end.
-/
namespace MailScreen.Header

open Ascii

/-- What stands in a header around a bare value and the comments after it: the value is that of a
parameter, and more parameters in quotation marks may follow. -/
structure Surroundings where
  /-- The primary value of the header. -/
  primary : Text
  /-- What separates the parameter from it. -/
  separator : Text
  /-- The name of the parameter. -/
  name : Text
  /-- The parameters that follow. -/
  after : List QuotedParameter
  deriving DecidableEq, Repr

namespace Surroundings

/-- A header that begins with a primary value and goes on with plain parameters. -/
structure IsProper (around : Surroundings) : Prop where
  primary : IsToken around.primary
  separator : IsSeparator around.separator
  name : IsToken around.name
  plain : '*' ∉ around.name
  after : ∀ p ∈ around.after, p.IsProper
  ends : EndsItem (around.after.flatMap (·.text))

/-- What comes after the primary value. -/
def parameterText (around : Surroundings) (value : Text) (comments : List TrailingComment) : Text :=
  around.separator ++ (around.name ++ '=' ::
    (value ++ (comments.flatMap (·.text) ++ around.after.flatMap (·.text))))

/-- The header with a value and comments put down in it. -/
def text (around : Surroundings) (value : Text) (comments : List TrailingComment) : Text :=
  around.primary ++ around.parameterText value comments

/-- The parameters that the header is to be read as. -/
def pairs (around : Surroundings) (value : Text) : List (Text × Text) :=
  (Text.lower around.name, value) :: around.after.map (·.pair)

end Surroundings

/-- **Comments leave no trace after a value**: in whatever header they stand, it is read as its
primary value, the value under its name, and the parameters that follow. -/
def LeavesNoTrace (value : Text) (comments : List TrailingComment) : Prop :=
  ∀ (settings : Settings) (around : Surroundings),
    settings.decodeEncodedWords = false → around.IsProper →
    ∃ params : Table Text, params.IsLastOf (around.pairs value) ∧
      (parseDisposition settings (around.text value comments)).result =
        .ok ⟨Text.lower around.primary, params⟩

/-- **Comments go unnoticed after a value**: in whatever header they stand, nothing is noted of
it. -/
def GoesUnnoticed (value : Text) (comments : List TrailingComment) : Prop :=
  ∀ (settings : Settings) (around : Surroundings),
    settings.decodeEncodedWords = false → around.IsProper →
    (parseDisposition settings (around.text value comments)).log = []

/-- An item of which nothing but a note comes: text that is no parameter, or a parameter with a
malformed name. A quotation that is not closed is none, as it takes what follows with it. -/
def Item.IsIdle : Item → Prop
  | .parameter name _ => splitName? name = none
  | .malformed _ => True
  | .unterminated _ => False

instance (item : Item) : Decidable item.IsIdle :=
  match item with
  | .parameter name _ => inferInstanceAs (Decidable (splitName? name = none))
  | .malformed _ => inferInstanceAs (Decidable True)
  | .unterminated _ => inferInstanceAs (Decidable False)

variable {t value : Text} {comments : List TrailingComment}

/-! ## Reading -/

/-- Nothing is noted of items exactly if all of them are parameters. -/
theorem forM_noteItem_eq_pure_iff {found : List Item} :
    found.forM noteItem = pure () ↔ ∀ item ∈ found, ∃ name value, item = .parameter name value := by
  induction found with
  | nil => exact ⟨fun _ => by simp, fun _ => rfl⟩
  | cons item rest ih =>
    rw [List.forall_mem_cons, ← ih]
    have hitem : noteItem item = pure () ↔ ∃ name value, item = .parameter name value := by
      cases item with
      | parameter name value => exact ⟨fun _ => ⟨name, value, rfl⟩, fun _ => rfl⟩
      | malformed text =>
        exact ⟨fun h => absurd (congrArg Noted.log h) (by simp [noteItem, Noted.debug, Noted.note]),
          fun ⟨_, _, h⟩ => (nomatch h)⟩
      | unterminated name =>
        exact ⟨fun h => absurd (congrArg Noted.log h) (by simp [noteItem, Noted.debug, Noted.note]),
          fun ⟨_, _, h⟩ => (nomatch h)⟩
    rw [← hitem]
    exact Noted.bind_eq_pure_iff.trans
      ⟨fun ⟨_, h, hrest⟩ => ⟨h, hrest⟩, fun ⟨h, hrest⟩ => ⟨(), h, hrest⟩⟩

variable {settings : Settings} {params : Table Text}

/-- Parameters are read with nothing noted exactly if there is nothing else among the items and
nothing is noted of what they come to. -/
theorem parameters_eq_pure_iff :
    parameters settings t = pure params ↔
      (∀ item ∈ items t, ∃ name value, item = .parameter name value) ∧
        combine settings (writtenPairs (items t)) = pure params := by
  rw [← forM_noteItem_eq_pure_iff]
  exact Noted.bind_eq_pure_iff.trans
    ⟨fun ⟨_, h, hrest⟩ => ⟨h, hrest⟩, fun ⟨h, hrest⟩ => ⟨(), h, hrest⟩⟩

namespace Surroundings.IsProper

variable {around : Surroundings}

/-- A header with comments after a bare value is read as what follows its primary value. -/
theorem parseDisposition_eq (ha : around.IsProper) (hv : IsWord value)
    (hc : ∀ c ∈ comments, c.IsProper) :
    parseDisposition settings (around.text value comments) =
      parameters settings (around.parameterText value comments) >>= fun params =>
        pure ⟨Text.lower around.primary, params⟩ := by
  refine parseDisposition_parameter ha.primary ha.separator ha.name ?_ ?_
  · exact (NoBreak.of_noBlank hv.noBlank).append
      ((TrailingComment.noBreak_flatMap_text hc).append
        (QuotedParameter.noBreak_flatMap_text ha.after))
  · exact Text.forall_getLast?_append (fun c hc => hv.noBlank c (List.mem_of_getLast? hc))
      (Text.forall_getLast?_append (TrailingComment.getLast?_flatMap_text comments)
        (QuotedParameter.getLast?_flatMap_text around.after))

/-- The first item is the value as far as it goes on, with a comment cut off its end. -/
theorem items_eq (ha : around.IsProper) (hv : IsWord value) (comments : List TrailingComment) :
    items (around.parameterText value comments) =
      .parameter (Text.lower around.name)
        (dropTrailingComment (value ++ (takeBare (comments.flatMap (·.text))).1)) ::
          items ((takeBare (comments.flatMap (·.text))).2 ++ around.after.flatMap (·.text)) := by
  rw [parameterText, hv.items_eq ha.separator ha.name, takeBare_append_of_endsItem _ ha.ends]

theorem plain_of_mem_pairs (ha : around.IsProper) (value : Text) :
    ∀ entry ∈ around.pairs value, entry.1 ≠ [] ∧ '*' ∉ entry.1 :=
  List.forall_mem_cons.mpr ⟨⟨lower_ne_nil ha.name, star_notMem_lower ha.name ha.plain⟩,
    QuotedParameter.plain_of_mem_map_pair ha.after⟩

end Surroundings.IsProper

/-! ## Comments that leave no trace -/

theorem parameter_mem_of_mem_writtenPairs {found : List Item} {entry : Text × Text}
    (h : entry ∈ writtenPairs found) : .parameter entry.1 entry.2 ∈ found := by
  obtain ⟨item, hm, hi⟩ := List.mem_filterMap.mp h
  cases item with
  | parameter name value =>
    obtain rfl := Option.some.inj hi
    exact hm
  | malformed => cases hi
  | unterminated => cases hi

/-- Plain parameters are read as they are if idle items stand among them. -/
theorem result_combine_of_isIdle {found : List Item} (before after : List (Text × Text))
    (hd : settings.decodeEncodedWords = false) (h : ∀ item ∈ found, item.IsIdle)
    (hplain : ∀ entry ∈ before ++ after, entry.1 ≠ [] ∧ '*' ∉ entry.1) :
    (combine settings (before ++ (writtenPairs found ++ after))).result =
      .ok (.ofList (before ++ after)) := by
  have hkept : ∀ entry ∈ before ++ after, (splitName? entry.1).isSome = true := fun entry hm => by
    rw [splitName?_plain (hplain entry hm).1 (hplain entry hm).2]
    rfl
  have hdropped : ∀ entry ∈ writtenPairs found, ¬ (splitName? entry.1).isSome = true :=
    fun entry hm => by
      rw [h _ (parameter_mem_of_mem_writtenPairs hm)]
      decide
  have hfilter : (before ++ (writtenPairs found ++ after)).filter
      (fun entry => (splitName? entry.1).isSome) = before ++ after := by
    rw [List.filter_append, List.filter_append, List.filter_eq_nil_iff.mpr hdropped,
      List.nil_append, ← List.filter_append, List.filter_eq_self.mpr hkept]
  rw [← result_combine_filter, hfilter]
  exact congrArg Noted.result (combine_eq_of_plain hd hplain)

/-- What a bare value leaves of comments closes the comment that it ends in, if it ends in one. -/
theorem exists_closesSpacing_takeBare (hc : ∀ c ∈ comments, c.IsProper) :
    ∃ depth, ClosesSpacing depth (takeBare (comments.flatMap (·.text))).2 :=
  (show ClosesSpacing 0 _ from TrailingComment.isSpacing_flatMap_text hc).of_takeBare

/-- Comments leave no trace if the value is read in front of them and what is left of them is
idle. -/
theorem leavesNoTrace_of_isIdle (hv : IsWord value) (hc : ∀ c ∈ comments, c.IsProper)
    (hvalue : dropTrailingComment (value ++ (takeBare (comments.flatMap (·.text))).1) = value)
    (hidle : ∀ item ∈ items (takeBare (comments.flatMap (·.text))).2, item.IsIdle) :
    LeavesNoTrace value comments := by
  intro settings around hd ha
  obtain ⟨depth, hleft⟩ := exists_closesSpacing_takeBare hc
  have hitems := items_append hleft (fun name hm => hidle _ hm) ha.ends
  refine ⟨_, Table.isLastOf_ofList _, ?_⟩
  have hpairs : writtenPairs (items (around.parameterText value comments)) =
      [(Text.lower around.name, value)] ++
        (writtenPairs (items (takeBare (comments.flatMap (·.text))).2) ++
          around.after.map (·.pair)) := by
    rw [ha.items_eq hv, hvalue, hitems, ← QuotedParameter.writtenPairs_flatMap_text ha.after,
      writtenPairs, writtenPairs, writtenPairs, ← List.filterMap_append]
    rfl
  have hcombine := result_combine_of_isIdle [(Text.lower around.name, value)] _ hd hidle
    (ha.plain_of_mem_pairs value)
  rw [ha.parseDisposition_eq hv hc, Noted.result_bind, parameters_result, hpairs, hcombine]
  rfl

/-- What comments that leave no trace are read as: the value under its name, the parameters that
follow, and nothing else. -/
theorem LeavesNoTrace.exists_combine (h : LeavesNoTrace value comments) (hv : IsWord value)
    (hc : ∀ c ∈ comments, c.IsProper) {around : Surroundings} (ha : around.IsProper) :
    ∃ params : Table Text, params.IsLastOf (around.pairs value) ∧
      (combine { decodeEncodedWords := false }
        (writtenPairs (items (around.parameterText value comments)))).result = .ok params := by
  obtain ⟨params, hlast, hread⟩ := h { decodeEncodedWords := false } around rfl ha
  rw [ha.parseDisposition_eq hv hc, Noted.result_bind, parameters_result] at hread
  obtain ⟨other, hcombine, hother⟩ := bind_eq_ok_iff.mp hread
  obtain rfl := (StructuredHeader.mk.inj (Except.ok.inj hother)).2
  exact ⟨other, hlast, hcombine⟩

/-- Each well-formed name that is found is that of the value or of a parameter that follows, and
all of these are found. -/
theorem LeavesNoTrace.mem_names_iff (h : LeavesNoTrace value comments) (hv : IsWord value)
    (hc : ∀ c ∈ comments, c.IsProper) {around : Surroundings} (ha : around.IsProper)
    (base : Text) :
    base ∈ Table.names (around.pairs value) ↔
      ∃ name form other, splitName? name = some (base, form) ∧
        (name, other) ∈ writtenPairs (items (around.parameterText value comments)) := by
  obtain ⟨params, hlast, hcombine⟩ := h.exists_combine hv hc ha
  rw [← hlast.mem_names_iff, mem_names_of_combine rfl hcombine]
  simp only [splitName?_eq_some_iff]

/-- A header with a plain parameter of any name, and what follows it. -/
def Surroundings.named (name : Text) (after : List QuotedParameter) : Surroundings :=
  ⟨"a".toList, "; ".toList, name, after⟩

theorem Surroundings.isProper_named {name : Text} {after : List QuotedParameter}
    (hn : IsToken name) (hs : '*' ∉ name) (ha : ∀ p ∈ after, p.IsProper)
    (he : EndsItem (after.flatMap (·.text))) : (named name after).IsProper :=
  ⟨show IsToken "a".toList by decide, isSeparator_semicolon, hn, hs, ha, he⟩

theorem Surroundings.isProper_alone {name : Text} (hn : IsToken name) (hs : '*' ∉ name) :
    (named name []).IsProper :=
  isProper_named hn hs (List.forall_mem_nil _) endsItem_nil

theorem Surroundings.items_alone {name : Text} (hn : IsToken name) (hs : '*' ∉ name)
    (hv : IsWord value) (comments : List TrailingComment) :
    items ((named name []).parameterText value comments) =
      .parameter (Text.lower name)
        (dropTrailingComment (value ++ (takeBare (comments.flatMap (·.text))).1)) ::
          items (takeBare (comments.flatMap (·.text))).2 := by
  have hafter : (named name []).after.flatMap (·.text) = [] := rfl
  rw [(isProper_alone hn hs).items_eq hv, hafter, List.append_nil]
  rfl

/-- Comments that leave no trace leave no well-formed names. A parameter with one would be there
whatever the name of the value is, and so have that name, which is any. -/
theorem LeavesNoTrace.splitName?_eq_none (h : LeavesNoTrace value comments) (hv : IsWord value)
    (hc : ∀ c ∈ comments, c.IsProper) {name other : Text}
    (hm : .parameter name other ∈ items (takeBare (comments.flatMap (·.text))).2) :
    splitName? name = none := by
  by_contra hne
  obtain ⟨⟨base, form⟩, hs⟩ := Option.ne_none_iff_exists'.mp hne
  -- what is left of the comments does not depend on the name of the value
  have hbase : ∀ own, IsToken own → '*' ∉ own → base = Text.lower own := by
    intro own hn hplain
    have hpair : (name, other) ∈ writtenPairs (items
        ((Surroundings.named own []).parameterText value comments)) := by
      rw [Surroundings.items_alone hn hplain hv]
      exact List.mem_filterMap.mpr ⟨.parameter name other, List.mem_cons_of_mem _ hm, rfl⟩
    exact List.mem_singleton.mp ((h.mem_names_iff hv hc (Surroundings.isProper_alone hn hplain)
      base).mpr ⟨name, form, other, hs, hpair⟩)
  have ha := hbase "a".toList (by decide) (by decide)
  have hb := hbase "b".toList (by decide) (by decide)
  exact absurd (ha.symm.trans hb) (by decide +kernel)

/-- A quotation that comments leave open takes the name of the next parameter with it. That one is
found all the same, so its name is the one of the parameter with the quotation. -/
theorem LeavesNoTrace.splitName?_of_unterminated (h : LeavesNoTrace value comments)
    (hv : IsWord value) (hc : ∀ c ∈ comments, c.IsProper) {name next : Text}
    (hm : .unterminated name ∈ items (takeBare (comments.flatMap (·.text))).2)
    (hn : IsToken next) (hs : '*' ∉ next) (hne : Text.lower next ≠ "a".toList) :
    ∃ form, splitName? name = some (Text.lower next, form) := by
  have hnext : (QuotedParameter.mk ";".toList next [] []).IsProper :=
    ⟨show IsSeparator ";".toList by decide, hn, hs, .nil, show NoBreak [] by decide⟩
  have ha : (Surroundings.named "a".toList [⟨";".toList, next, [], []⟩]).IsProper :=
    Surroundings.isProper_named (by decide) (by decide) (List.forall_mem_singleton.mpr hnext)
      fun c hc => (Option.some.inj hc).symm
  have hlower : Text.lower "a".toList = "a".toList := by decide +kernel
  obtain ⟨depth, hleft⟩ := exists_closesSpacing_takeBare hc
  have hplain : ∀ c ∈ next ++ ['='], c ≠ '"' ∧ c ≠ '\\' :=
    List.forall_mem_append.mpr ⟨hn.forall_mem (by decide), by decide⟩
  obtain ⟨found, taken, hfound, hitems⟩ := items_append_of_unterminated hleft hm hplain ['"']
  obtain ⟨other, form, written, hother, hpair⟩ :=
    (h.mem_names_iff hv hc ha (Text.lower next)).mp
      (List.mem_cons_of_mem _ (List.mem_singleton_self _))
  have hafter : (Surroundings.named "a".toList [⟨";".toList, next, [], []⟩]).after.flatMap
      (·.text) = ';' :: ((next ++ ['=']) ++ '"' :: ['"']) := by
    simp [Surroundings.named, QuotedParameter.text]
  rw [ha.items_eq hv, hafter, hitems] at hpair
  -- it is not the name of the value, and no name of what is found before the quotation or after it
  rcases List.mem_cons.mp (parameter_mem_of_mem_writtenPairs hpair) with he | hpair
  · obtain rfl : other = "a".toList := (Item.parameter.inj he).1.trans hlower
    rw [splitName?_plain (by simp) (by decide)] at hother
    exact absurd (Prod.mk.inj (Option.some.inj hother)).1.symm hne
  rcases List.mem_append.mp hpair with hpair | hpair
  · rw [h.splitName?_eq_none hv hc (hfound _ hpair)] at hother
    cases hother
  rcases List.mem_cons.mp hpair with he | hpair
  · exact ⟨form, (Item.parameter.inj he).1 ▸ hother⟩
  · have hmark := writtenPairs_passedOver (t := ['"']) (by decide) endsItem_nil
    rw [List.append_nil, items_nil] at hmark
    have hm : (other, written) ∈ writtenPairs (items ['"']) :=
      List.mem_filterMap.mpr ⟨_, hpair, rfl⟩
    rw [hmark] at hm
    cases hm

/-- **What comments leave that leave no trace is idle.** -/
theorem LeavesNoTrace.isIdle (h : LeavesNoTrace value comments) (hv : IsWord value)
    (hc : ∀ c ∈ comments, c.IsProper) :
    ∀ item ∈ items (takeBare (comments.flatMap (·.text))).2, item.IsIdle := by
  intro item hm
  cases item with
  | parameter name other => exact h.splitName?_eq_none hv hc hm
  | malformed => trivial
  | unterminated name =>
    -- the parameter with the quotation would have two names
    obtain ⟨_, hb⟩ := h.splitName?_of_unterminated hv hc hm (show IsToken "b".toList by decide)
      (by decide) (by decide +kernel)
    obtain ⟨_, hd⟩ := h.splitName?_of_unterminated hv hc hm (show IsToken "d".toList by decide)
      (by decide) (by decide +kernel)
    have hsame := (Prod.mk.inj (Option.some.inj (hb.symm.trans hd))).1
    exact absurd hsame (by decide +kernel)

/-- Comments that leave no trace are cut off the value as far as they are taken with it. -/
theorem LeavesNoTrace.dropTrailingComment_eq (h : LeavesNoTrace value comments) (hv : IsWord value)
    (hc : ∀ c ∈ comments, c.IsProper) :
    dropTrailingComment (value ++ (takeBare (comments.flatMap (·.text))).1) = value := by
  have ha := Surroundings.isProper_alone (show IsToken "a".toList by decide) (by decide)
  obtain ⟨params, hlast, hcombine⟩ := h.exists_combine hv hc ha
  have hname := List.forall_mem_cons.mp (ha.plain_of_mem_pairs value)
  -- nothing else has a well-formed name, so the table holds what is read of the value
  have hpairs : writtenPairs (items ((Surroundings.named "a".toList []).parameterText value
      comments)) = [(Text.lower "a".toList,
        dropTrailingComment (value ++ (takeBare (comments.flatMap (·.text))).1))] ++
          (writtenPairs (items (takeBare (comments.flatMap (·.text))).2) ++ []) := by
    rw [Surroundings.items_alone (by decide) (by decide) hv, List.append_nil]
    rfl
  have hread := result_combine_of_isIdle [(Text.lower "a".toList,
    dropTrailingComment (value ++ (takeBare (comments.flatMap (·.text))).1))] []
    (show ({ decodeEncodedWords := false } : Settings).decodeEncodedWords = false from rfl)
    (h.isIdle hv hc) (List.forall_mem_singleton.mpr hname.1)
  rw [← hpairs, hcombine] at hread
  obtain rfl := Except.ok.inj hread
  have hfound := hlast.find?_eq (Text.lower "a".toList)
  simpa [Table.find?, Table.ofList, Table.insertAll, Table.insert, Surroundings.pairs,
    Surroundings.named] using hfound

/-- Where nothing is noted, what is left of comments that leave no trace is nothing. -/
theorem LeavesNoTrace.items_eq_nil (h : LeavesNoTrace value comments)
    (hg : GoesUnnoticed value comments) (hv : IsWord value) (hc : ∀ c ∈ comments, c.IsProper) :
    items (takeBare (comments.flatMap (·.text))).2 = [] := by
  have ha := Surroundings.isProper_alone (show IsToken "a".toList by decide) (by decide)
  obtain ⟨params, -, hread⟩ := h { decodeEncodedWords := false } _ rfl ha
  have hpure := Noted.eq_pure_iff.mpr ⟨hg { decodeEncodedWords := false } _ rfl ha, hread⟩
  rw [ha.parseDisposition_eq hv hc] at hpure
  obtain ⟨other, hparameters, -⟩ := Noted.bind_eq_pure_iff.mp hpure
  obtain ⟨hitems, hcombine⟩ := parameters_eq_pure_iff.mp hparameters
  rw [Surroundings.items_alone (by decide) (by decide) hv] at hitems hcombine
  rw [List.eq_nil_iff_forall_not_mem]
  intro item hm
  obtain ⟨name, written, rfl⟩ := hitems item (List.mem_cons_of_mem _ hm)
  have hpair : (name, written) ∈ writtenPairs (items (takeBare (comments.flatMap (·.text))).2) :=
    List.mem_filterMap.mpr ⟨_, hm, rfl⟩
  exact splitName?_ne_none_of_combine hcombine _ (List.mem_cons_of_mem _ hpair)
    (h.isIdle hv hc _ hm)

/-- What comments that leave no trace come to: the value takes one comment of them that is cut off,
and what is left is idle. -/
theorem leavesNoTrace_iff_isIdle (hv : IsWord value) (hne : comments ≠ [])
    (hc : ∀ c ∈ comments, c.IsProper) :
    LeavesNoTrace value comments ↔
      ∃ (cut : TrailingComment) (left : Text),
        takeBare (comments.flatMap (·.text)) = (cut.text, left) ∧ cut.IsCutOff ∧
          ∀ item ∈ items left, item.IsIdle := by
  constructor
  · intro h
    have hdrop := h.dropTrailingComment_eq hv hc
    rcases dropTrailingComment_cases (value ++ (takeBare (comments.flatMap (·.text))).1) with
      hkept | ⟨cut, hcut, hproper⟩
    · -- nothing is taken, so what is left is spacing, and that would be taken
      rw [hdrop] at hkept
      have hall := takeBare_append_left (comments.flatMap (·.text))
      rw [List.self_eq_append_right.mp hkept, List.nil_append] at hall
      have hnil := takeBare_eq_nil_of_isSpacing (TrailingComment.getLast?_flatMap_text comments)
        (by rw [hall]; exact TrailingComment.isSpacing_flatMap_text hc)
      rw [hall] at hnil
      obtain ⟨comment, rest, rfl⟩ := List.exists_cons_of_ne_nil hne
      exact absurd (List.append_eq_nil_iff.mp hnil).1 comment.text_ne_nil
    · rw [hdrop] at hcut
      exact ⟨cut, _, Prod.ext (List.append_cancel_left hcut) rfl, hproper, h.isIdle hv hc⟩
  · rintro ⟨cut, left, htake, hcut, hidle⟩
    refine leavesNoTrace_of_isIdle hv hc ?_ ?_
    · rw [htake]
      exact dropTrailingComment_append hv.isBareChar hcut
    · rwa [htake]

/-- A single comment without parentheses in it, to the end of which the value goes on, leaves no
trace, and nothing is noted. -/
theorem leavesNoTrace_of_isRun {comment : TrailingComment} (hv : IsWord value)
    (hc : comment.IsProper) (hopen : '(' ∉ comment.body) (hclose : ')' ∉ comment.body)
    (hr : IsRun comment.text) :
    LeavesNoTrace value [comment] ∧ GoesUnnoticed value [comment] := by
  have hcut : comment.IsCutOff := ⟨hc.ne_nil, hc.blanks, hopen, hclose⟩
  have hproper : ∀ c ∈ [comment], c.IsProper := List.forall_mem_singleton.mpr hc
  have htake : takeBare ([comment].flatMap (·.text)) = (comment.text, []) := by
    have hall := (takeBare_eq_iff endsItem_nil).mpr hr
    rw [List.append_nil] at hall
    rwa [List.flatMap_singleton]
  refine ⟨(leavesNoTrace_iff_isIdle hv (List.cons_ne_nil _ _) hproper).mpr
    ⟨comment, [], htake, hcut, by simp [items_nil]⟩, fun settings around hd ha => ?_⟩
  have hitems : items (around.parameterText value [comment]) =
      .parameter (Text.lower around.name) value :: items (around.after.flatMap (·.text)) := by
    rw [ha.items_eq hv, htake, dropTrailingComment_append hv.isBareChar hcut, List.nil_append]
  have hparameters : parameters settings (around.parameterText value [comment]) =
      pure (.ofList (around.pairs value)) := by
    refine parameters_eq_pure_iff.mpr ⟨?_, ?_⟩
    · rw [hitems, QuotedParameter.items_flatMap_text ha.after]
      simp
    · rw [hitems, show writtenPairs _ = (Text.lower around.name, value) ::
        writtenPairs (items (around.after.flatMap (·.text))) from rfl,
        QuotedParameter.writtenPairs_flatMap_text ha.after]
      exact combine_eq_of_plain hd (ha.plain_of_mem_pairs value)
  rw [ha.parseDisposition_eq hv hproper, hparameters]
  rfl

/-- **Which comments leave no trace.** After a value of one word comments leave no trace exactly if
the value takes one comment of them, without parentheses in it, and what is left is idle. Nothing is
noted besides exactly if this one comment is the only one, and the value goes on to its end: it has
no semicolon in it and no blanks but spaces and tabs, and after none of these the name of a
parameter. Where no backslashes are in the comments, the first comes to the second. -/
theorem leavesNoTrace_iff (hv : IsWord value) (hne : comments ≠ [])
    (hc : ∀ c ∈ comments, c.IsProper) :
    (LeavesNoTrace value comments ↔
      ∃ (cut : TrailingComment) (left : Text),
        takeBare (comments.flatMap (·.text)) = (cut.text, left) ∧ cut.IsCutOff ∧
          ∀ item ∈ items left, item.IsIdle) ∧
    (LeavesNoTrace value comments ∧ GoesUnnoticed value comments ↔
      ∃ comment, comments = [comment] ∧ '(' ∉ comment.body ∧ ')' ∉ comment.body ∧
        IsRun comment.text) ∧
    ((∀ c ∈ comments, '\\' ∉ c.body) → LeavesNoTrace value comments →
      GoesUnnoticed value comments) := by
  refine ⟨leavesNoTrace_iff_isIdle hv hne hc, ⟨?_, ?_⟩, fun hescape h => ?_⟩
  · rintro ⟨h, hg⟩
    obtain ⟨cut, left, htake, hcut, -⟩ := (leavesNoTrace_iff_isIdle hv hne hc).mp h
    obtain ⟨depth, hleft⟩ := exists_closesSpacing_takeBare hc
    have hspacing := hleft.isSpacing_of_items (h.items_eq_nil hg hv hc)
    exact exists_single hne hc hcut htake (by rwa [htake] at hspacing)
  · rintro ⟨comment, rfl, hopen, hclose, hr⟩
    exact leavesNoTrace_of_isRun hv (List.forall_mem_singleton.mp hc) hopen hclose hr
  · obtain ⟨cut, left, htake, hcut, -⟩ := (leavesNoTrace_iff_isIdle hv hne hc).mp h
    obtain ⟨comment, rfl, hopen, hclose, hr⟩ :=
      exists_single hne hc hcut htake (isSpacing_of_noEscape hc hescape hcut htake)
    exact (leavesNoTrace_of_isRun hv (List.forall_mem_singleton.mp hc) hopen hclose hr).2

/-- A comment with a backslash and a quotation mark in it leaves no trace and goes unnoticed. One
that is cut at an escaped parenthesis leaves none either, and two comments leave one. -/
theorem leavesNoTrace_iff_of_marks :
    (LeavesNoTrace "a=b.exe".toList [⟨" \t".toList, "x \\y \"z".toList⟩] ∧
      GoesUnnoticed "a=b.exe".toList [⟨" \t".toList, "x \\y \"z".toList⟩]) ∧
      LeavesNoTrace "a.exe".toList [⟨" ".toList, "x\\);y".toList⟩] ∧
      ¬ LeavesNoTrace "a.exe".toList [⟨" ".toList, "x".toList⟩, ⟨" ".toList, "y".toList⟩] := by
  have hmarks : IsCommentBody "x \\y \"z".toList :=
    .plain (by decide) (.plain (by decide) (.escaped (.of_plain (by decide))))
  have hescape : IsCommentBody "x\\);y".toList :=
    .plain (by decide) (.escaped (.of_plain (by decide)))
  have hx : IsCommentBody "x".toList := .of_plain (by decide)
  have hy : IsCommentBody "y".toList := .of_plain (by decide)
  refine ⟨?_, ?_, fun h => ?_⟩
  · refine (leavesNoTrace_iff (by decide) (List.cons_ne_nil _ _) ?_).2.1.mpr
      ⟨_, rfl, by decide, by decide, by decide⟩
    exact List.forall_mem_singleton.mpr ⟨by decide, by decide, hmarks, by decide⟩
  · refine (leavesNoTrace_iff (by decide) (List.cons_ne_nil _ _) ?_).1.mpr
      ⟨⟨" ".toList, "x\\".toList⟩, ";y)".toList, by decide, ⟨by decide, by decide, by decide,
        by decide⟩, by decide +kernel⟩
    exact List.forall_mem_singleton.mpr ⟨by decide, by decide, hescape, by decide⟩
  · obtain ⟨-, hunnoticed, hplain⟩ := leavesNoTrace_iff (show IsWord "a.exe".toList by decide)
      (List.cons_ne_nil (TrailingComment.mk " ".toList "x".toList) [⟨" ".toList, "y".toList⟩])
      (List.forall_mem_cons.mpr ⟨⟨by decide, by decide, hx, by decide⟩,
        List.forall_mem_singleton.mpr ⟨by decide, by decide, hy, by decide⟩⟩)
    obtain ⟨comment, hc, -⟩ := hunnoticed.mp ⟨h, hplain (by decide) h⟩
    cases hc

/-- The first of two comments stays in the value, and the extension of the file is another. -/
theorem parseDisposition_of_twoComments :
    IsWord "a.exe".toList ∧
      (∀ c ∈ [TrailingComment.mk " ".toList "b".toList, ⟨" ".toList, "c".toList⟩], c.IsProper) ∧
      (parseDisposition { decodeEncodedWords := false }
        "attachment; filename=a.exe (b) (c)".toList).result =
          .ok ⟨"attachment".toList, [("filename".toList, "a.exe (b)".toList)]⟩ := by
  refine ⟨by decide, ?_, by decide +kernel⟩
  intro c hc
  simp only [List.mem_cons, List.not_mem_nil, or_false] at hc
  rcases hc with rfl | rfl
  · exact ⟨by decide, by decide, .of_plain (by decide), by decide⟩
  · exact ⟨by decide, by decide, .of_plain (by decide), by decide⟩

end MailScreen.Header
