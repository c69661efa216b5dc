import Mathlib.Data.List.Induction
import MailScreen.Proofs.Header.Continuation

/-!
# What parameters say under a name

The name of a parameter is its name proper and what tells the form of its value
(`Header.splitName?_eq_some_iff`). Parameters of all names and forms may come in any order, and are
gathered by form before values are made of them. **What has been gathered after any number of
parameters is what those say** (`Header.gathers_of_readForms`), whichever way they are mixed: each
form has a table of its own, and a parameter changes the one of its form only. From this follows
what is found under a name in the end (`Forms.Gathers.find?_values`).
-/
namespace MailScreen.Header

/-! ## Names -/

/-- What a name has after the name proper in a form. -/
def Form.suffix : Form → Text
  | .plain => []
  | .extended => ['*']
  | .numbered digits starred => '*' :: (digits ++ if starred then ['*'] else [])

/-- A form that a name can have: a number has one or more digits. -/
def Form.IsProper : Form → Prop
  | .numbered digits _ => digits ≠ [] ∧ ∀ c ∈ digits, isDecimalDigit c = true
  | _ => True

/-- A name that is made of a name proper, not empty and without asterisks, and what tells a form. -/
structure IsNamed (name base : Text) (form : Form) : Prop where
  ne_nil : base ≠ []
  star_notMem : '*' ∉ base
  proper : form.IsProper
  eq_append : name = base ++ form.suffix

/-- Where a text is cut at its first asterisk. -/
theorem cut_at_star (name : Text) :
    '*' ∉ name.takeWhile (· ≠ '*') ∧
      ∀ c rest, name.dropWhile (· ≠ '*') = c :: rest →
        c = '*' ∧ name = name.takeWhile (· ≠ '*') ++ '*' :: rest := by
  constructor
  · intro hm
    have h := List.mem_takeWhile_imp hm
    simp at h
  · intro c rest hd
    have h := List.head?_dropWhile_not (fun c : Char => decide (c ≠ '*')) name
    rw [hd] at h
    obtain rfl : c = '*' := by simpa using h
    exact ⟨rfl, by rw [← hd, List.takeWhile_append_dropWhile]⟩

/-- **A name is split exactly as it is made.** -/
theorem splitName?_eq_some_iff {name base : Text} {form : Form} :
    splitName? name = some (base, form) ↔ IsNamed name base form := by
  constructor
  · intro h
    obtain ⟨hstar, hcut⟩ := cut_at_star name
    unfold splitName? at h
    simp only at h
    split at h
    · cases h
    rename_i hne
    have hne : name.takeWhile (· ≠ '*') ≠ [] := by simpa using hne
    -- one case for each form, by what follows the first asterisk
    split at h
    · rename_i hd
      obtain ⟨rfl, rfl⟩ := Prod.mk.inj (Option.some.inj h)
      have heq := List.takeWhile_append_dropWhile (p := fun c : Char => decide (c ≠ '*'))
        (l := name)
      rw [hd, List.append_nil] at heq
      exact ⟨hne, hstar, trivial, by rw [Form.suffix, List.append_nil, heq]⟩
    · rename_i hd
      obtain ⟨rfl, rfl⟩ := Prod.mk.inj (Option.some.inj h)
      exact ⟨hne, hstar, trivial, (hcut _ _ hd).2⟩
    · rename_i rest _ hd
      have hdigits : rest.takeWhile isDecimalDigit ++ rest.dropWhile isDecimalDigit = rest :=
        List.takeWhile_append_dropWhile
      split at h
      · cases h
      rename_i hn
      have hn : rest.takeWhile isDecimalDigit ≠ [] := by simpa using hn
      have hp : ∀ c ∈ rest.takeWhile isDecimalDigit, isDecimalDigit c = true :=
        fun c hc => List.mem_takeWhile_imp hc
      split at h
      · rename_i hr
        obtain ⟨rfl, rfl⟩ := Prod.mk.inj (Option.some.inj h)
        rw [hr] at hdigits
        exact ⟨hne, hstar, ⟨hn, hp⟩, (hcut _ _ hd).2.trans
          (congrArg (fun t => _ ++ '*' :: t) hdigits.symm)⟩
      · rename_i hr
        obtain ⟨rfl, rfl⟩ := Prod.mk.inj (Option.some.inj h)
        rw [hr] at hdigits
        exact ⟨hne, hstar, ⟨hn, hp⟩, (hcut _ _ hd).2.trans
          (congrArg (fun t => _ ++ '*' :: t) hdigits.symm)⟩
      · cases h
  · rintro ⟨hne, hstar, hform, rfl⟩
    cases form with
    | plain => rw [Form.suffix, List.append_nil, splitName?_plain hne hstar]
    | extended => exact splitName?_extended hne hstar
    | numbered digits extended => exact splitName?_numbered hne hstar hform.1 hform.2 extended

/-! ## What is written under a name -/

/-- The number that digits stand for. -/
def numberOf (digits : Text) : Nat :=
  digits.foldl (fun value c => value * 10 + (digitValue? c).getD 0) 0

theorem digitsValue?_eq_ok_iff {digits : Text} {n : Nat} :
    digitsValue? digits = .ok n ↔ digits.length ≤ maxIntegerDigits ∧ numberOf digits = n := by
  unfold digitsValue?
  split
  · rename_i hl
    exact iff_of_false (nomatch ·) fun h => absurd h.1 (Nat.not_le.mpr hl)
  · rename_i hl
    rw [Except.ok.injEq, and_iff_right (Nat.not_lt.mp hl)]
    rfl

/-- The values that are written under a name proper in a form, in the order of the header. -/
def valuesUnder (base : Text) (form : Form) (written : List (Text × Text)) : List Text :=
  (written.filter fun entry => splitName? entry.1 = some (base, form)).map (·.2)

/-- The section of the parameter `base` that is written, if one is. -/
def sectionOf? (base : Text) (entry : Text × Text) : Option Section :=
  match splitName? entry.1 with
  | some (other, .numbered digits starred) =>
    if other = base then some ⟨numberOf digits, entry.2, starred⟩ else none
  | _ => none

/-- The sections that are written of the parameter `base`, in the order of the header. -/
def sectionsUnder (base : Text) (written : List (Text × Text)) : List Section :=
  written.filterMap (sectionOf? base)

variable {written : List (Text × Text)} {name base value : Text} {form : Form}

theorem mem_valuesUnder_iff :
    value ∈ valuesUnder base form written ↔
      ∃ name, IsNamed name base form ∧ (name, value) ∈ written := by
  simp only [valuesUnder, List.mem_map, List.mem_filter, decide_eq_true_eq, splitName?_eq_some_iff]
  constructor
  · rintro ⟨entry, ⟨hm, hn⟩, rfl⟩
    exact ⟨entry.1, hn, hm⟩
  · rintro ⟨name, hn, hm⟩
    exact ⟨(name, value), ⟨hm, hn⟩, rfl⟩

theorem sectionOf?_eq_some_iff {entry : Text × Text} {s : Section} :
    sectionOf? base entry = some s ↔
      ∃ digits, IsNamed entry.1 base (.numbered digits s.extended) ∧ numberOf digits = s.index ∧
        entry.2 = s.value := by
  simp only [← splitName?_eq_some_iff]
  unfold sectionOf?
  split
  · rename_i other digits starred hs
    rw [hs]
    by_cases ho : other = base
    · rw [if_pos ho, Option.some.injEq]
      constructor
      · rintro rfl
        exact ⟨digits, by rw [ho], rfl, rfl⟩
      · rintro ⟨digits', hn, hi, hv⟩
        obtain ⟨-, hf⟩ := Prod.mk.inj (Option.some.inj hn)
        obtain ⟨rfl, rfl⟩ := Form.numbered.inj hf
        rw [hi, hv]
    · rw [if_neg ho]
      refine iff_of_false (nomatch ·) ?_
      rintro ⟨digits', hn, -, -⟩
      exact ho (Prod.mk.inj (Option.some.inj hn)).1
  · rename_i hs
    refine iff_of_false (nomatch ·) ?_
    rintro ⟨digits, hn, -, -⟩
    exact hs _ _ _ hn

theorem mem_sectionsUnder_iff {s : Section} :
    s ∈ sectionsUnder base written ↔
      ∃ name digits, IsNamed name base (.numbered digits s.extended) ∧ numberOf digits = s.index ∧
        (name, s.value) ∈ written := by
  simp only [sectionsUnder, List.mem_filterMap, sectionOf?_eq_some_iff]
  constructor
  · rintro ⟨⟨name, value⟩, hm, digits, hn, hi, rfl⟩
    exact ⟨name, digits, hn, hi, hm⟩
  · rintro ⟨name, digits, hn, hi, hm⟩
    exact ⟨(name, s.value), hm, digits, hn, hi, rfl⟩

theorem valuesUnder_concat (base : Text) (form : Form) (written : List (Text × Text))
    (name value : Text) :
    valuesUnder base form (written ++ [(name, value)]) =
      valuesUnder base form written ++
        if splitName? name = some (base, form) then [value] else [] := by
  rw [valuesUnder, List.filter_append, List.map_append, valuesUnder, List.filter_singleton]
  by_cases hs : splitName? name = some (base, form)
  · simp [hs]
  · simp [hs]

theorem sectionsUnder_concat (base : Text) (written : List (Text × Text)) (entry : Text × Text) :
    sectionsUnder base (written ++ [entry]) =
      sectionsUnder base written ++ (sectionOf? base entry).toList := by
  rw [sectionsUnder, List.filterMap_append, sectionsUnder, List.filterMap_cons]
  cases sectionOf? base entry <;> rfl

/-! ## Gathering -/

/-- What reading one more parameter comes to. -/
theorem Forms.add_eq_ok_iff {forms forms' : Forms} :
    (forms.add name value).result = .ok forms' ↔
      match splitName? name with
      | none => forms' = forms
      | some (base, .plain) => forms' = { forms with plain := forms.plain.insert base value }
      | some (base, .extended) => ∃ text, decodeExtended value = .ok text ∧
          forms' = { forms with extended := forms.extended.insert base text }
      | some (base, .numbered digits starred) =>
        let known := (forms.sections.find? base).getD []
        digits.length ≤ maxIntegerDigits ∧ numberOf digits ∉ known.map (·.index) ∧
          forms' = { forms with sections :=
            forms.sections.insert base (known ++ [⟨numberOf digits, value, starred⟩]) } := by
  have hpure {after : Forms} : Except.ok after = (.ok forms' : Except HeaderFault Forms) ↔
      forms' = after := by rw [Except.ok.injEq, eq_comm]
  unfold Forms.add
  cases hs : splitName? name with
  | none =>
    dsimp only
    rw [Noted.result_bind]
    exact hpure
  | some found =>
    obtain ⟨base, form⟩ := found
    cases form with
    | plain => exact hpure
    | extended =>
      dsimp only
      rw [Noted.result_bind, bind_eq_ok_iff]
      exact exists_congr fun text => and_congr_right fun _ => hpure
    | numbered digits starred =>
      have hknown (n : Nat) : ((forms.sections.find? base).getD []).any (·.index == n) = true ↔
          n ∈ ((forms.sections.find? base).getD []).map (·.index) := by
        simp [List.any_eq_true, List.mem_map]
      dsimp only
      rw [Noted.result_bind, Noted.result_ofExcept, bind_eq_ok_iff]
      constructor
      · rintro ⟨n, hn, h⟩
        cases hd : digitsValue? digits with
        | error fault => rw [hd] at hn; cases hn
        | ok n' =>
          rw [hd] at hn
          obtain rfl : n' = n := Except.ok.inj hn
          obtain ⟨hl, rfl⟩ := digitsValue?_eq_ok_iff.mp hd
          split at h
          · cases h
          · rename_i hk
            exact ⟨hl, mt (hknown _).mpr hk, hpure.mp h⟩
      · rintro ⟨hl, hk, h⟩
        refine ⟨numberOf digits, by rw [digitsValue?_eq_ok_iff.mpr ⟨hl, rfl⟩]; rfl, ?_⟩
        rw [if_neg (mt (hknown _).mp hk)]
        exact hpure.mpr h

/-- A table that holds of each name the last value in a form, as it is read. -/
structure GathersValues (form : Form) (read : Text → Except HeaderFault Text) (table : Table Text)
    (written : List (Text × Text)) : Prop where
  /-- All values can be read. -/
  reads : ∀ base, ∀ value ∈ valuesUnder base form written, ∃ text, read value = .ok text
  /-- What is found is the last. -/
  find?_eq : ∀ base,
    (table.find? base).map .ok = (valuesUnder base form written).getLast?.map read
  /-- No name comes twice. -/
  nodup : table.names.Nodup

/-- A table that holds of each name its sections, if it has any. -/
structure GathersSections (table : Table (List Section)) (written : List (Text × Text)) :
    Prop where
  /-- No number comes twice. -/
  distinct : ∀ base, ((sectionsUnder base written).map (·.index)).Nodup
  /-- What is found are all sections. -/
  find?_eq : ∀ base, table.find? base =
    if sectionsUnder base written = [] then none else some (sectionsUnder base written)
  /-- No name comes twice. -/
  nodup : table.names.Nodup

/-- What has been read when parameters have been: under each name what they say in each form. -/
structure Forms.Gathers (forms : Forms) (written : List (Text × Text)) : Prop where
  /-- Plain values are read as they are. -/
  plain : GathersValues .plain .ok forms.plain written
  /-- Extended values are decoded. -/
  extended : GathersValues .extended decodeExtended forms.extended written
  /-- Sections are kept as they are. -/
  sections : GathersSections forms.sections written

namespace GathersValues

variable {read : Text → Except HeaderFault Text} {table : Table Text}

/-- Parameters in other forms change nothing. -/
theorem keep (h : GathersValues form read table written)
    (hs : ∀ base, splitName? name ≠ some (base, form)) (value : Text) :
    GathersValues form read table (written ++ [(name, value)]) := by
  have hv (base : Text) : valuesUnder base form (written ++ [(name, value)]) =
      valuesUnder base form written := by
    rw [valuesUnder_concat, if_neg (hs base), List.append_nil]
  exact ⟨by simpa only [hv] using h.reads, by simpa only [hv] using h.find?_eq, h.nodup⟩

/-- A parameter in this form is the last under its name. -/
theorem insert (h : GathersValues form read table written) {text : Text}
    (hs : splitName? name = some (base, form)) (hr : read value = .ok text) :
    GathersValues form read (table.insert base text) (written ++ [(name, value)]) where
  reads other v hm := by
    rw [valuesUnder_concat, List.mem_append] at hm
    rcases hm with hm | hm
    · exact h.reads other v hm
    · split at hm
      · exact ⟨text, List.mem_singleton.mp hm ▸ hr⟩
      · cases hm
  find?_eq other := by
    rw [valuesUnder_concat, hs, Table.find?_insert]
    by_cases ho : base = other
    · rw [if_pos ho, if_pos (by rw [ho]), List.getLast?_concat, Option.map_some, Option.map_some,
        hr]
    · rw [if_neg ho, if_neg (fun he => ho (Prod.mk.inj (Option.some.inj he)).1), List.append_nil,
        h.find?_eq]
  nodup := Table.nodup_names_insert h.nodup base text

end GathersValues

namespace GathersSections

variable {table : Table (List Section)}

theorem getD_find? (h : GathersSections table written) (base : Text) :
    (table.find? base).getD [] = sectionsUnder base written := by
  rw [h.find?_eq]
  split
  · rename_i hn
    rw [hn]
    rfl
  · rfl

/-- Parameters that are no sections change nothing. -/
theorem keep (h : GathersSections table written)
    (hs : ∀ base digits starred, splitName? name ≠ some (base, .numbered digits starred))
    (value : Text) : GathersSections table (written ++ [(name, value)]) := by
  have hv (base : Text) : sectionsUnder base (written ++ [(name, value)]) =
      sectionsUnder base written := by
    have hn : sectionOf? base (name, value) = none := by
      unfold sectionOf?
      split
      · rename_i hf
        exact absurd hf (hs _ _ _)
      · rfl
    rw [sectionsUnder_concat, hn, Option.toList_none, List.append_nil]
  exact ⟨by simpa only [hv] using h.distinct, by simpa only [hv] using h.find?_eq, h.nodup⟩

/-- A section with a new number comes after those of its name. -/
theorem insert (h : GathersSections table written) {digits : Text} {starred : Bool}
    (hs : splitName? name = some (base, .numbered digits starred))
    (hn : numberOf digits ∉ (sectionsUnder base written).map (·.index)) :
    GathersSections
      (table.insert base (sectionsUnder base written ++ [⟨numberOf digits, value, starred⟩]))
      (written ++ [(name, value)]) := by
  have hv (other : Text) : sectionsUnder other (written ++ [(name, value)]) =
      sectionsUnder other written ++
        if base = other then [⟨numberOf digits, value, starred⟩] else [] := by
    rw [sectionsUnder_concat, sectionOf?]
    simp only [hs]
    split <;> rfl
  refine ⟨fun other => ?_, fun other => ?_, Table.nodup_names_insert h.nodup base _⟩
  · rw [hv]
    by_cases ho : base = other
    · subst ho
      rw [if_pos rfl, List.map_append, List.map_singleton]
      refine List.nodup_append.mpr ⟨h.distinct base, List.nodup_singleton _, ?_⟩
      rintro i hi j hj rfl
      obtain rfl : i = numberOf digits := List.mem_singleton.mp hj
      exact hn hi
    · rw [if_neg ho, List.append_nil]
      exact h.distinct other
  · rw [hv, Table.find?_insert]
    by_cases ho : base = other
    · subst ho
      rw [if_pos rfl, if_pos rfl, if_neg (List.append_ne_nil_of_right_ne_nil _ (by simp))]
    · rw [if_neg ho, if_neg ho, List.append_nil, h.find?_eq]

end GathersSections

namespace Forms.Gathers

variable {forms forms' : Forms}

theorem nil : Gathers {} [] where
  plain := ⟨fun _ _ h => absurd h List.not_mem_nil, fun _ => rfl, List.nodup_nil⟩
  extended := ⟨fun _ _ h => absurd h List.not_mem_nil, fun _ => rfl, List.nodup_nil⟩
  sections := ⟨fun _ => List.nodup_nil, fun _ => rfl, List.nodup_nil⟩

/-- **A parameter that is read is gathered with those before it.** -/
theorem add (h : forms.Gathers written) (ha : (forms.add name value).result = .ok forms') :
    forms'.Gathers (written ++ [(name, value)]) := by
  rw [Forms.add_eq_ok_iff] at ha
  -- each form has a table of its own, and the others stay as they were
  split at ha
  · rename_i hs
    subst ha
    exact ⟨h.plain.keep (by simp [hs]) value, h.extended.keep (by simp [hs]) value,
      h.sections.keep (by simp [hs]) value⟩
  · rename_i base hs
    subst ha
    exact ⟨h.plain.insert hs rfl, h.extended.keep (by simp [hs]) value,
      h.sections.keep (by simp [hs]) value⟩
  · rename_i base hs
    obtain ⟨text, ht, rfl⟩ := ha
    exact ⟨h.plain.keep (by simp [hs]) value, h.extended.insert hs ht,
      h.sections.keep (by simp [hs]) value⟩
  · rename_i base digits starred hs
    rw [h.sections.getD_find?] at ha
    obtain ⟨-, hn, rfl⟩ := ha
    exact ⟨h.plain.keep (by simp [hs]) value, h.extended.keep (by simp [hs]) value,
      h.sections.insert hs hn⟩

end Forms.Gathers

theorem readForms_concat (written : List (Text × Text)) (name value : Text) :
    readForms (written ++ [(name, value)]) =
      readForms written >>= fun forms => (forms.add name value).result := by
  simp only [readForms, Noted.result_foldlM, List.foldlM_append, List.foldlM_cons, List.foldlM_nil,
    bind_pure]

/-- **What has been read is what the parameters say.** -/
theorem gathers_of_readForms {forms : Forms} (h : readForms written = .ok forms) :
    forms.Gathers written := by
  induction written using List.reverseRecOn generalizing forms with
  | nil =>
    obtain rfl := Except.ok.inj h
    exact .nil
  | append_singleton written entry ih =>
    rw [readForms_concat, bind_eq_ok_iff] at h
    obtain ⟨before, hb, ha⟩ := h
    exact (ih hb).add ha

/-! ## Values -/

/-- Sections are joined one after the other, each under its name, over what is there. -/
theorem find?_foldlM_joinSections {entries : Table (List Section)} {start values : Table Text}
    (hn : entries.names.Nodup)
    (h : entries.foldlM (fun (values : Table Text) entry => do
      let text ← joinSections entry.1 entry.2
      pure (values.insert entry.1 text)) start = Except.ok values) (key : Text) :
    (values.find? key).map .ok =
      ((entries.find? key).map (joinSections key)).or ((start.find? key).map .ok) := by
  induction entries generalizing start with
  | nil =>
    obtain rfl := Except.ok.inj h
    rfl
  | cons entry rest ih =>
    obtain ⟨next, hnext, hrest⟩ := bind_eq_ok_iff.mp h
    obtain ⟨text, ht, hnext⟩ := bind_eq_ok_iff.mp hnext
    obtain rfl := Except.ok.inj hnext
    rw [Table.names_cons, List.nodup_cons] at hn
    rw [ih hn.2 hrest, Table.find?_insert]
    by_cases hk : entry.1 = key
    · subst hk
      have hnone : Table.find? rest entry.1 = none := by
        rw [Option.eq_none_iff_forall_ne_some]
        exact fun sections hs => hn.1 (Table.mem_names_iff.mpr ⟨sections, hs⟩)
      have hsome : Table.find? (entry :: rest) entry.1 = some entry.2 := by simp [Table.find?]
      rw [hnone, hsome, if_pos rfl, Option.map_some, Option.map_some, ht]
      rfl
    · have hskip : Table.find? (entry :: rest) key = Table.find? rest key := by
        rw [Table.find?, List.find?_cons_of_neg (by simpa using hk), Table.find?]
      rw [hskip, if_neg hk]

theorem nodup_names_of_foldlM {entries : Table (List Section)} {start values : Table Text}
    (hn : start.names.Nodup)
    (h : entries.foldlM (fun (values : Table Text) entry => do
      let text ← joinSections entry.1 entry.2
      pure (values.insert entry.1 text)) start = Except.ok values) : values.names.Nodup := by
  induction entries generalizing start with
  | nil => exact Except.ok.inj h ▸ hn
  | cons entry rest ih =>
    obtain ⟨next, hnext, hrest⟩ := bind_eq_ok_iff.mp h
    obtain ⟨text, -, hnext⟩ := bind_eq_ok_iff.mp hnext
    obtain rfl := Except.ok.inj hnext
    exact ih (Table.nodup_names_insert hn entry.1 text) hrest

/-- What the parameters under a name come to: their sections joined if there are any, or else the
last extended value decoded, or else the last plain value. -/
def valueUnder (base : Text) (written : List (Text × Text)) : Option (Except HeaderFault Text) :=
  if sectionsUnder base written ≠ [] then some (joinSections base (sectionsUnder base written))
  else ((valuesUnder base .extended written).getLast?.map decodeExtended).or
    ((valuesUnder base .plain written).getLast?.map .ok)

/-- **What is found under a name is what its parameters come to.** -/
theorem Forms.Gathers.find?_values {forms : Forms} {values : Table Text}
    (h : forms.Gathers written) (hv : forms.values = .ok values) (base : Text) :
    (values.find? base).map .ok = valueUnder base written := by
  have hstart : ((forms.plain.insertAll forms.extended).find? base).map Except.ok =
      ((valuesUnder base .extended written).getLast?.map decodeExtended).or
        ((valuesUnder base .plain written).getLast?.map .ok) := by
    rw [Table.find?_insertAll_of_nodup h.extended.nodup, Option.map_or, h.extended.find?_eq,
      h.plain.find?_eq]
  rw [find?_foldlM_joinSections h.sections.nodup hv, hstart, h.sections.find?_eq, valueUnder]
  by_cases hs : sectionsUnder base written = []
  · rw [if_pos hs, if_neg (not_not_intro hs)]
    rfl
  · rw [if_neg hs, if_pos hs]
    rfl

/-- Something comes of a name exactly if a parameter has it for its name proper. -/
theorem valueUnder_ne_none_iff :
    valueUnder base written ≠ none ↔
      ∃ name form value, IsNamed name base form ∧ (name, value) ∈ written := by
  have hlast (l : List Text) : l.getLast? = none ↔ l = [] := List.getLast?_eq_none_iff
  constructor
  · intro h
    -- if there are no sections there is an extended value, or else a plain one
    by_cases hs : sectionsUnder base written = []
    · rw [valueUnder, if_neg (not_not_intro hs), ne_eq, Option.or_eq_none_iff,
        Option.map_eq_none_iff, Option.map_eq_none_iff, hlast, hlast, not_and_or] at h
      rcases h with h | h
      · obtain ⟨value, hm⟩ := List.exists_mem_of_ne_nil _ h
        obtain ⟨name, hn, hm⟩ := mem_valuesUnder_iff.mp hm
        exact ⟨name, .extended, value, hn, hm⟩
      · obtain ⟨value, hm⟩ := List.exists_mem_of_ne_nil _ h
        obtain ⟨name, hn, hm⟩ := mem_valuesUnder_iff.mp hm
        exact ⟨name, .plain, value, hn, hm⟩
    · obtain ⟨s, hm⟩ := List.exists_mem_of_ne_nil _ hs
      obtain ⟨name, digits, hn, -, hm⟩ := mem_sectionsUnder_iff.mp hm
      exact ⟨name, .numbered digits s.extended, s.value, hn, hm⟩
  · rintro ⟨name, form, value, hn, hm⟩ hnone
    unfold valueUnder at hnone
    split at hnone
    · cases hnone
    · rename_i hs
      rw [Option.or_eq_none_iff, Option.map_eq_none_iff, Option.map_eq_none_iff, hlast,
        hlast] at hnone
      cases form with
      | plain => exact List.ne_nil_of_mem (mem_valuesUnder_iff.mpr ⟨name, hn, hm⟩) hnone.2
      | extended => exact List.ne_nil_of_mem (mem_valuesUnder_iff.mpr ⟨name, hn, hm⟩) hnone.1
      | numbered digits starred =>
        have hsection : ⟨numberOf digits, value, starred⟩ ∈ sectionsUnder base written :=
          mem_sectionsUnder_iff.mpr ⟨name, digits, hn, rfl, hm⟩
        exact List.ne_nil_of_mem hsection (not_not.mp hs)

end MailScreen.Header
