import Mathlib.Data.List.Perm.Lattice
import MailScreen.Proofs.Header.Continuation

/-!
# When sections can be joined

The sections of a parameter are joined if their numbers are those from 0 on and the charset that
section 0 states is known (`Header.exists_joinSections_iff`). This is so for charsets that read and
write whatever they are given, which the basic ones do. In which order the sections come does not
matter (`Header.joinSections_perm`).
-/
namespace MailScreen.Header

/-! ## Charsets -/

/-- The charsets that need no table. -/
def IsBasic (charset : Charset) : Prop :=
  charset = .utf8 ∨ charset = .ascii ∨ charset = .latin1

instance (charset : Charset) : Decidable (IsBasic charset) :=
  inferInstanceAs (Decidable (charset = .utf8 ∨ charset = .ascii ∨ charset = .latin1))

/-- A charset that is stated, if one is, is basic or not known. -/
def StatesBasic (stated : Option Text) : Prop :=
  ∀ name ∈ stated, '\x00' ∉ name ∧ ∀ entry ∈ findCharset? name, IsBasic entry.charset

instance (stated : Option Text) : Decidable (StatesBasic stated) :=
  inferInstanceAs (Decidable
    (∀ name ∈ stated, '\x00' ∉ name ∧ ∀ entry ∈ findCharset? name, IsBasic entry.charset))

/-- A charset is stated that is not known. -/
def StatesUnknown (stated : Option Text) : Prop :=
  ∃ name ∈ stated, findCharset? name = none

theorem statesBasic_none : StatesBasic none := by
  intro name h
  cases h

theorem not_statesUnknown_none : ¬ StatesUnknown none := by
  rintro ⟨name, h, -⟩
  cases h

instance (stated : Option Text) : Decidable (StatesUnknown stated) :=
  match stated with
  | none => .isFalse not_statesUnknown_none
  | some name => decidable_of_iff ((findCharset? name).isNone = true)
      ⟨fun h => ⟨name, rfl, Option.isNone_iff_eq_none.mp h⟩, fun ⟨_, hn, h⟩ =>
        Option.isNone_iff_eq_none.mpr (Option.some.inj hn ▸ h)⟩

variable {stated : Option Text} {charset : Charset} {sections : List Section} {value : Text}

theorem IsBasic.not_isNominal (h : IsBasic charset) : charset.isNominal = false := by
  rcases h with rfl | rfl | rfl <;> rfl

theorem IsBasic.not_refuses (h : IsBasic charset) (bytes : Octets) : ¬ charset.Refuses bytes := by
  rcases h with rfl | rfl | rfl <;> simp [Charset.Refuses, Charset.isNominal]

/-- **What a basic charset can do is done unless the charset that is stated is not known.** -/
theorem exists_charsetOf_bind_iff {α : Type} {f : Text × Charset → Except HeaderFault α}
    (hb : StatesBasic stated)
    (hf : ∀ label charset, IsBasic charset → ∃ a, f (label, charset) = .ok a) :
    (∃ a, (charsetOf stated >>= f) = .ok a) ↔ ¬ StatesUnknown stated := by
  cases stated with
  | none => exact iff_of_true (hf _ _ (.inr (.inr rfl))) not_statesUnknown_none
  | some name =>
    obtain ⟨hn, hbasic⟩ := hb name rfl
    cases he : findCharset? name with
    | none =>
      have hc : charsetOf (some name) = .error (.malformed (.unknownCharset name)) := by
        simp [charsetOf, hn, he]
      rw [hc]
      refine iff_of_false ?_ (not_not_intro ⟨name, rfl, he⟩)
      rintro ⟨text, h⟩
      cases h
    | some entry =>
      have hc : charsetOf (some name) = .ok (entry.label.toList, entry.charset) := by
        simp [charsetOf, hn, he]
      rw [hc]
      refine iff_of_true (hf _ _ (hbasic entry he)) ?_
      rintro ⟨other, ho, hu⟩
      obtain rfl := Option.some.inj ho
      rw [he] at hu
      cases hu

theorem exists_decode_of_isBasic (h : IsBasic charset) (label : Text) (bytes : Octets) :
    ∃ text, (charset.decode label bytes).mapError HeaderFault.charset = .ok text := by
  cases hd : charset.decode label bytes with
  | error fault =>
    exact absurd ((Charset.decode_eq_error_iff label charset bytes).mp ⟨fault, hd⟩)
      (h.not_refuses bytes)
  | ok text => exact ⟨text, rfl⟩

theorem exists_octets_of_isBasic (h : IsBasic charset) (label : Text) (s : Section) :
    ∃ bytes, s.octets label charset = .ok bytes := by
  unfold Section.octets
  split
  · exact ⟨_, rfl⟩
  · cases he : charset.encode label s.value with
    | error fault =>
      have hn := (Charset.encode_eq_error_iff label charset s.value).mp ⟨fault, he⟩
      rw [h.not_isNominal] at hn
      cases hn
    | ok bytes => exact ⟨bytes, rfl⟩

theorem exists_decodeExtended_iff (hb : StatesBasic (splitCharset value).1) :
    (∃ text, decodeExtended value = .ok text) ↔ ¬ StatesUnknown (splitCharset value).1 :=
  exists_charsetOf_bind_iff
    (f := fun found => (found.2.decode found.1 (Percent.decode (splitCharset value).2)).mapError
      .charset) hb fun label _ h => exists_decode_of_isBasic h label _

theorem exists_decodeSections_iff (hb : StatesBasic stated) :
    (∃ text, decodeSections stated sections = .ok text) ↔ ¬ StatesUnknown stated := by
  refine exists_charsetOf_bind_iff hb fun label charset h => ?_
  obtain ⟨chunks, hc⟩ := exists_mapM_eq_ok_iff.mpr fun s (_ : s ∈ sections) =>
    exists_octets_of_isBasic h label s
  obtain ⟨text, ht⟩ := exists_decode_of_isBasic h label chunks.flatten
  exact ⟨text, bind_eq_ok_iff.mpr ⟨chunks, hc, ht⟩⟩

/-! ## Joining -/

/-- **Numbers in order are those from 0 on exactly if they are all below some number.** -/
theorem inOrder_eq_range_iff (hn : (sections.map (·.index)).Nodup) :
    (inOrder sections).map (·.index) = List.range (inOrder sections).length ↔
      ∃ k, ∀ i, i ∈ sections.map (·.index) ↔ i < k := by
  have hp : ((inOrder sections).map (·.index)).Perm (sections.map (·.index)) :=
    (List.mergeSort_perm sections _).map _
  constructor
  · intro h
    refine ⟨(inOrder sections).length, fun i => ?_⟩
    rw [← hp.mem_iff, h, List.mem_range]
  · rintro ⟨k, hk⟩
    have hr : ((inOrder sections).map (·.index)).Perm (List.range k) :=
      (List.perm_ext_iff_of_nodup (hp.nodup_iff.mpr hn) List.nodup_range).mpr fun i => by
        rw [hp.mem_iff, hk, List.mem_range]
    have hsorted : (List.range k).Pairwise (· ≤ ·) :=
      List.pairwise_lt_range.imp Nat.le_of_lt
    have he := hr.eq_of_pairwise (fun _ _ _ _ => Nat.le_antisymm)
      (List.pairwise_map.mpr (pairwise_inOrder sections)) hsorted
    have hl := congrArg List.length he
    rw [List.length_map, List.length_range] at hl
    rw [hl]
    exact he

/-- The section that comes first in order has the number 0. -/
theorem exists_inOrder_cons {s : Section} (hs : s ∈ inOrder sections)
    (h : (inOrder sections).map (·.index) = List.range (inOrder sections).length) :
    ∃ first rest, inOrder sections = first :: rest ∧ first.index = 0 ∧ first ∈ sections := by
  obtain ⟨first, rest, ho⟩ := List.exists_cons_of_ne_nil (List.ne_nil_of_mem hs)
  refine ⟨first, rest, ho, ?_, (List.mergeSort_perm sections _).subset (ho ▸ List.mem_cons_self ..)⟩
  rw [ho, List.map_cons, List.length_cons, List.range_succ_eq_map] at h
  exact (List.cons.inj h).1

/-- Sections whose charset, if section 0 states one, is basic or not known. -/
def SectionsBasic (sections : List Section) : Prop :=
  ∀ s ∈ sections, s.index = 0 → s.extended = true → StatesBasic (splitCharset s.value).1

/-- The charset of sections in order is that of section 0. -/
theorem firstCharset_of_cons {first : Section} {rest : List Section} :
    (firstCharset (first :: rest)).1 =
      if first.extended = true then (splitCharset first.value).1 else none := by
  unfold firstCharset
  simp only
  split <;> rfl

/-- **Sections are joined exactly if no number is missing and the charset is known.** -/
theorem exists_joinSections_iff (hn : (sections.map (·.index)).Nodup) (hb : SectionsBasic sections)
    (name : Text) :
    (∃ text, joinSections name sections = .ok text) ↔
      (∃ k, ∀ i, i ∈ sections.map (·.index) ↔ i < k) ∧
        ∀ s ∈ sections, s.index = 0 → s.extended = true →
          ¬ StatesUnknown (splitCharset s.value).1 := by
  have hmem (s : Section) : s ∈ inOrder sections ↔ s ∈ sections :=
    (List.mergeSort_perm sections _).mem_iff
  rw [joinSections_eq, ← inOrder_eq_range_iff hn]
  by_cases hr : (inOrder sections).map (·.index) = List.range (inOrder sections).length
  · rw [if_neg (not_not_intro hr), and_iff_right hr]
    by_cases he : ∃ s ∈ inOrder sections, s.extended = true
    · rw [if_neg (by simpa using he)]
      obtain ⟨s, hs, -⟩ := he
      obtain ⟨first, rest, ho, hzero, hfirst⟩ := exists_inOrder_cons hs hr
      have hstated : ∀ s ∈ sections, s.index = 0 → s = first := fun s hs h0 =>
        List.inj_on_of_nodup_map hn hs hfirst (h0.trans hzero.symm)
      rw [ho]
      cases hx : first.extended with
      | true =>
        have hf : (firstCharset (first :: rest)).1 = (splitCharset first.value).1 := by
          rw [firstCharset_of_cons, if_pos hx]
        rw [exists_decodeSections_iff (by rw [hf]; exact hb first hfirst hzero hx), hf]
        constructor
        · intro h s hs h0 _
          rwa [hstated s hs h0]
        · intro h
          exact h first hfirst hzero hx
      | false =>
        have hf : (firstCharset (first :: rest)).1 = none := by
          rw [firstCharset_of_cons, hx, if_neg Bool.false_ne_true]
        rw [exists_decodeSections_iff (by rw [hf]; exact statesBasic_none), hf]
        refine iff_of_true not_statesUnknown_none fun s hs h0 hs' => ?_
        rw [hstated s hs h0, hx] at hs'
        cases hs'
    · rw [if_pos (by simpa using he)]
      refine iff_of_true ⟨_, rfl⟩ fun s hs _ hx => absurd ⟨s, (hmem s).mpr hs, hx⟩ he
  · rw [if_pos hr]
    refine iff_of_false ?_ fun h => hr h.1
    rintro ⟨text, h⟩
    cases h

/-- The order in which sections come does not matter. -/
theorem joinSections_perm {order : List Section} (h : order.Perm sections)
    (hn : (sections.map (·.index)).Nodup) (name : Text) :
    joinSections name order = joinSections name sections := by
  have hp : (inOrder sections).Perm sections := List.mergeSort_perm sections _
  have hlt : (inOrder sections).Pairwise fun a b => a.index < b.index := by
    have hne : (inOrder sections).Pairwise fun a b => a.index ≠ b.index :=
      List.pairwise_map.mp ((hp.map _).nodup_iff.mpr hn)
    exact (pairwise_inOrder sections).imp₂
      (fun _ _ hle hne => Nat.lt_of_le_of_ne hle hne) hne
  rw [joinSections_eq, joinSections_eq, inOrder_of_perm (h.trans hp.symm) hlt]

end MailScreen.Header
