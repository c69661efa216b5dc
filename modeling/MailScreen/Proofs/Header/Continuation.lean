import MailScreen.Proofs.Header.WrittenHeader
import MailScreen.Proofs.Text.Integer

/-!
# Parameters in sections

The octets of a text may be cut anywhere, also inside a character, and each piece be put down in a
section of its own: percent-encoded, or in quotation marks if it is a text itself. The sections are
numbered, and may stand in the header in any order. **What is read is the text**
(`Header.Chunk.parseDisposition_sections`), which is what a parameter in quotation marks is read as.
-/
namespace MailScreen.Header

open Ascii OutlookMessage

/-- A piece of the octets of a text, as it is put down in a section. -/
inductive Chunk where
  /-- Octets, and what is written for them. -/
  | encoded (octets : Octets) (written : Text)
  /-- The octets of a text, which is quoted. -/
  | quoted (text : Text)
  deriving DecidableEq, Repr

namespace Chunk

/-- The octets of a piece. -/
def octets : Chunk → Octets
  | encoded octets _ => octets
  | quoted text => Utf8.encode text

/-- A piece that is put down properly: what is written for octets stands for them. -/
def IsWritten : Chunk → Prop
  | encoded octets written => Percent.Encodes written octets
  | quoted _ => True

/-- The section of a piece. The charset stands in section 0. -/
def toSection (index : Nat) : Chunk → Section
  | encoded _ written =>
    ⟨index, if index = 0 then "utf-8''".toList ++ written else written, true⟩
  | quoted text => ⟨index, text, false⟩

/-- The sections of pieces, numbered from an index on. -/
def sectionsFrom (index : Nat) : List Chunk → List Section
  | [] => []
  | chunk :: rest => chunk.toSection index :: sectionsFrom (index + 1) rest

end Chunk

/-- The name under which a section of a parameter is put down. -/
def Section.fullName (name : Text) (s : Section) : Text :=
  name ++ '*' :: (Nat.toDigits 10 s.index ++ if s.extended then ['*'] else [])

/-- A section as it is put down: quoted, or bare if it is percent-encoded. -/
def Section.parameter (name : Text) (s : Section) : WrittenParameter :=
  ⟨"; ".toList, s.fullName name, s.value, !s.extended⟩

/-! ## Names -/

theorem splitName?_numbered {name digits : Text} (hn : name ≠ []) (hs : '*' ∉ name)
    (hd : digits ≠ []) (hc : ∀ c ∈ digits, isDecimalDigit c = true) (extended : Bool) :
    splitName? (name ++ '*' :: (digits ++ if extended then ['*'] else [])) =
      some (name, .numbered digits extended) := by
  obtain ⟨h1, h2⟩ := takeWhile_name (s := '*' :: (digits ++ if extended then ['*'] else [])) hs
    (by simp)
  obtain ⟨h3, h4⟩ := Text.takeWhile_append_stop (s := if extended then ['*'] else []) hc
    (by cases extended <;> (simp; try decide +kernel))
  obtain ⟨d, rest, rfl⟩ := List.exists_cons_of_ne_nil hd
  rw [List.cons_append] at h1 h2 h3 h4
  simp only [splitName?, List.cons_append, h1, h2, h3, h4, List.isEmpty_eq_false_iff.mpr hn,
    List.isEmpty_cons, Bool.false_eq_true, if_false]
  cases extended <;> rfl

variable {name : Text} {s : Section}

theorem splitName?_fullName (hn : IsName name) (s : Section) :
    splitName? (s.fullName name) =
      some (name, .numbered (Nat.toDigits 10 s.index) s.extended) :=
  splitName?_numbered hn.ne_nil hn.plain Nat.toDigits_ne_nil
    (forall_mem_toDigits (by decide +kernel) s.index) s.extended

/-- What holds of a name, of the asterisk and of digits holds of the name of a section. -/
theorem forall_mem_fullName {p : Char → Prop} (hn : ∀ c ∈ name, p c) (hs : p '*')
    (hd : ∀ n < 0x80, (Char.ofNat n).isDigit = true → p (Char.ofNat n)) (s : Section) :
    ∀ c ∈ s.fullName name, p c := by
  refine List.forall_mem_append.mpr ⟨hn, List.forall_mem_cons.mpr ⟨hs,
    List.forall_mem_append.mpr ⟨forall_mem_toDigits hd s.index, ?_⟩⟩⟩
  split
  · exact List.forall_mem_singleton.mpr hs
  · simp

theorem isToken_fullName (hn : IsName name) (s : Section) : IsToken (s.fullName name) where
  ne_nil := List.append_ne_nil_of_left_ne_nil hn.ne_nil _
  ascii := forall_mem_fullName hn.ascii (by decide) (by decide) s
  chars := forall_mem_fullName hn.chars (by decide) (by decide) s

theorem lower_fullName (hn : IsName name) (s : Section) :
    Text.lower (s.fullName name) = s.fullName name := by
  have hl : ∀ c ∈ name, lowerChar c = c := (lower_eq_self_iff hn.ascii).mp hn.lower
  exact (lower_eq_self_iff (isToken_fullName hn s).ascii).mpr
    (forall_mem_fullName hl (by decide) (by decide) s)

/-! ## Reading sections -/

/-- What has been read when sections of one parameter have been, in a given order. -/
def formsOf (name : Text) (sections : List Section) : Forms :=
  { sections := if sections.isEmpty then [] else [(name, sections)] }

/-- A section with a new number comes after those that have been read. -/
theorem add_fullName (hn : IsName name) {known : List Section}
    (hs : s.index ∉ known.map (·.index))
    (hd : (Nat.toDigits 10 s.index).length ≤ maxIntegerDigits) :
    ((formsOf name known).add (s.fullName name) s.value).result =
      .ok (formsOf name (known ++ [s])) := by
  have hf : ((formsOf name known).sections.find? name).getD [] = known := by
    cases known with
    | nil => rfl
    | cons first rest => simp [formsOf, Table.find?]
  have hk : known.any (·.index == s.index) = false := by
    rw [List.any_eq_false]
    intro other hm he
    exact hs (List.mem_map.mpr ⟨other, hm, by simpa using he⟩)
  have hi : (formsOf name known).sections.insert name (known ++ [s]) = [(name, known ++ [s])] := by
    cases known with
    | nil => rfl
    | cons first rest => simp [formsOf, Table.insert]
  simp only [Forms.add, splitName?_fullName hn, digitsValue?_toDigits hd, Noted.result_bind,
    Noted.result_ofExcept, hf]
  change Noted.result (if (known.any (·.index == s.index)) = true then _ else _) = _
  rw [hk, if_neg Bool.false_ne_true]
  refine congrArg Except.ok ?_
  show ({ sections := (formsOf name known).sections.insert name (known ++ [s]) } : Forms) = _
  rw [hi]
  simp [formsOf]

/-- **Sections are kept in the order of the header.** -/
theorem readForms_sections (hn : IsName name) {order : List Section}
    (hi : (order.map (·.index)).Nodup)
    (hd : ∀ s ∈ order, (Nat.toDigits 10 s.index).length ≤ maxIntegerDigits) :
    readForms (order.map fun s => (s.fullName name, s.value)) = .ok (formsOf name order) := by
  -- the induction is on the sections left, after any that have been read
  have key (known : List Section) (hk : ((known ++ order).map (·.index)).Nodup) :
      order.foldlM (fun forms s => (Forms.add forms (s.fullName name) s.value).result)
        (formsOf name known) = .ok (formsOf name (known ++ order)) := by
    clear hi
    induction order generalizing known with
    | nil => rw [List.append_nil]; rfl
    | cons s rest ih =>
      have hs : s.index ∉ known.map (·.index) := by
        rw [List.map_append, List.map_cons] at hk
        intro hm
        exact (List.nodup_append.mp hk).2.2 _ hm _ (List.mem_cons_self ..) rfl
      have hr : known ++ s :: rest = (known ++ [s]) ++ rest := by simp
      rw [List.foldlM_cons, add_fullName hn hs (hd s (List.mem_cons_self ..)), hr]
      exact ih (fun t ht => hd t (List.mem_cons_of_mem s ht)) (known ++ [s]) (hr ▸ hk)
  rw [readForms, Noted.result_foldlM, List.foldlM_map]
  exact key [] hi

/-- Sections of one parameter come to what they are joined to. -/
theorem combine_sections {settings : Settings} {t : Text} (hn : IsName name)
    {order : List Section} (hne : order ≠ []) (hi : (order.map (·.index)).Nodup)
    (hd : ∀ s ∈ order, (Nat.toDigits 10 s.index).length ≤ maxIntegerDigits)
    (hj : joinSections name order = .ok t) (hk : KeepsValues settings [t]) :
    (combine settings (order.map fun s => (s.fullName name, s.value))).result =
      .ok [(name, t)] := by
  have hv : (formsOf name order).values = .ok [(name, t)] := by
    rw [formsOf, List.isEmpty_eq_false_iff.mpr hne]
    show (joinSections name order >>= _) >>= _ = _
    rw [hj]
    rfl
  exact combine_of_values (readForms_sections hn hi hd) hv hk

/-! ## Joining sections -/

/-- Sections in order have increasing numbers. -/
theorem pairwise_inOrder (sections : List Section) :
    (inOrder sections).Pairwise fun a b => a.index ≤ b.index := by
  have h : (inOrder sections).Pairwise fun a b => decide (a.index ≤ b.index) = true :=
    List.pairwise_mergeSort (by simp; omega) (by simp; omega) sections
  simpa using h

/-- Sections in any order are put in the order of their numbers. -/
theorem inOrder_of_perm {order sections : List Section} (hp : order.Perm sections)
    (hs : sections.Pairwise fun a b => a.index < b.index) : inOrder order = sections := by
  have hm : (inOrder order).Perm sections := (List.mergeSort_perm order _).trans hp
  -- two sections with one number could come in either order, so there must be no such two
  have hn : (sections.map (·.index)).Nodup := (List.pairwise_map.mpr hs).imp Nat.ne_of_lt
  refine hm.eq_of_pairwise (fun a b ha hb hab hba => ?_) (pairwise_inOrder order)
    (hs.imp Nat.le_of_lt)
  exact List.inj_on_of_nodup_map hn (hm.subset ha) hb (Nat.le_antisymm hab hba)

namespace Chunk

variable {chunk : Chunk} {chunks : List Chunk} {index : Nat}

theorem index_toSection (index : Nat) (chunk : Chunk) : (chunk.toSection index).index = index := by
  cases chunk <;> rfl

theorem map_index_sectionsFrom (index : Nat) (chunks : List Chunk) :
    (sectionsFrom index chunks).map (·.index) = List.range' index chunks.length := by
  induction chunks generalizing index with
  | nil => rfl
  | cons chunk rest ih =>
    rw [sectionsFrom, List.map_cons, ih, index_toSection, List.length_cons, List.range'_succ]

/-- Pieces after the first are written as their octets. -/
theorem octets_toSection (hw : chunk.IsWritten) (hi : index ≠ 0) (label : Text) :
    (chunk.toSection index).octets label .utf8 = .ok chunk.octets := by
  cases chunk with
  | encoded octets written =>
    simp only [toSection, if_neg hi, Section.octets, if_true]
    rw [Percent.Encodes.decode_eq hw]
    rfl
  | quoted text => rfl

theorem mapM_octets_sectionsFrom (hw : ∀ chunk ∈ chunks, chunk.IsWritten) (hi : index ≠ 0)
    (label : Text) :
    (sectionsFrom index chunks).mapM (Section.octets label .utf8) = .ok (chunks.map octets) := by
  induction chunks generalizing index with
  | nil => rfl
  | cons chunk rest ih =>
    rw [sectionsFrom, List.mapM_cons, octets_toSection (hw chunk (List.mem_cons_self ..)) hi,
      ih (fun other hm => hw other (List.mem_cons_of_mem chunk hm)) (Nat.succ_ne_zero index)]
    rfl

/-- **The octets of all pieces are decoded together**, whatever the order of the sections, so a
character may be cut. -/
theorem joinSections_of_perm {octets : Octets} {written t : Text} {order : List Section}
    (hw : Percent.Encodes written octets) (hr : ∀ chunk ∈ chunks, chunk.IsWritten)
    (ht : octets ++ chunks.flatMap Chunk.octets = Utf8.encode t)
    (hp : order.Perm (sectionsFrom 0 (.encoded octets written :: chunks))) (name : Text) :
    joinSections name order = .ok t := by
  have hm := map_index_sectionsFrom 0 (.encoded octets written :: chunks)
  have hi : inOrder order = sectionsFrom 0 (.encoded octets written :: chunks) := by
    refine inOrder_of_perm hp (List.pairwise_map.mp ?_)
    rw [hm]
    exact List.pairwise_lt_range'
  have hlen : (sectionsFrom 0 (.encoded octets written :: chunks)).length =
      (Chunk.encoded octets written :: chunks).length := by
    have h := congrArg List.length hm
    rwa [List.length_map, List.length_range'] at h
  rw [joinSections_eq, hi, hm, hlen, if_neg (not_not_intro List.range_eq_range'.symm), if_neg]
  · obtain ⟨label, hc⟩ := charsetOf_utf8
    have hf : (⟨0, written, true⟩ : Section).octets label .utf8 = .ok octets :=
      congrArg Except.ok (Percent.Encodes.decode_eq hw)
    have hs : (⟨0, written, true⟩ :: sectionsFrom 1 chunks).mapM (Section.octets label .utf8) =
        .ok (octets :: chunks.map Chunk.octets) := by
      rw [List.mapM_cons, hf, mapM_octets_sectionsFrom hr (Nat.succ_ne_zero 0)]
      rfl
    -- with its charset taken off, section 0 is what was written for the first octets
    show decodeSections (some "utf-8".toList)
      (⟨0, written, true⟩ :: sectionsFrom 1 chunks) = .ok t
    rw [decodeSections, hc]
    show ((⟨0, written, true⟩ :: sectionsFrom 1 chunks).mapM (Section.octets label .utf8) >>= _) = _
    rw [hs]
    show (Charset.utf8.decode label (octets :: chunks.map Chunk.octets).flatten).mapError _ = _
    rw [decode_utf8, List.flatten_cons, ← List.flatMap_def, ht, Utf8.decode_encode]
    rfl
  · simp [sectionsFrom, toSection]

/-! ## Reading what is put down -/

/-- A text whose octets are among those of a text without line breaks has none itself. -/
theorem noBreak_of_octets {u t : Text} (ht : NoBreak t)
    (h : ∀ b ∈ Utf8.encode u, b ∈ Utf8.encode t) : NoBreak u := by
  have hm : ∀ c : Char, c.toNat < 0x80 → c ∈ u → c ∈ t := fun c hc hu =>
    (Utf8.octet_mem_encode_iff hc t).mp (h _ ((Utf8.octet_mem_encode_iff hc u).mpr hu))
  intro c hc
  constructor
  · rintro rfl
    exact (ht _ (hm _ (by decide) hc)).1 rfl
  · rintro rfl
    exact (ht _ (hm _ (by decide) hc)).2 rfl

/-- A section of a text without line breaks is put down as a parameter that can be read. -/
theorem isReadable_parameter {t : Text} (hn : IsName name) (ht : NoBreak t)
    (hw : chunk.IsWritten) (hb : ∀ b ∈ chunk.octets, b ∈ Utf8.encode t) (index : Nat) :
    ((chunk.toSection index).parameter name).IsReadable := by
  have hname : IsToken ((chunk.toSection index).fullName name) := isToken_fullName hn _
  cases chunk with
  | encoded octets written =>
    have hc : ∀ c ∈ (if index = 0 then "utf-8''".toList ++ written else written),
        isBareChar c = true ∧ c ≠ '"' ∧ c ≠ '(' := by
      split
      · exact List.forall_mem_append.mpr ⟨by decide, Percent.Encodes.chars hw⟩
      · exact Percent.Encodes.chars hw
    exact ⟨isSeparator_semicolon, hname, .of_forall (by decide) (by decide) fun c h => (hc c h).1,
      fun _ => ⟨fun c h => (hc c h).1, fun c h => (hc c (List.mem_of_head? h)).2⟩⟩
  | quoted text =>
    exact ⟨isSeparator_semicolon, hname, noBreak_of_octets ht hb, fun h => by cases h⟩

theorem mem_sectionsFrom {s : Section} (h : s ∈ sectionsFrom index chunks) :
    ∃ chunk ∈ chunks, ∃ i < index + chunks.length, s = chunk.toSection i := by
  induction chunks generalizing index with
  | nil => cases h
  | cons chunk rest ih =>
    rcases List.mem_cons.mp h with rfl | h
    · exact ⟨chunk, List.mem_cons_self .., index, by simp, rfl⟩
    · obtain ⟨other, hm, i, hi, rfl⟩ := ih h
      exact ⟨other, List.mem_cons_of_mem _ hm, i, by rw [List.length_cons]; omega, rfl⟩

/-- Sections that are put down are read as what they come to. -/
theorem parseDisposition_flatMap_parameter {settings : Settings} {primary : Text}
    {params : Table Text} {order : List Section} (hp : IsToken primary) (hn : IsName name)
    (hr : ∀ s ∈ order, (s.parameter name).IsReadable)
    (hc : (combine settings (order.map fun s => (s.fullName name, s.value))).result =
      .ok params) :
    (parseDisposition settings (primary ++ order.flatMap fun s => (s.parameter name).text)).result =
      .ok ⟨Text.lower primary, params⟩ := by
  have hm : (order.map (Section.parameter name)).map WrittenParameter.pair =
      order.map fun s => (s.fullName name, s.value) := by
    rw [List.map_map]
    exact List.map_congr_left fun s _ => congrArg (·, s.value) (lower_fullName hn s)
  have ht : (order.map (Section.parameter name)).flatMap WrittenParameter.text =
      order.flatMap fun s => (s.parameter name).text := List.flatMap_map ..
  rw [← ht]
  refine WrittenParameter.parseDisposition_flatMap_text (List.forall_mem_map.mpr hr) ?_
    (by rw [hm]; exact hc) hp
  -- a semicolon comes first in every section, so a value may be empty
  exact fun _ _ _ => List.forall_mem_map.mpr fun s _ => rfl

/-- **Sections in any order are read as the text whose octets they are made of**, which is what the
text in quotation marks is read as. The octets may be cut anywhere, and all pieces but the first may
be quoted if they are texts. The number of the last section may have as many digits as are read,
which are 4300: a header with more sections than that fits into no memory. -/
theorem parseDisposition_sections {settings : Settings} {primary name t : Text} {octets : Octets}
    {written : Text} {chunks : List Chunk} {order : List Section} (hp : IsToken primary)
    (hn : IsName name) (ht : NoBreak t) (hw : Percent.Encodes written octets)
    (hr : ∀ chunk ∈ chunks, chunk.IsWritten)
    (hc : octets ++ chunks.flatMap Chunk.octets = Utf8.encode t)
    (hl : (Nat.toDigits 10 chunks.length).length ≤ maxIntegerDigits)
    (ho : order.Perm (sectionsFrom 0 (.encoded octets written :: chunks)))
    (hk : KeepsValues settings [t]) :
    (parseDisposition settings
        (primary ++ order.flatMap fun s => (s.parameter name).text)).result =
      .ok ⟨Text.lower primary, [(name, t)]⟩ ∧
    (parseDisposition settings
        (primary ++ (WrittenParameter.mk "; ".toList name t true).text)).result =
      .ok ⟨Text.lower primary, [(name, t)]⟩ := by
  have hall : ∀ chunk ∈ Chunk.encoded octets written :: chunks, chunk.IsWritten :=
    List.forall_mem_cons.mpr ⟨hw, hr⟩
  have hcut : (Chunk.encoded octets written :: chunks).flatMap Chunk.octets = Utf8.encode t := by
    rw [List.flatMap_cons]
    exact hc
  have hfrom : ∀ s ∈ order, ∃ chunk ∈ Chunk.encoded octets written :: chunks,
      ∃ i ≤ chunks.length, s = chunk.toSection i := by
    intro s hs
    obtain ⟨chunk, hm, i, hi, rfl⟩ := mem_sectionsFrom (ho.subset hs)
    exact ⟨chunk, hm, i, by rw [List.length_cons] at hi; omega, rfl⟩
  have hread : ∀ s ∈ order, (s.parameter name).IsReadable := by
    intro s hs
    obtain ⟨chunk, hm, i, -, rfl⟩ := hfrom s hs
    refine isReadable_parameter hn ht (hall chunk hm) (fun b hb => ?_) i
    rw [← hcut]
    exact List.mem_flatMap.mpr ⟨chunk, hm, hb⟩
  have hnumber : ∀ s ∈ order, (Nat.toDigits 10 s.index).length ≤ maxIntegerDigits := by
    intro s hs
    obtain ⟨chunk, -, i, hi, rfl⟩ := hfrom s hs
    rw [index_toSection]
    exact length_toDigits_le hi (by decide) hl
  have hnodup : (order.map (·.index)).Nodup := by
    rw [(ho.map _).nodup_iff, map_index_sectionsFrom]
    exact List.nodup_range' ..
  have hne : order ≠ [] := by
    rintro rfl
    cases ho.symm.eq_nil
  exact ⟨parseDisposition_flatMap_parameter hp hn hread
      (combine_sections hn hne hnodup hnumber (joinSections_of_perm hw hr hc ho name) hk),
    WrittenParameter.parseDisposition_quoted hp hn ht hk⟩

/-- Sections out of order that cut two characters, with a quoted text and an empty piece among
them. -/
theorem parseDisposition_sections_of_mixed :
    (parseDisposition {} ("Attachment; filename*2=\"\\\"a\\\\ \"; filename*0*=utf-8''n%c3".toList ++
        "; filename*4*=; filename*5*=%AC.; filename*1*=%A9; filename*3*=%e2%82".toList)).result =
      .ok ⟨"attachment".toList, [("filename".toList, "né\"a\\ €.".toList)]⟩ := by
  have hprimary : Text.lower "Attachment".toList = "attachment".toList := by decide +kernel
  have hfirst : Percent.Encodes "n%c3".toList [0x6E, 0xC3] :=
    .plain (by decide) (.digits (by decide) .nil)
  have hrest : ∀ chunk ∈ [Chunk.encoded [0xA9] "%A9".toList, .quoted "\"a\\ ".toList,
      .encoded [0xE2, 0x82] "%e2%82".toList, .encoded [] [], .encoded [0xAC, 0x2E] "%AC.".toList],
      chunk.IsWritten := by
    simp only [List.forall_mem_cons]
    exact ⟨.digits (by decide) .nil, trivial, .digits (by decide) (.digits (by decide) .nil), .nil,
      .digits (by decide) (.plain (by decide) .nil), by simp⟩
  have h := (@parseDisposition_sections {} "Attachment".toList "filename".toList
    "né\"a\\ €.".toList [0x6E, 0xC3] "n%c3".toList _
    [⟨2, "\"a\\ ".toList, false⟩, ⟨0, "utf-8''n%c3".toList, true⟩, ⟨4, [], true⟩,
      ⟨5, "%AC.".toList, true⟩, ⟨1, "%A9".toList, true⟩, ⟨3, "%e2%82".toList, true⟩]
    (by decide) (by decide +kernel) (by decide) hfirst hrest (by decide +kernel)
    (by decide +kernel) (by decide +kernel) (by decide +kernel)).1
  rw [hprimary] at h
  exact h

end Chunk
end MailScreen.Header
