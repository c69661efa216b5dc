import MailScreen.Proofs.Header.Leftovers
import MailScreen.Proofs.Header.WrittenHeader
import MailScreen.Proofs.Text.Lower

/-!
# Headers that are read whatever follows their primary value

What is no parameter is passed over, and an encoded word that cannot be decoded is left as it is.
So **a header that begins with a primary value is read**, whatever comes after it, unless an
asterisk in it makes a parameter one of sections or one in extended form, **and a header that does
not is malformed** (`Header.isLenient_parse`). That a header begins with a primary value is said of
it as it is written: spaces, tabs and complete comments may come before, and no equals sign behind
it makes it the name of a parameter (`Header.Begins`).
-/
namespace MailScreen.Header

/-! ## Primary values as written -/

/-- The text of a disposition, which is a token. -/
def IsDisposition (written value : Text) : Prop := IsTokenRun value ∧ written = value

/-- The text of a content type: two tokens with a slash between them, and spaces and tabs around
it. -/
def IsContentType (written value : Text) : Prop :=
  ∃ kind before after subtype, IsTokenRun kind ∧ IsTokenRun subtype ∧
    (∀ c ∈ before, isSpaceOrTab c = true) ∧ (∀ c ∈ after, isSpaceOrTab c = true) ∧
    written = kind ++ (before ++ '/' :: (after ++ subtype)) ∧ value = kind ++ '/' :: subtype

/-- A text that begins with a primary value after spacing. The value is as long as it can be, and no
equals sign comes after it. -/
def Begins (isPrimary : Text → Text → Prop) (t value : Text) : Prop :=
  ∃ lead written rest, IsSpacing lead ∧ isPrimary written value ∧ t = lead ++ (written ++ rest) ∧
    (∀ c ∈ rest.head?, isTokenChar c = false) ∧
    ∀ gap left, IsSpacing gap → rest ≠ gap ++ '=' :: left

/-- What takes a primary value from the start of a text. -/
structure Takes (isPrimary : Text → Text → Prop) (take : Text → Option (Text × Text)) : Prop where
  /-- It takes what is written there. -/
  takes_iff : ∀ t value rest, take t = some (value, rest) ↔
    ∃ written, isPrimary written value ∧ t = written ++ rest ∧
      ∀ c ∈ rest.head?, isTokenChar c = false
  /-- A primary value starts with a token. -/
  starts : ∀ written value, isPrimary written value →
    ∃ c more, written = c :: more ∧ isTokenChar c = true

theorem IsTokenRun.exists_cons {t : Text} (ht : IsTokenRun t) :
    ∃ c more, t = c :: more ∧ isTokenChar c = true := by
  obtain ⟨c, more, rfl⟩ := List.exists_cons_of_ne_nil ht.ne_nil
  exact ⟨c, more, rfl, ht.chars c (List.mem_cons_self ..)⟩

theorem takes_disposition : Takes IsDisposition takeToken? := by
  refine ⟨fun t value rest => ?_, ?_⟩
  · rw [takeToken?_eq_some_iff]
    constructor
    · rintro ⟨hv, hr, ht⟩
      exact ⟨value, ⟨hv, rfl⟩, ht, hr⟩
    · rintro ⟨_, ⟨hv, rfl⟩, ht, hr⟩
      exact ⟨hv, hr, ht⟩
  · rintro _ value ⟨hv, rfl⟩
    exact hv.exists_cons

theorem takes_contentType : Takes IsContentType takeContentType? := by
  refine ⟨fun t value rest => ?_, ?_⟩
  · constructor
    · intro h
      obtain ⟨⟨kind, after⟩, hk, hslash⟩ := Option.bind_eq_some_iff.mp h
      obtain ⟨hkind, -, rfl⟩ := takeToken?_eq_some_iff.mp hk
      dsimp only at hslash
      split at hslash
      · rename_i left hleft
        obtain ⟨⟨subtype, left'⟩, hs, he⟩ := Option.bind_eq_some_iff.mp hslash
        obtain ⟨rfl, rfl⟩ := Prod.mk.inj (Option.some.inj he)
        obtain ⟨hsubtype, hr, hd⟩ := takeToken?_eq_some_iff.mp hs
        obtain ⟨before, hb, hbefore⟩ := exists_dropSpaces after
        obtain ⟨gap, hg, hgap⟩ := exists_dropSpaces left
        refine ⟨_, ⟨kind, before, gap, subtype, hkind, hsubtype, hb, hg, rfl, rfl⟩, ?_, hr⟩
        rw [hbefore, hleft, hgap, hd]
        simp
      · cases hslash
    · rintro ⟨_, ⟨kind, before, after, subtype, hkind, hsubtype, hb, ha, rfl, rfl⟩, rfl, hr⟩
      have hk : takeToken? (kind ++ (before ++ '/' :: (after ++ (subtype ++ rest)))) =
          some (kind, before ++ '/' :: (after ++ (subtype ++ rest))) :=
        takeToken?_eq_some_iff.mpr ⟨hkind, head?_gap hb (by decide), rfl⟩
      have hs : takeToken? (subtype ++ rest) = some (subtype, rest) :=
        takeToken?_eq_some_iff.mpr ⟨hsubtype, hr, rfl⟩
      have hd : dropSpaces (after ++ (subtype ++ rest)) = subtype ++ rest := by
        obtain ⟨c, more, rfl, hc⟩ := hsubtype.exists_cons
        exact dropSpaces_append_cons ha (isTokenChar_marks hc).1
      simp only [takeContentType?, List.append_assoc, List.cons_append, hk, Option.bind_eq_bind,
        Option.bind_some, dropSpaces_append_cons hb (show isSpaceOrTab '/' = false by decide), hd,
        hs]
  · rintro _ _ ⟨kind, before, after, subtype, hkind, -, -, -, rfl, -⟩
    obtain ⟨c, more, rfl, hc⟩ := hkind.exists_cons
    exact ⟨c, _, rfl, hc⟩

section

variable {isPrimary : Text → Text → Prop} {take : Text → Option (Text × Text)} {t value : Text}

/-- **A text begins with a primary value exactly if one is taken** after what is skipped, and no
equals sign comes next. -/
theorem Takes.begins_iff (ht : Takes isPrimary take) :
    Begins isPrimary t value ↔
      ∃ rest, take (skipBlanks t) = some (value, rest) ∧ ∀ left, skipBlanks rest ≠ '=' :: left := by
  constructor
  · rintro ⟨lead, written, rest, hl, hp, rfl, hr, he⟩
    obtain ⟨c, more, hw, hc⟩ := ht.starts written value hp
    obtain ⟨hspace, hparenthesis, -⟩ := isTokenChar_marks hc
    refine ⟨rest, ?_, fun left hleft => ?_⟩
    · have hs : skipBlanks (lead ++ (written ++ rest)) = written ++ rest := by
        rw [hw]
        exact skipBlanks_eq_cons_iff.mpr ⟨hspace, hparenthesis, lead, hl, rfl⟩
      exact (ht.takes_iff ..).mpr ⟨written, hp, hs, hr⟩
    · obtain ⟨-, -, gap, hg, hrest⟩ := skipBlanks_eq_cons_iff.mp hleft
      exact he gap left hg hrest
  · rintro ⟨rest, htake, he⟩
    obtain ⟨written, hp, hs, hr⟩ := (ht.takes_iff ..).mp htake
    obtain ⟨c, more, rfl, -⟩ := ht.starts written value hp
    obtain ⟨-, -, lead, hl, rfl⟩ := skipBlanks_eq_cons_iff.mp hs
    refine ⟨lead, c :: more, rest, hl, hp, rfl, hr, ?_⟩
    rintro gap left hg rfl
    exact he left (skipBlanks_eq_cons_iff.mpr ⟨by decide, by decide, gap, hg, rfl⟩)

end

/-! ## Parameters without asterisks -/

/-- Unfolding brings in nothing but spaces. -/
theorem mem_of_mem_unfoldLines {t : Text} {c : Char} (h : c ∈ unfoldLines t) : c ∈ t ∨ c = ' ' := by
  fun_induction unfoldLines t with
  | case1 => cases h
  | case2 rest _ ih => exact (ih h).imp_left fun hm => .tail _ (.tail _ hm)
  | case3 rest _ ih =>
    rcases List.mem_cons.mp h with rfl | h
    · exact .inr rfl
    · rcases List.mem_cons.mp h with rfl | h
      · exact .inr rfl
      · exact (ih h).imp_left fun hm => .tail _ (.tail _ hm)
  | case4 rest _ _ ih => exact (ih h).imp_left (.tail _)
  | case5 rest _ _ ih =>
    rcases List.mem_cons.mp h with rfl | h
    · exact .inr rfl
    · exact (ih h).imp_left (.tail _)
  | case6 rest _ _ ih =>
    rcases List.mem_cons.mp h with rfl | h
    · exact .inr rfl
    · exact (ih h).imp_left (.tail _)
  | case7 d rest _ _ _ ih =>
    rcases List.mem_cons.mp h with rfl | h
    · exact .inl (.head _)
    · exact (ih h).imp_left (.tail _)

theorem star_notMem_unfold {raw : Text} (h : '*' ∉ raw) : '*' ∉ unfold raw := fun hm =>
  (mem_of_mem_unfoldLines ((Text.trim_sublist _).subset hm)).elim h (by decide)

/-- **What follows a primary value makes parameters, whatever it is**, if no asterisk is in it. -/
theorem exists_parameters (settings : Settings) {t : Text} (h : '*' ∉ t) :
    ∃ params, (parameters settings t).result = .ok params := by
  have hnames : ∀ entry ∈ writtenPairs (items t), entry.1 ≠ [] ∧ '*' ∉ entry.1 := by
    rintro ⟨name, value⟩ hm
    obtain ⟨item, hitem, he⟩ := List.mem_filterMap.mp hm
    cases item with
    | parameter other v =>
      obtain ⟨rfl, rfl⟩ := Prod.mk.inj (Option.some.inj he)
      obtain ⟨token, hrun, hpart, rfl⟩ := exists_token_of_mem_items hitem
      exact ⟨Text.lower_ne_nil hrun.ne_nil,
        Text.notMem_lower (by decide) fun hm => h (hpart.subset hm)⟩
    | malformed _ => cases he
    | unterminated _ => cases he
  rw [parameters_result]
  exact (combine_reads_iff settings _).mpr ⟨_, _, readForms_plain hnames, rfl⟩

/-! ## Headers -/

/-- **A reader that is lenient**: it reads each header that begins with a primary value, whatever
comes after it, and refuses every other as malformed. -/
structure IsLenient (isPrimary : Text → Text → Prop)
    (parse : Settings → Text → Noted HeaderFault StructuredHeader) : Prop where
  /-- What begins with a primary value and has no asterisk in it is read with this value. -/
  reads : ∀ settings raw value, Begins isPrimary (unfold raw) value → '*' ∉ raw →
    ∃ params, (parse settings raw).result = .ok ⟨Text.lower value, params⟩
  /-- What begins with no primary value is malformed, with asterisks or without. -/
  refuses : ∀ settings raw, (∀ value, ¬ Begins isPrimary (unfold raw) value) →
    ∃ error, (parse settings raw).result = .error (.malformed error)

/-- A reader that takes a primary value and reads the parameters after it is lenient. -/
theorem Takes.isLenient {isPrimary : Text → Text → Prop} {take : Text → Option (Text × Text)}
    (ht : Takes isPrimary take) (header : String) (error : Text → HeaderError) :
    IsLenient isPrimary fun settings raw =>
      match take (skipBlanks (unfold raw)) with
      | none => Noted.fail (.malformed (error (unfold raw)))
      | some (value, rest) => finish settings header value rest := by
  refine ⟨fun settings raw value hb hstar => ?_, fun settings raw hb => ?_⟩
  · obtain ⟨rest, htake, he⟩ := ht.begins_iff.mp hb
    obtain ⟨written, -, hs, -⟩ := (ht.takes_iff ..).mp htake
    have hrest : '*' ∉ rest := by
      intro hm
      have hmem : '*' ∈ skipBlanks (unfold raw) := by
        rw [hs]
        exact List.mem_append_right _ hm
      exact star_notMem_unfold hstar ((skipBlanks_suffix _).subset hmem)
    obtain ⟨params, hp⟩ := exists_parameters settings hrest
    refine ⟨params, ?_⟩
    rw [htake]
    refine finish_eq_ok_iff.mpr ⟨fun hhead => ?_, hp, rfl⟩
    obtain ⟨left, hleft⟩ := List.head?_eq_some_iff.mp hhead
    exact he left hleft
  · split
    · exact ⟨_, rfl⟩
    · rename_i value rest htake
      -- a primary value is taken, so only an equals sign can keep the header from beginning with it
      have hsign : ∃ left, skipBlanks rest = '=' :: left := by
        by_contra hno
        rw [not_exists] at hno
        exact hb value (ht.begins_iff.mpr ⟨rest, htake, hno⟩)
      obtain ⟨left, hleft⟩ := hsign
      refine ⟨.noPrimary header, ?_⟩
      rw [finish, hleft]
      rfl

/-- **Both kinds of headers are read leniently**, whether encoded words are decoded or not. -/
theorem isLenient_parse :
    IsLenient IsDisposition parseDisposition ∧ IsLenient IsContentType parseContentType :=
  ⟨takes_disposition.isLenient "Content-Disposition" .noDisposition,
    takes_contentType.isLenient "Content-Type" .noContentType⟩

/-- A header that begins with one token, with a missing name, an encoded word that is no base 64 and
a quotation that is not closed after it. -/
def oneTokenHeader : Text := "(\\)) Attachment (b;); =x; name==?x?B?a?=; v=\"(".toList

/-- It is read as a disposition, and refused as a content type. -/
theorem isLenient_parse_of_oneToken :
    (∀ settings, ∃ params,
      (parseDisposition settings oneTokenHeader).result = .ok ⟨"attachment".toList, params⟩) ∧
    ∀ settings, ∃ error,
      (parseContentType settings oneTokenHeader).result = .error (.malformed error) := by
  obtain ⟨hdisposition, hcontentType⟩ := isLenient_parse
  constructor
  · have htake : takeToken? (skipBlanks (unfold oneTokenHeader)) =
        some ("Attachment".toList, " (b;); =x; name==?x?B?a?=; v=\"(".toList) := by decide +kernel
    have hrest : skipBlanks " (b;); =x; name==?x?B?a?=; v=\"(".toList =
        "; =x; name==?x?B?a?=; v=\"(".toList := by decide +kernel
    have hb : Begins IsDisposition (unfold oneTokenHeader) "Attachment".toList :=
      takes_disposition.begins_iff.mpr ⟨_, htake, fun left h => by rw [hrest] at h; cases h⟩
    have hv : Text.lower "Attachment".toList = "attachment".toList := by decide +kernel
    exact fun settings => hv ▸ hdisposition.reads settings _ _ hb (by decide)
  · have hnone : takeContentType? (skipBlanks (unfold oneTokenHeader)) = none := by decide +kernel
    refine fun settings => hcontentType.refuses settings _ fun value hb => ?_
    obtain ⟨rest, htake, -⟩ := takes_contentType.begins_iff.mp hb
    rw [hnone] at htake
    cases htake

/-- A comment with an escaped parenthesis, a missing name, an encoded word that is no base 64,
and a quotation that is not closed. -/
example : (parseContentType {}
      "(\\)) Text / Plain (b;); =x; name==?x?B?a?=; v=\"(".toList).result =
    .ok ⟨"text/plain".toList, [("name".toList, "=?x?B?a?=".toList)]⟩ := by
  decide +kernel

end MailScreen.Header
