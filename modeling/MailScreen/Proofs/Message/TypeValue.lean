import MailScreen.Proofs.Message.Settled
import MailScreen.Proofs.Message.ShownType

/-!
# The type of a part as it is written

When the structure of a message is made out, the Content-Type of a part is read, shown and read once
more. A type with one parameter comes out as that type, whatever the parameter is: a quotation takes
all of a quoted name, and a percent-encoded name is decoded to octets that are settled to text.
**The part is of the type that is written and has a boundary only if one is written**
(`PartType.ofValue_written`, `PartType.ofValue_boundary`).
-/
namespace MailScreen

open Ascii Header Lexeme OutlookMessage

namespace Lexeme

/-! ## Words -/

/-- There are no comments before a character that starts none. -/
theorem comments_of_head {t : Text} (h : ∀ c ∈ t.head?, isSpaceOrTab c = false ∧ c ≠ '(') :
    comments t = ([], t) := by
  cases t with
  | nil => rfl
  | cons c rest =>
    obtain ⟨h1, h2⟩ := h c rfl
    rw [comments, commentsAt, if_neg (by simp [h1]), if_neg h2]

/-- A space is passed over. -/
theorem afterComments_space {t : Text} (h : ∀ c ∈ t.head?, isBlank c = false ∧ c ≠ '(') :
    afterComments (' ' :: t) = t := by
  cases t with
  | nil => rfl
  | cons c rest =>
    obtain ⟨h1, h2⟩ := h c rfl
    rw [afterComments, comments, commentsAt, if_pos (by decide)]
    simp only [commentsAt]
    rw [if_neg (by simp [h1, isSpaceOrTab_of_not_isBlank h1]), if_neg h2]

/-- The run of characters before one that ends it. -/
theorem run?_append {ends : Char → Bool} {s t : Text} (hn : s ≠ [])
    (hs : ∀ c ∈ s, ends c = false) (ht : ∀ c ∈ t.head?, ends c = true) :
    run? ends (s ++ t) = some (s, t) := by
  obtain ⟨h1, h2⟩ := Text.takeWhile_append_stop (p := fun c => !ends c) (t := s) (s := t)
    (fun c hc => by simp [hs c hc]) (fun c hc => by simp [ht c hc])
  simp only [run?, h1, h2, List.isEmpty_eq_false_iff.mpr hn, Bool.false_eq_true, if_false]

/-- A token is read up to a character that ends it. -/
theorem token?_append {s t : Text} (hs : IsToken s)
    (ht : ∀ c ∈ t.head?, endsToken c = true ∧ isSpaceOrTab c = false ∧ c ≠ '(') :
    token? (s ++ t) = some (s, t) := by
  have he : ∀ c ∈ s, endsToken c = false ∧ isSpaceOrTab c = false ∧ c ≠ '(' :=
    hs.forall_mem (by decide +kernel)
  have hb : comments (s ++ t) = ([], s ++ t) :=
    comments_of_head (Text.forall_head?_append hs.ne_nil fun c hc => (he c hc).2)
  have hr : run? endsToken (s ++ t) = some (s, t) :=
    run?_append hs.ne_nil (fun c hc => (he c hc).1) fun c hc => (ht c hc).1
  have ha : comments t = ([], t) := comments_of_head fun c hc => (ht c hc).2
  simp only [token?, hb, hr, ha, Option.bind_eq_bind, Option.bind_some, List.nil_append,
    List.append_nil]
  rfl

/-- Nothing is passed over before a semicolon or at the end. -/
theorem junk_of_head {t : Text} (ht : ∀ c ∈ t.head?, c = ';') : junk t = ([], t) := by
  cases t with
  | nil => rfl
  | cons c rest =>
    obtain rfl := ht c rfl
    rfl

theorem quotedRun_plain {t : Text} (ht : ∀ c ∈ t, isSpaceOrTab c = false ∧ c ≠ '\\' ∧ c ≠ '"') :
    quotedRun (t ++ ['"']) = (t, ['"']) := by
  induction t with
  | nil => rfl
  | cons c rest ih =>
    obtain ⟨h1, h2, h3⟩ := ht c (List.mem_cons_self ..)
    rw [List.cons_append, quotedRun_cons h2, if_neg (by simp [h1, h3]),
      ih fun d hd => ht d (List.mem_cons_of_mem c hd)]

/-- **A text without marks and blanks is meant as it is quoted**, unless it may be an encoded
word. -/
theorem quotation_plain {c : Char} {rest : Text} (hc : c ≠ '=')
    (ht : ∀ d ∈ c :: rest, isSpaceOrTab d = false ∧ d ≠ '\\' ∧ d ≠ '"') :
    quotation ((c :: rest) ++ ['"']) = (c :: rest, []) := by
  obtain ⟨h1, -, h3⟩ := ht c (List.mem_cons_self ..)
  have hw : encodedWord? (c :: (rest ++ ['"'])) = none := by
    unfold encodedWord?
    split
    · rename_i he
      exact absurd (List.cons.inj he).1 hc
    · rfl
  have hr : quotedRun (c :: (rest ++ ['"'])) = (c :: rest, ['"']) := quotedRun_plain ht
  have hl : (c :: (rest ++ ['"'])).length = (rest.length + 1) + 1 := by simp
  rw [List.cons_append, quotation, hl, quotedPieces, if_neg h3, if_neg (by simp [h1]), hw]
  simp only [hr, quotedPieces]
  simp [LastQuoted.due]

end Lexeme

namespace TypeParameter

/-! ## Parameters -/

/-- A header that is one parameter. -/
theorem readAll_of_read {t : Text} {parameter : TypeParameter} (ht : t ≠ [])
    (hr : read t = .ok (parameter, [])) : readAll t = .ok [parameter] := by
  obtain ⟨c, rest, rfl⟩ := List.exists_cons_of_ne_nil ht
  rw [readAll, readAllIn]
  · rw [hr]
    rfl
  · simp

variable {name : Text}

/-- The name of a parameter is read with the space before it. -/
theorem run?_name (hn : IsName name) (ha : ∀ c ∈ name, endsAttribute c = false) {t : Text}
    (ht : ∀ c ∈ t.head?, endsAttribute c = true) :
    run? endsAttribute (afterComments (' ' :: (name ++ t))) = some (name, t) := by
  have hb : ∀ c ∈ name, isBlank c = false ∧ c ≠ '(' := hn.forall_mem (by decide +kernel)
  rw [afterComments_space (Text.forall_head?_append hn.ne_nil hb), run?_append hn.ne_nil ha ht]

theorem read_of_equals (hn : IsName name) (ha : ∀ c ∈ name, endsAttribute c = false) (t : Text) :
    read (' ' :: (name ++ '=' :: t)) = readAfterEquals { name := name } t := by
  have hr := run?_name hn ha (t := '=' :: t) (by simp; decide)
  unfold read
  rw [hr]
  show readAfterEquals { name := Text.trim name } t = _
  rw [TypeField.trim_of_isName hn]

theorem read_of_asterisk (hn : IsName name) (ha : ∀ c ∈ name, endsAttribute c = false)
    (t : Text) :
    read (' ' :: (name ++ '*' :: '=' :: t)) =
      readAfterEquals { name := name, extended := true } t := by
  have hr := run?_name hn ha (t := '*' :: '=' :: t) (by simp; decide)
  unfold read
  rw [hr]
  show readAfterEquals { name := Text.trim name, extended := true } t = _
  rw [TypeField.trim_of_isName hn]

/-- A quoted value takes all that is left, and is what the quotation means. -/
theorem readAfterEquals_quoted {value meant : Text} (h : quotation (closing value) = (meant, [])) :
    readAfterEquals { name := name } ('"' :: closing value) =
      .ok ({ name := name, value := some meant }, []) := by
  have hc : comments ('"' :: closing value) = ([], '"' :: closing value) :=
    comments_of_head (by simp; decide)
  have ht : takeValue ('"' :: closing value) = .ok (⟨meant, meant⟩, []) := by
    unfold takeValue
    rw [hc]
    show Except.ok (Written.mk (quotation (closing value)).1
      ((quotation (closing value)).1 ++ spaceFor (comments (quotation (closing value)).2).1),
      (comments (quotation (closing value)).2).2) = _
    rw [h]
    show Except.ok (Written.mk meant (meant ++ []), []) = _
    rw [List.append_nil]
  unfold readAfterEquals
  rw [afterComments, hc]
  show readValue { name := name } none ('"' :: closing value) = _
  unfold readValue
  show (takeValue ('"' :: closing value) >>= _) = _
  rw [ht]
  rfl

/-- The characters that a bare value consists of, and that nothing else starts with. -/
def IsBare (t : Text) : Prop :=
  t ≠ [] ∧ ∀ c ∈ t, endsExtendedText c = false ∧ isSpaceOrTab c = false ∧ c ≠ '(' ∧ c ≠ '"'

instance (t : Text) : Decidable (IsBare t) := inferInstanceAs (Decidable (_ ∧ _))

theorem takeValue_bare {t s : Text} (hb : IsBare t)
    (hs : ∀ c ∈ s.head?, endsExtendedText c = true ∧ isSpaceOrTab c = false ∧ c ≠ '(') :
    takeValue (t ++ s) = .ok (⟨t, t⟩, s) := by
  obtain ⟨ht, hc⟩ := hb
  obtain ⟨c, rest, rfl⟩ := List.exists_cons_of_ne_nil ht
  obtain ⟨-, h1, h2, h3⟩ := hc c (List.mem_cons_self ..)
  have hb : comments (c :: (rest ++ s)) = ([], c :: (rest ++ s)) := by
    refine comments_of_head fun d hd => ?_
    rw [← Option.some.inj hd]
    exact ⟨h1, h2⟩
  have ha : comments s = ([], s) := comments_of_head fun d hd => (hs d hd).2
  have hr : run? endsExtendedText (c :: (rest ++ s)) = some (c :: rest, s) :=
    run?_append ht (fun d hd => (hc d hd).1) fun d hd => (hs d hd).1
  unfold takeValue
  rw [List.cons_append, hb]
  dsimp only
  split
  · rename_i he
    cases he
  · rename_i he
    exact absurd (List.cons.inj he).1 h3
  · rw [hr]
    show Except.ok (Written.mk (c :: rest) (c :: rest ++ spaceFor (comments s).1),
      (comments s).2) = _
    rw [ha]
    show Except.ok (Written.mk _ (c :: rest ++ []), s) = _
    rw [List.append_nil]

theorem readValue_extended {parameter : TypeParameter} (he : parameter.extended = true)
    (h0 : parameter.sectionNumber = 0) {charset value : Text} (hc : IsBare charset)
    (hv : IsBare value) :
    readValue parameter none (charset ++ '\'' :: '\'' :: value) =
      .ok ({ parameter with charset := charset, value := some value }, []) := by
  have h1 : takeValue (charset ++ '\'' :: '\'' :: value) =
      .ok (⟨charset, charset⟩, '\'' :: '\'' :: value) :=
    takeValue_bare hc (by simp; decide)
  have h2 : takeValue value = .ok (⟨value, value⟩, []) := by
    have h := takeValue_bare (s := []) hv (by simp)
    rwa [List.append_nil] at h
  obtain ⟨c, rest, rfl⟩ := List.exists_cons_of_ne_nil hc.1
  have hne : c ≠ '\'' := by
    rintro rfl
    exact absurd (hc.2 _ (List.mem_cons_self ..)).1 (by decide)
  have hb : ¬ (c :: rest ++ '\'' :: '\'' :: value).head? = some '\'' := by
    simp [hne]
  unfold readValue
  simp only [h1, hb, he, h0, if_false]
  show (takeValue value >>= _) = _
  rw [h2]
  rfl

/-- **An extended value is read with its charset.** -/
theorem readAfterEquals_extended {charset value : Text} (hc : IsBare charset)
    (hv : IsBare value) :
    readAfterEquals { name := name, extended := true } (charset ++ '\'' :: '\'' :: value) =
      .ok ({ name := name, extended := true, charset := charset, value := some value }, []) := by
  have hr : readValue { name := name, extended := true } none (charset ++ '\'' :: '\'' :: value) =
      .ok ({ name := name, extended := true, charset := charset, value := some value }, []) :=
    readValue_extended rfl rfl hc hv
  obtain ⟨c, rest, rfl⟩ := List.exists_cons_of_ne_nil hc.1
  obtain ⟨-, hs, hp, hq⟩ := hc.2 c (List.mem_cons_self ..)
  have ha : comments (c :: rest ++ '\'' :: '\'' :: value) =
      ([], c :: rest ++ '\'' :: '\'' :: value) := by
    refine comments_of_head fun d hd => ?_
    rw [← Option.some.inj hd]
    exact ⟨hs, hp⟩
  unfold readAfterEquals
  rw [afterComments, ha]
  dsimp only
  split
  · rename_i hl
    exact absurd (List.cons.inj hl).1 hq
  · exact hr

theorem isBare_percentEncode {t : Text} (ht : t ≠ []) : IsBare (percentEncode t) := by
  refine ⟨percentEncode_ne_nil ht, fun c hc => ?_⟩
  obtain ⟨h1, h2⟩ := isPercentChar_of_mem hc
  exact forall_of_lt
    (p := fun c => isPercentChar c = true →
      endsExtendedText c = false ∧ isSpaceOrTab c = false ∧ c ≠ '(' ∧ c ≠ '"')
    (by decide +kernel) h2 h1

/-! ## Parameters as they are shown -/

/-- A parameter that is the only one is shown with what it means. -/
theorem showAll_singleton {parameter : TypeParameter} {value : Text}
    (h0 : parameter.sectionNumber = 0) (h : meaning parameter.charset parameter = .ok value) :
    showAll [parameter] = .ok (' ' :: showValue parameter.name value) := by
  have hj : joined [parameter] = .ok value := by
    have hc : counting 0 [parameter] = [parameter] := by
      rw [counting, if_neg (by simp [h0]), counting]
    have hm : (counting 0 [parameter]).mapM (meaning parameter.charset) =
        (.ok [value] : Except TypeFault (List Text)) := by
      rw [hc, List.mapM_cons, h]
      rfl
    have hs : joined [parameter] =
        ((counting 0 [parameter]).mapM (meaning parameter.charset) >>= fun values =>
          pure values.flatten) := by
      unfold joined
      rw [List.mergeSort_singleton]
      obtain ⟨name, number, extended, charset, value⟩ := parameter
      cases extended <;> rfl
    rw [hs, hm]
    exact congrArg Except.ok (List.append_nil value)
  have hn : names [parameter] = [parameter.name] := rfl
  unfold showAll
  rw [hn, List.mapM_cons, List.mapM_nil, List.filter_cons_of_pos (by simp), List.filter_nil, hj]
  exact congrArg (fun shown : Text => Except.ok (' ' :: shown)) List.intercalate_singleton

/-- **A percent-encoded value is decoded to the octets of the text.** -/
theorem decode_percentEncode (t : Text) :
    decode "utf-8".toList (percentEncode t) = .ok (Held.ofOctets (Utf8.encode t)) := by
  obtain ⟨entry, he, hc⟩ := findCharset?_utf8
  have hn : "utf-8".toList.contains '\x00' = false := by decide
  have ho : Held.occursIn (percentEncode t) = false := by
    refine List.any_eq_false.mpr fun c hc => ?_
    rw [Held.octet?_of_ascii (isPercentChar_of_mem hc).2]
    decide
  have hd : decodeHeld "utf-8".toList (Utf8.encode t) = .ok (Held.ofOctets (Utf8.encode t)) := by
    unfold decodeHeld
    rw [hn, he, if_neg (by decide)]
    cases Utf8.encode t with
    | nil => rfl
    | cons b rest =>
      rw [if_neg (by simp)]
      simp only [hc]
  unfold decode
  rw [ho, if_neg (by decide), OutlookMessage.decode_percentEncode, hd]
  rfl

end TypeParameter

namespace PartType

open TypeParameter

/-! ## Headers -/

variable {type name : Text}

/-- A type is shown with what follows it. -/
theorem showHeader_type (ht : IsTypeName type) {s shown : Text} (hs : ∀ c ∈ s.head?, c = ';')
    (h : showRest s = .ok shown) : showHeader (type ++ s) = .ok (type ++ shown) := by
  obtain ⟨kind, subtype, hk, hsub, rfl⟩ := ht
  have h1 : token? (kind ++ '/' :: (subtype ++ s)) = some (kind, '/' :: (subtype ++ s)) :=
    token?_append hk (by simp; decide)
  have h2 : token? (subtype ++ s) = some (subtype, s) := by
    refine token?_append hsub fun c hc => ?_
    rw [hs c hc]
    decide
  have he : kind ++ '/' :: subtype ++ s = kind ++ '/' :: (subtype ++ s) := by simp
  unfold showHeader
  rw [he, h1]
  simp only [h2, h]
  rfl

/-- What follows the type is shown as a parameter if it is read as one. -/
theorem showRest_parameter {t value : Text} {parameter : TypeParameter} (ht : t ≠ [])
    (hr : read t = .ok (parameter, [])) (h0 : parameter.sectionNumber = 0)
    (h : meaning parameter.charset parameter = .ok value) :
    showRest (';' :: t) = .ok (';' :: ' ' :: showValue parameter.name value) := by
  have hj : junk (';' :: t) = ([], ';' :: t) := junk_of_head (by simp)
  unfold showRest
  rw [hj]
  show (readAll t >>= _) = _
  rw [readAll_of_read ht hr]
  show (showAll [parameter] >>= _) = _
  rw [showAll_singleton h0 h]
  rfl

/-- Settling what is shown leaves a type with one parameter. -/
theorem settle_shown (ht : IsTypeName type) (hn : IsName name) (value : Text) :
    ∃ settled, Held.settle (type ++ ';' :: ' ' :: showValue name value) =
      type ++ ';' :: ' ' :: TypeField.shownField name settled := by
  have ha : IsAscii (type ++ ';' :: ' ' :: name) :=
    List.forall_mem_append.mpr ⟨TypeField.isAscii_of_isTypeName ht,
      List.forall_mem_cons.mpr ⟨by decide, List.forall_mem_cons.mpr ⟨by decide, hn.ascii⟩⟩⟩
  rw [TypeField.showValue_eq]
  split
  · exact ⟨none, Held.settle_of_isAscii ha⟩
  · have hp : IsAscii ((type ++ ';' :: ' ' :: name) ++ ['=']) :=
      List.forall_mem_append.mpr ⟨ha, by decide⟩
    obtain ⟨shown, hs⟩ := Held.settle_showQuoted hp value
    have he : ∀ t : Text, ((type ++ ';' :: ' ' :: name) ++ ['=']) ++ '"' :: closing t =
        type ++ ';' :: ' ' :: (name ++ '=' :: '"' :: closing t) := by simp
    rw [he, he] at hs
    exact ⟨some shown, hs⟩

theorem ofValue_of_showHeader {value shown : Text} (hb : NoBreak value)
    (hs : showHeader value = .ok shown) : ofValue value = ofShown (Held.settle shown) := by
  have hf : value.filter (fun c => c ≠ '\r' && c ≠ '\n') = value :=
    List.filter_eq_self.mpr fun c hc => by simp [hb c hc]
  unfold ofValue
  rw [hf, hs]
  rfl

/-- The name of a parameter as it is written and read: it has no marks of extended values in it. -/
structure IsAttribute (name : Text) : Prop extends IsName name where
  noMarks : ∀ c ∈ name, endsAttribute c = false

/-- What is shown of a type with a parameter that is written here. -/
theorem showHeader_written (ht : IsTypeName type) {name : String} (hn : IsAttribute name.toList)
    (value : Text) :
    ∃ shown, showHeader (type ++ parameterText name value) = .ok (type ++ shown) ∧
      (shown = [] ∨ ∃ meant, shown = ';' :: ' ' :: showValue name.toList meant) := by
  rw [parameterText_eq]
  split
  · exact ⟨[], showHeader_type ht (by simp) rfl, .inl rfl⟩
  · rename_i hne
    split
    · -- what the quotation is taken to mean may differ from the value, but it takes all of it
      obtain ⟨meant, hm⟩ : ∃ meant, quotation (closing value) = (meant, []) :=
        ⟨_, Prod.ext rfl (quotation_closing value)⟩
      have hr : read (' ' :: (name.toList ++ '=' :: '"' :: closing value)) =
          .ok ({ name := name.toList, value := some meant }, []) := by
        rw [read_of_equals hn.toIsName hn.noMarks, readAfterEquals_quoted hm]
      exact ⟨_, showHeader_type ht (by simp) (showRest_parameter (by simp) hr rfl rfl),
        .inr ⟨meant, rfl⟩⟩
    · have hv : value ≠ [] := by simpa using hne
      have hr : read (' ' :: (name.toList ++ '*' :: '=' :: extendedValue value)) =
          .ok ({ name := name.toList, extended := true, charset := "utf-8".toList,
                 value := some (percentEncode value) }, []) := by
        have hu : IsBare "utf-8".toList := by decide
        rw [read_of_asterisk hn.toIsName hn.noMarks]
        exact readAfterEquals_extended hu (isBare_percentEncode hv)
      rw [← List.append_cons]
      exact ⟨_, showHeader_type ht (by simp)
        (showRest_parameter (by simp) hr rfl (decode_percentEncode value)), .inr ⟨_, rfl⟩⟩

/-- **A type that is written here is read as such, and no boundary with it**, unless the parameter
is named so. -/
theorem ofValue_written (ht : IsTypeName type) {name : String} (hn : IsAttribute name.toList)
    (hb : TypeField.isBoundaryName name.toList = false) {value : Text}
    (hv : NoBreak (type ++ parameterText name value)) :
    ofValue (type ++ parameterText name value) = .ok ⟨Text.lower type, none⟩ := by
  obtain ⟨shown, hs, rfl | ⟨meant, rfl⟩⟩ := showHeader_written ht hn value
  · rw [ofValue_of_showHeader hv hs, List.append_nil,
      Held.settle_of_isAscii (TypeField.isAscii_of_isTypeName ht), ofShown_type ht]
  · obtain ⟨settled, he⟩ := settle_shown ht hn.toIsName meant
    rw [ofValue_of_showHeader hv hs, he, ofShown_parameter ht hn.toIsName hb]

theorem isAttribute_boundary : IsAttribute "boundary".toList := ⟨isName_boundary, by decide⟩

/-- A quoted separator is read as it is. -/
theorem read_boundary {boundary : Text} (hb : IsBoundary boundary) :
    read (' ' :: ("boundary".toList ++ '=' :: '"' :: closing boundary)) =
      .ok ({ name := "boundary".toList, value := some boundary }, []) := by
  have hm : quotation (closing boundary) = (boundary, []) := by
    obtain ⟨c, rest, hr⟩ := List.exists_cons_of_ne_nil hb.ne_nil
    have hc : c = '-' := by
      have hh := hb.head
      rw [hr] at hh
      exact Option.some.inj hh
    rw [hb.closing_eq, hr]
    refine quotation_plain (by rw [hc]; decide) ?_
    rw [← hr]
    exact hb.forall_mem (by decide +kernel)
  rw [read_of_equals isName_boundary isAttribute_boundary.noMarks, readAfterEquals_quoted hm]

/-- A quoted separator is settled, as it is ASCII. -/
theorem settle_boundary (ht : IsTypeName type) {boundary : Text} (hb : IsBoundary boundary) :
    Held.settle (type ++ ';' :: ' ' :: TypeField.shownField "boundary".toList (some boundary)) =
      type ++ ';' :: ' ' :: TypeField.shownField "boundary".toList (some boundary) := by
  have hc : IsAscii (closing boundary) := by
    rw [hb.closing_eq]
    exact List.forall_mem_append.mpr ⟨hb.isAscii, by decide⟩
  have hf : IsAscii ("; boundary=\"".toList ++ closing boundary) :=
    List.forall_mem_append.mpr ⟨by decide, hc⟩
  exact Held.settle_of_isAscii
    (List.forall_mem_append.mpr ⟨TypeField.isAscii_of_isTypeName ht, hf⟩)

/-- **A type with a separator is read with the separator.** -/
theorem ofValue_boundary (ht : IsTypeName type)
    (hk : kindOf (Text.lower type) = "multipart".toList) {boundary : Text}
    (hb : IsBoundary boundary)
    (hv : NoBreak (type ++ parameterText "boundary" boundary)) :
    ofValue (type ++ parameterText "boundary" boundary) =
      .ok ⟨Text.lower type, some boundary⟩ := by
  have hs : showHeader (type ++ parameterText "boundary" boundary) =
      .ok (type ++ ';' :: ' ' :: showValue "boundary".toList boundary) := by
    rw [parameterText_boundary hb]
    exact showHeader_type ht (by simp)
      (showRest_parameter (by simp) (read_boundary hb) rfl rfl)
  have he : showValue "boundary".toList boundary =
      TypeField.shownField "boundary".toList (some boundary) := by
    rw [TypeField.showValue_eq, if_neg (by simpa using hb.ne_nil)]
  rw [ofValue_of_showHeader hv hs, he, settle_boundary ht hb, ofShown_boundary ht hk hb]

end PartType
end MailScreen
