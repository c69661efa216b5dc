import MailScreen.Message.TypeHeader
import MailScreen.Proofs.Message.AttachmentHeaders
import MailScreen.Proofs.Message.Quotation
import MailScreen.Proofs.Text.Join

/-!
# What a shown type header states

A type header that has been written out again is cut at its semicolons outside quotation marks. With
one parameter it comes to two fields (`TypeField.allIn_parameter`): a quotation mark inside a quoted
value has a backslash before it, and a mark that does not count cannot end the value. **The
parameter is therefore the only one**, and it states a boundary exactly if it is named so
(`PartType.ofShown_parameter`, `PartType.ofShown_boundary`).
-/
namespace MailScreen

open Ascii Header Lexeme OutlookMessage

namespace TypeField

/-! ## Fields -/

theorem cutFrom_append {s : Text} (hs : ∀ c ∈ s, c ≠ ';' ∧ c ≠ '"' ∧ c ≠ '\\') (piece t : Text) :
    cutFrom piece false false (s ++ t) = cutFrom (s.reverse ++ piece) false false t := by
  induction s generalizing piece with
  | nil => rfl
  | cons c rest ih =>
    obtain ⟨h1, h2, h3⟩ := hs c (List.mem_cons_self ..)
    have he : (c == '\\') = false := beq_eq_false_iff_ne.mpr h3
    rw [List.cons_append, cutFrom, if_neg (by simp [h1]), if_neg (by simp [h2]), he,
      ih fun d hd => hs d (List.mem_cons_of_mem c hd), List.reverse_cons, List.append_assoc]
    rfl

/-- A text without marks is one piece. -/
theorem cutFrom_plain {s : Text} (hs : ∀ c ∈ s, c ≠ ';' ∧ c ≠ '"' ∧ c ≠ '\\') :
    cutFrom [] false false s = [s] := by
  have h := cutFrom_append hs [] []
  rwa [List.append_nil, List.append_nil, cutFrom, List.reverse_reverse] at h

/-- A text without marks is a piece up to the semicolon after it. -/
theorem cutFrom_semicolon {s : Text} (hs : ∀ c ∈ s, c ≠ ';' ∧ c ≠ '"' ∧ c ≠ '\\') (t : Text) :
    cutFrom [] false false (s ++ ';' :: t) = s :: cutFrom [] false false t := by
  rw [cutFrom_append hs, cutFrom, if_pos (by decide), List.append_nil, List.reverse_reverse]

/-- **A quoted text ends its piece**: no mark in it counts. -/
theorem cutFrom_closing (t piece : Text) (escaped : Bool) :
    cutFrom piece true escaped (closing t) = [piece.reverse ++ closing t] := by
  induction t generalizing piece escaped with
  | nil => simp [closing_nil, cutFrom]
  | cons c t ih =>
    by_cases hc : c = '\\' ∨ c = '"'
    · -- the backslash makes the mark after it one that does not count
      rw [closing_cons_mark hc, cutFrom, if_neg (by simp), if_neg (by simp), cutFrom,
        if_neg (by simp), if_neg (by simp), ih]
      simp
    · rw [not_or] at hc
      rw [closing_cons hc.1 hc.2, cutFrom, if_neg (by simp), if_neg (by simp [hc.2]), ih]
      simp

/-- A text without marks and a quoted text after it are one piece. -/
theorem cutFrom_quotation {s : Text} (hs : ∀ c ∈ s, c ≠ ';' ∧ c ≠ '"' ∧ c ≠ '\\') (t : Text) :
    cutFrom [] false false (s ++ '"' :: closing t) = [s ++ '"' :: closing t] := by
  rw [cutFrom_append hs, cutFrom, if_neg (by decide), if_pos (by decide), Bool.not_false,
    cutFrom_closing, List.append_nil, List.reverse_cons, List.reverse_reverse, ← List.append_cons]

/-- The characters of a type, none of which means anything to a header but the slash. -/
theorem marks_of_isTypeName {type : Text} (ht : IsTypeName type) :
    ∀ c ∈ type, (c ≠ ';' ∧ c ≠ '"' ∧ c ≠ '\\') ∧ c ≠ '=' := by
  obtain ⟨kind, subtype, hk, hs, rfl⟩ := ht
  intro c hc
  rcases List.mem_append.mp hc with hc | hc
  · exact hk.forall_mem (p := fun c => (c ≠ ';' ∧ c ≠ '"' ∧ c ≠ '\\') ∧ c ≠ '=')
      (by decide +kernel) c hc
  · rcases List.mem_cons.mp hc with rfl | hc
    · decide
    · exact hs.forall_mem (p := fun c => (c ≠ ';' ∧ c ≠ '"' ∧ c ≠ '\\') ∧ c ≠ '=')
        (by decide +kernel) c hc

theorem trim_of_isStart {t : Text} (ht : IsStart t) : Text.trim t = t :=
  Text.trim_of_ends (fun c hc => ht.noBlank c (List.mem_of_head? hc))
    fun c hc => ht.noBlank c (List.mem_of_getLast? hc)

theorem trim_of_isName {name : Text} (hn : IsName name) : Text.trim name = name :=
  trim_of_isStart ⟨hn.ne_nil, isBlank_of_isToken hn.toIsToken⟩

theorem trim_space (t : Text) : Text.trim (' ' :: t) = Text.trim t := by
  rw [Text.trim, Text.trimBy, List.dropWhile_cons_of_pos (by decide)]
  rfl

/-- A field as it is shown: a name, and possibly a value in quotation marks. -/
def shownField (name : Text) : Option Text → Text
  | none => name
  | some value => name ++ '=' :: '"' :: closing value

theorem showValue_eq (name value : Text) :
    TypeParameter.showValue name value =
      shownField name (if value.isEmpty then none else some value) := by
  unfold TypeParameter.showValue
  split
  · rfl
  · rw [showQuoted_eq]
    rfl

variable {type name : Text}

/-- What stands before the first semicolon is a field without a value. -/
theorem ofText_type (ht : IsTypeName type) : ofText type = ⟨type, []⟩ := by
  have he : '=' ∉ type := fun h => (marks_of_isTypeName ht '=' h).2 rfl
  rw [ofText, Text.cut?_of_notMem he, trim_of_isStart ht.isStart]

theorem allIn_type (ht : IsTypeName type) : allIn type = [⟨type, []⟩] := by
  rw [allIn, cutFrom_plain fun c hc => (marks_of_isTypeName ht c hc).1, List.map_singleton,
    ofText_type ht]

/-- **A type with one parameter comes to two fields.** -/
theorem allIn_parameter (ht : IsTypeName type) (hn : IsName name) (value : Option Text) :
    allIn (type ++ ';' :: ' ' :: shownField name value) =
      [⟨type, []⟩, ⟨name, (value.map fun value => Text.trim ('"' :: closing value)).getD []⟩] := by
  have hm : ∀ c ∈ ' ' :: name, (c ≠ ';' ∧ c ≠ '"' ∧ c ≠ '\\') ∧ c ≠ '=' := by
    rw [List.forall_mem_cons]
    exact ⟨by decide, hn.forall_mem (by decide +kernel)⟩
  have he : '=' ∉ ' ' :: name := fun h => (hm '=' h).2 rfl
  have hs : Text.trim (' ' :: name) = name := by
    rw [trim_space, trim_of_isName hn]
  rw [allIn, cutFrom_semicolon fun c hc => (marks_of_isTypeName ht c hc).1, List.map_cons,
    ofText_type ht]
  cases value with
  | none =>
    rw [shownField, cutFrom_plain fun c hc => (hm c hc).1, List.map_singleton, ofText,
      Text.cut?_of_notMem he, hs]
    rfl
  | some value =>
    have hq : ' ' :: (name ++ '=' :: '"' :: closing value) =
        ((' ' :: name) ++ ['=']) ++ '"' :: closing value := List.append_cons (' ' :: name) ..
    have hp : ∀ c ∈ (' ' :: name) ++ ['='], c ≠ ';' ∧ c ≠ '"' ∧ c ≠ '\\' :=
      List.forall_mem_append.mpr ⟨fun c hc => (hm c hc).1, by decide⟩
    have hc : Text.cut? '=' (((' ' :: name) ++ ['=']) ++ '"' :: closing value) =
        some (' ' :: name, '"' :: closing value) := by
      rw [← List.append_cons]
      exact Text.cut?_append he _
    rw [shownField, hq, cutFrom_quotation hp, List.map_singleton, ofText, hc]
    simp only [hs, hn.lower]
    rfl

/-! ## The boundary -/

theorem isAscii_of_isTypeName (ht : IsTypeName type) : IsAscii type := by
  obtain ⟨kind, subtype, hk, hs, rfl⟩ := ht
  exact List.forall_mem_append.mpr ⟨hk.ascii, List.forall_mem_cons.mpr ⟨by decide, hs.ascii⟩⟩

/-- A type in lower case has the one slash of the type. -/
theorem count_slash_lower (ht : IsTypeName type) : (Text.lower type).count '/' = 1 := by
  have ha := isAscii_of_isTypeName ht
  have hl : (Text.lower type).count '/' = type.count '/' := by
    rw [lower_of_isAscii ha, List.count_eq_countP, List.countP_map, List.count_eq_countP]
    refine List.countP_congr fun c hc => ?_
    simpa using lowerChar_eq_iff (ha c hc) (by decide)
  obtain ⟨kind, subtype, hk, hs, rfl⟩ := ht
  have h0 : ∀ {t : Text}, IsToken t → t.count '/' = 0 := by
    intro t ht
    refine List.count_eq_zero.mpr fun hm => ?_
    exact absurd (ht.chars '/' hm) (by decide)
  rw [hl, List.count_append, List.count_cons_self, h0 hk, h0 hs]

theorem isBoundaryName_type (ht : IsTypeName type) : isBoundaryName type = false := by
  have hm : '/' ∈ Text.lower type := by
    rw [← List.count_pos_iff, count_slash_lower ht]
    exact Nat.one_pos
  refine beq_eq_false_iff_ne.mpr fun h => ?_
  rw [h] at hm
  exact absurd hm (by decide)

/-- Where nothing is stated in pieces, the boundary is that of the first field named so. -/
theorem boundary?_of_pieces {first : TypeField} {rest : List TypeField} (h : pieces rest = .ok []) :
    boundary? (first :: rest) =
      .ok (((first :: rest).find? fun field => isBoundaryName field.name).map fun field =>
        Text.dropEndWhile isBlank (unquote (unquote field.value))) := by
  have hp : pieces ((first :: rest).drop 1) = .ok [] := h
  unfold boundary?
  rw [hp]
  cases (first :: rest).find? fun field => isBoundaryName field.name with
  | none => rfl
  | some field => rfl

theorem boundary?_type (ht : IsTypeName type) : boundary? [⟨type, []⟩] = .ok none := by
  rw [boundary?_of_pieces rfl, List.find?_cons_of_neg (by simp [isBoundaryName_type ht])]
  rfl

/-- **A type with one plain parameter states a boundary exactly if the parameter is named so.** -/
theorem boundary?_pair (ht : IsTypeName type) (hn : IsName name) (value : Text) :
    boundary? [⟨type, []⟩, ⟨name, value⟩] = .ok (
      if isBoundaryName name then some (Text.dropEndWhile isBlank (unquote (unquote value)))
      else none) := by
  have h1 : piece? ⟨name, value⟩ = .ok none := by
    rw [piece?, splitName?_plain hn.ne_nil hn.plain]
  have hp : pieces [⟨name, value⟩] = .ok [] := by
    rw [pieces, List.foldlM_cons, h1]
    rfl
  rw [boundary?_of_pieces hp, List.find?_cons_of_neg (by simp [isBoundaryName_type ht])]
  cases hb : isBoundaryName name with
  | true =>
    rw [List.find?_cons_of_pos (by simpa using hb)]
    rfl
  | false =>
    rw [List.find?_cons_of_neg (by simp [hb])]
    rfl

/-- Text without backslashes has no escapes to take away. -/
theorem unescape_of_notMem {t : Text} (ht : '\\' ∉ t) :
    unquote.unescapeSlashes t = t ∧ unquote.unescapeMarks t = t := by
  induction t with
  | nil => exact ⟨rfl, rfl⟩
  | cons c rest ih =>
    rw [List.mem_cons, not_or] at ht
    obtain ⟨h1, h2⟩ := ih ht.2
    refine ⟨?_, ?_⟩
    · rw [unquote.unescapeSlashes, h1]
      exact fun _ h => absurd h.symm ht.1
    · rw [unquote.unescapeMarks, h2]
      exact fun _ h => absurd h.symm ht.1

theorem unquote_quotation {t : Text} (ht : '\\' ∉ t) : unquote ('"' :: (t ++ ['"'])) = t := by
  obtain ⟨h1, h2⟩ := unescape_of_notMem ht
  have hl : ('"' :: (t ++ ['"'])).getLast? = some '"' := by
    rw [← List.cons_append, List.getLast?_concat]
  unfold unquote
  rw [if_neg (by simp), if_pos (by rw [hl]; rfl)]
  simp only [List.drop_succ_cons, List.drop_zero, List.dropLast_concat, h1, h2]

end TypeField

namespace OutlookMessage

/-- The characters that separators are made of. -/
def isBoundaryChar (c : Char) : Bool :=
  c.toNat < 0x80 && (c.isAlphanum || ['-', '=', '_'].contains c)

/-- A separator as it is made up for a message: it starts with a hyphen, and nothing in it means
anything to a header. -/
structure IsBoundary (t : Text) : Prop where
  head : t.head? = some '-'
  chars : ∀ c ∈ t, isBoundaryChar c = true

instance (t : Text) : Decidable (IsBoundary t) :=
  decidable_of_iff (t.head? = some '-' ∧ ∀ c ∈ t, isBoundaryChar c = true)
    ⟨fun h => ⟨h.1, h.2⟩, fun h => ⟨h.head, h.chars⟩⟩

theorem IsBoundary.ne_nil {t : Text} (ht : IsBoundary t) : t ≠ [] := by
  rintro rfl
  exact absurd ht.head (by decide)

theorem IsBoundary.isAscii {t : Text} (ht : IsBoundary t) : IsAscii t := by
  intro c hc
  have h := ht.chars c hc
  rw [isBoundaryChar, Bool.and_eq_true, decide_eq_true_eq] at h
  exact h.1

/-- What holds of the characters of separators in ASCII holds of those of a separator. -/
theorem IsBoundary.forall_mem {p : Char → Prop} {t : Text} (ht : IsBoundary t)
    (h : ∀ n < 0x80, isBoundaryChar (Char.ofNat n) = true → p (Char.ofNat n)) :
    ∀ c ∈ t, p c := fun c hc =>
  forall_of_lt (p := fun c => isBoundaryChar c = true → p c) h (ht.isAscii c hc) (ht.chars c hc)

/-- A separator is the same in quotation marks. -/
theorem IsBoundary.closing_eq {t : Text} (ht : IsBoundary t) : closing t = t ++ ['"'] := by
  have hq : ∀ c ∈ t, quoteChar c = [c] := ht.forall_mem (by decide +kernel)
  rw [closing, List.flatMap_congr hq, List.flatMap_singleton']

theorem isName_boundary : IsName "boundary".toList := by decide

/-- The parameter that states a separator, which is quoted. -/
theorem parameterText_boundary {boundary : Text} (hb : IsBoundary boundary) :
    parameterText "boundary" boundary =
      ';' :: ' ' :: ("boundary".toList ++ '=' :: '"' :: closing boundary) := by
  have ha : boundary.all (·.toNat < 0x80) = true :=
    List.all_eq_true.mpr fun c hc => by simpa using hb.isAscii c hc
  rw [parameterText_eq, if_neg (by simpa using hb.ne_nil), if_pos ha]
  rfl

end OutlookMessage

namespace PartType

variable {type name : Text}

/-- The type that is stated before the first semicolon, and the boundary that is stated after it. -/
theorem ofShown_eq {shown : Text} (ht : IsTypeName type)
    (hs : shown.takeWhile (· ≠ ';') = type) :
    ofShown shown =
      if kindOf (Text.lower type) = "multipart".toList then
        (TypeField.boundary? (TypeField.allIn shown)).map fun boundary =>
          ⟨Text.lower type, boundary⟩
      else .ok ⟨Text.lower type, none⟩ := by
  unfold ofShown
  simp only [hs, TypeField.trim_of_isStart ht.isStart, TypeField.count_slash_lower ht, if_true]
  split
  · cases TypeField.boundary? (TypeField.allIn shown) <;> rfl
  · rfl

theorem takeWhile_type (ht : IsTypeName type) {s : Text} (hs : ∀ c ∈ s.head?, c = ';') :
    (type ++ s).takeWhile (· ≠ ';') = type := by
  refine (Text.takeWhile_append_stop ?_ ?_).1
  · intro c hc
    simpa using (TypeField.marks_of_isTypeName ht c hc).1.1
  · intro c hc
    rw [hs c hc]
    decide

/-- A type without parameters states no boundary. -/
theorem ofShown_type (ht : IsTypeName type) : ofShown type = .ok ⟨Text.lower type, none⟩ := by
  have hs := takeWhile_type ht (s := []) (by simp)
  rw [List.append_nil] at hs
  rw [ofShown_eq ht hs, TypeField.allIn_type ht, TypeField.boundary?_type ht]
  split <;> rfl

/-- **A type with one parameter states what that is the boundary of**, if it is named so. -/
theorem ofShown_parameter (ht : IsTypeName type) (hn : IsName name)
    (hb : TypeField.isBoundaryName name = false) (value : Option Text) :
    ofShown (type ++ ';' :: ' ' :: TypeField.shownField name value) =
      .ok ⟨Text.lower type, none⟩ := by
  have hs := takeWhile_type ht (s := ';' :: ' ' :: TypeField.shownField name value) (by simp)
  rw [ofShown_eq ht hs, TypeField.allIn_parameter ht hn, TypeField.boundary?_pair ht hn, hb]
  split <;> rfl

/-- **A quoted separator is stated as it is.** -/
theorem ofShown_boundary (ht : IsTypeName type)
    (hk : kindOf (Text.lower type) = "multipart".toList) {boundary : Text}
    (hb : IsBoundary boundary) :
    ofShown (type ++ ';' :: ' ' :: TypeField.shownField "boundary".toList (some boundary)) =
      .ok ⟨Text.lower type, some boundary⟩ := by
  have hs := takeWhile_type ht
    (s := ';' :: ' ' :: TypeField.shownField "boundary".toList (some boundary)) (by simp)
  have hm : ∀ c ∈ boundary, isBlank c = false ∧ c ≠ '\\' := hb.forall_mem (by decide +kernel)
  have h1 : Text.trim ('"' :: closing boundary) = '"' :: (boundary ++ ['"']) := by
    rw [hb.closing_eq]
    refine Text.trim_of_ends ?_ ?_
    · intro c hc
      rw [← Option.some.inj hc]
      decide
    · intro c hc
      rw [← List.cons_append, List.getLast?_concat] at hc
      rw [← Option.some.inj hc]
      decide
  have h2 : TypeField.unquote boundary = boundary := by
    unfold TypeField.unquote
    rw [hb.head]
    split
    · rfl
    · rfl
  have h3 : Text.dropEndWhile isBlank boundary = boundary := by
    rw [Text.dropEndWhile, Text.dropWhile_of_head, List.reverse_reverse]
    exact fun c hc => (hm c (List.mem_reverse.mp (List.mem_of_head? hc))).1
  have hv : TypeField.unquote ('"' :: (boundary ++ ['"'])) = boundary :=
    TypeField.unquote_quotation fun h => (hm '\\' h).2 rfl
  have hi : TypeField.isBoundaryName "boundary".toList = true := by decide +kernel
  rw [ofShown_eq ht hs, TypeField.allIn_parameter ht isName_boundary,
    TypeField.boundary?_pair ht isName_boundary, if_pos hk, if_pos hi, Option.map_some,
    Option.getD_some, h1, hv, h2, h3]
  rfl

end PartType
end MailScreen
