import MailScreen.Proofs.Charset.Utf8
import MailScreen.Proofs.Header.Items
import MailScreen.Proofs.Header.Unusable
import MailScreen.Proofs.Message.Percent

/-!
# Headers with one parameter

What a structured header comes to that holds a primary value and at most one parameter, which is
written in quotation marks or percent-encoded in UTF-8. What is percent-encoded is read as it was.
What is quoted is read as it was except for line breaks, which are unfolded before anything else is
read (`Header.parameters_of_quoted`, `Header.parameters_of_extended`).
-/
namespace MailScreen.Header

open Ascii OutlookMessage

/-! ## Extended values -/

/-- An extended value in UTF-8. -/
def extendedValue (t : Text) : Text := "utf-8''".toList ++ percentEncode t

theorem forall_mem_extendedValue {p : Char → Prop} (t : Text)
    (hp : ∀ n < 0x80, isPercentChar (Char.ofNat n) = true ∨ Char.ofNat n = '\'' →
      p (Char.ofNat n)) :
    ∀ c ∈ extendedValue t, p c := by
  intro c hc
  have hm : c.toNat < 0x80 ∧ (isPercentChar c = true ∨ c = '\'') := by
    rcases List.mem_append.mp hc with hc | hc
    · have hu : ∀ c ∈ "utf-8''".toList, c.toNat < 0x80 ∧ (isPercentChar c = true ∨ c = '\'') := by
        decide
      exact hu c hc
    · obtain ⟨h1, h2⟩ := isPercentChar_of_mem hc
      exact ⟨h2, .inl h1⟩
  exact forall_of_lt (p := fun c => isPercentChar c = true ∨ c = '\'' → p c) hp hm.1 hm.2

/-- An extended value is bare and has none of the characters that mean anything in one. -/
theorem isBareChar_of_mem_extendedValue (t : Text) : ∀ c ∈ extendedValue t, isBareChar c = true :=
  forall_mem_extendedValue t (by decide +kernel)

/-- A parameter is formatted in one of two forms. -/
theorem formatParameter_eq (name : String) (value : Text) :
    formatParameter name value =
      if value.all (·.toNat < 0x80) then
        name.toList ++ '=' :: '"' :: (value.flatMap quoteChar ++ ['"'])
      else (name.toList ++ ['*']) ++ '=' :: extendedValue value := by
  have hquoted (n v : Text) :
      n ++ ['=', '"'] ++ v ++ ['"'] = n ++ '=' :: '"' :: (v ++ ['"']) := by simp
  have hextended (n u v : Text) :
      n ++ '*' :: '=' :: u ++ v = (n ++ ['*']) ++ '=' :: (u ++ v) := by simp
  unfold formatParameter
  split
  · exact hquoted name.toList (value.flatMap quoteChar)
  · exact hextended name.toList "utf-8''".toList (percentEncode value)

theorem takeValue_extended (name t : Text) :
    takeValue name (extendedValue t) = (.parameter name (extendedValue t), some []) := by
  have hh : ∀ c ∈ (extendedValue t).head?, c ≠ '"' ∧ c ≠ '(' := by
    intro c hc
    obtain rfl : 'u' = c := Option.some.inj hc
    decide
  have hn : extendedValue t ≠ [] := List.append_ne_nil_of_left_ne_nil (by decide) _
  have hr : takeBare [] = ([], []) := rfl
  have h := takeValue_bare name hn (isBareChar_of_mem_extendedValue t) hh hr
  rwa [List.append_nil] at h

/-! ## Names -/

theorem takeWhile_name {name s : Text} (hs : '*' ∉ name) (ha : ∀ c ∈ s.head?, c = '*') :
    (name ++ s).takeWhile (· ≠ '*') = name ∧ (name ++ s).dropWhile (· ≠ '*') = s := by
  refine Text.takeWhile_append_stop ?_ ?_
  · intro c hc
    rw [decide_eq_true_eq]
    rintro rfl
    exact hs hc
  · intro c hc
    rw [ha c hc]
    decide

theorem splitName?_plain {name : Text} (hn : name ≠ []) (hs : '*' ∉ name) :
    splitName? name = some (name, .plain) := by
  obtain ⟨h1, h2⟩ := takeWhile_name (s := []) hs (by simp)
  rw [List.append_nil] at h1 h2
  simp only [splitName?, h1, h2, List.isEmpty_eq_false_iff.mpr hn, Bool.false_eq_true, if_false]

theorem splitName?_extended {name : Text} (hn : name ≠ []) (hs : '*' ∉ name) :
    splitName? (name ++ ['*']) = some (name, .extended) := by
  obtain ⟨h1, h2⟩ := takeWhile_name (s := ['*']) hs (by simp)
  simp only [splitName?, h1, h2, List.isEmpty_eq_false_iff.mpr hn, Bool.false_eq_true, if_false]

theorem splitCharset_extendedValue (t : Text) :
    splitCharset (extendedValue t) = (some "utf-8".toList, percentEncode t) := rfl

theorem decode_utf8 (label : Text) (bytes : Octets) :
    Charset.utf8.decode label bytes = .ok (Utf8.decode bytes) := by
  cases bytes with
  | nil => rfl
  | cons b rest => rfl

/-- The name that extended values state is that of UTF-8. -/
theorem findCharset?_utf8 :
    ∃ entry, findCharset? "utf-8".toList = some entry ∧ entry.charset = .utf8 := by
  have hf : (findCharset? "utf-8".toList).map (·.charset) = some .utf8 := by decide +kernel
  exact Option.map_eq_some_iff.mp hf

theorem charsetOf_utf8 : ∃ label, charsetOf (some "utf-8".toList) = .ok (label, .utf8) := by
  obtain ⟨entry, he, hc⟩ := findCharset?_utf8
  have hn : "utf-8".toList.contains '\x00' = false := by decide
  refine ⟨entry.label.toList, ?_⟩
  simp only [charsetOf, hn, Bool.false_eq_true, if_false, he, hc]

/-- What is written in UTF-8 and percent-encoded is decoded to what it was. -/
theorem decodeExtended_extendedValue (t : Text) : decodeExtended (extendedValue t) = .ok t := by
  obtain ⟨label, hc⟩ := charsetOf_utf8
  simp only [decodeExtended, splitCharset_extendedValue, hc]
  show (Charset.utf8.decode _ (Percent.decode (percentEncode t))).mapError _ = _
  rw [decode_utf8, decode_percentEncode, Utf8.decode_encode]
  rfl

/-- The name of a parameter that is written here: a token without asterisks, in lower case. -/
structure IsName (name : Text) : Prop extends IsToken name where
  plain : '*' ∉ name
  lower : Text.lower name = name

instance (name : Text) : Decidable (IsName name) :=
  decidable_of_iff (IsToken name ∧ '*' ∉ name ∧ Text.lower name = name)
    ⟨fun h => ⟨h.1, h.2.1, h.2.2⟩, fun h => ⟨h.toIsToken, h.plain, h.lower⟩⟩

variable {settings : Settings} {name : Text}

/-- The name of an extended form is a token. -/
theorem IsName.isToken_extended (hn : IsName name) : IsToken (name ++ ['*']) :=
  ⟨by simp, List.forall_mem_append.mpr ⟨hn.ascii, by decide⟩,
    List.forall_mem_append.mpr ⟨hn.chars, by decide⟩⟩

theorem IsName.lower_extended (hn : IsName name) : Text.lower (name ++ ['*']) = name ++ ['*'] := by
  rw [lower_of_isAscii hn.isToken_extended.ascii, List.map_append, ← lower_of_isAscii hn.ascii,
    hn.lower]
  rfl

/-- Where encoded words are not decoded, one parameter is what its form comes to. -/
theorem parameters_of_item {t value : Text} (hd : settings.decodeEncodedWords = false)
    (hi : items t = [.parameter name value]) :
    (parameters settings t).result =
      (Forms.add {} name value).result >>= fun forms => forms.values := by
  have hf : readForms [(name, value)] = (Forms.add {} name value).result := by
    rw [readForms, Noted.result_foldlM]
    show ((Forms.add {} name value).result >>= fun forms => pure forms) = _
    cases (Forms.add {} name value).result <;> rfl
  rw [parameters_result, hi, combine_result, show writtenPairs _ = [(name, value)] from rfl, hf, hd]
  cases (Forms.add {} name value).result with
  | error fault => rfl
  | ok forms =>
    show (forms.values >>= fun values => Except.ok values) = forms.values
    cases forms.values <;> rfl

/-- **A quoted parameter is read as it was before it was quoted.** -/
theorem parameters_of_quoted (hd : settings.decodeEncodedWords = false) (hn : IsName name)
    (t : Text) :
    (parameters settings ("; ".toList ++ (name ++ '=' :: '"' ::
      (t.flatMap quoteChar ++ ['"'])))).result = .ok [(name, t)] := by
  have hi : items ("; ".toList ++ (name ++ '=' :: '"' :: (t.flatMap quoteChar ++ ['"']))) =
      [.parameter name t] := by
    rw [items_of_parameter isSeparator_semicolon hn.toIsToken, items_nil]
    rw [dropSpaces_of_head (by simp; decide), hn.lower]
    exact takeValue_quoted ..
  rw [parameters_of_item hd hi]
  simp only [Forms.add, splitName?_plain hn.ne_nil hn.plain]
  rfl

/-- **A percent-encoded parameter is read as it was before it was encoded.** -/
theorem parameters_of_extended (hd : settings.decodeEncodedWords = false) (hn : IsName name)
    (t : Text) :
    (parameters settings ("; ".toList ++ ((name ++ ['*']) ++ '=' :: extendedValue t))).result =
      .ok [(name, t)] := by
  have hu : ∀ c ∈ (extendedValue t).head?, isSpaceOrTab c = false := by
    intro c hc
    obtain rfl : 'u' = c := Option.some.inj hc
    rfl
  have hi : items ("; ".toList ++ ((name ++ ['*']) ++ '=' :: extendedValue t)) =
      [.parameter (name ++ ['*']) (extendedValue t)] := by
    rw [items_of_parameter isSeparator_semicolon hn.isToken_extended, items_nil]
    rw [dropSpaces_of_head hu, hn.lower_extended]
    exact takeValue_extended ..
  rw [parameters_of_item hd hi]
  simp only [Forms.add, splitName?_extended hn.ne_nil hn.plain, Noted.result_bind,
    Noted.result_ofExcept, decodeExtended_extendedValue]
  rfl

end MailScreen.Header
