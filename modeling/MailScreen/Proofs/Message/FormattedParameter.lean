import MailScreen.Proofs.Header.WrittenHeader

/-!
# Parameters that are formatted and read

A parameter is put down in one of two forms: in quotation marks if its value is ASCII, and otherwise
in extended form, percent-encoded in UTF-8. The two are read by different means. **Both give the
value back** (`OutlookMessage.parse_formatParameter`), whatever quotation marks, backslashes,
percent signs or control characters are in it, except that a quotation does not keep line breaks.
-/
namespace MailScreen.OutlookMessage

open Ascii Header

/-- A parameter as it is formatted, with the separator before it: in quotation marks, or in extended
form under the name with an asterisk. -/
def formatted (name : String) (value : Text) : WrittenParameter :=
  if value.all (·.toNat < 0x80) then ⟨"; ".toList, name.toList, value, true⟩
  else ⟨"; ".toList, name.toList ++ ['*'], extendedValue value, false⟩

variable {settings : Settings} {name : String} {value : Text}

theorem text_formatted (name : String) (value : Text) :
    (formatted name value).text = "; ".toList ++ formatParameter name value := by
  rw [formatParameter_eq, formatted]
  split
  · rfl
  · rfl

/-- What is formatted can be read if a value in quotation marks has no line breaks. -/
theorem isReadable_formatted (hn : IsName name.toList)
    (hv : NoBreak value ∨ ∃ c ∈ value, 0x80 ≤ c.toNat) : (formatted name value).IsReadable := by
  unfold formatted
  split
  · rename_i ha
    have hb : NoBreak value := by
      refine hv.resolve_right ?_
      rintro ⟨c, hm, hc⟩
      have hlt := of_decide_eq_true (List.all_eq_true.mp ha c hm)
      omega
    exact ⟨isSeparator_semicolon, hn.toIsToken, hb, fun h => by cases h⟩
  · have hbare := isBareChar_of_mem_extendedValue value
    refine ⟨isSeparator_semicolon, hn.isToken_extended, ?_, fun _ => ⟨hbare, fun c hc => ?_⟩⟩
    · exact .of_noBlank fun c hc => by simpa using (Bool.and_eq_true_iff.mp (hbare c hc)).2
    · obtain rfl : 'u' = c := Option.some.inj hc
      decide

/-- **What is formatted makes the parameter it was.** -/
theorem combine_formatted (hn : IsName name.toList) (hk : KeepsValues settings [value]) :
    (combine settings [(formatted name value).pair]).result = .ok [(name.toList, value)] := by
  unfold formatted WrittenParameter.pair
  split
  · rw [hn.lower]
    exact combine_plain (List.forall_mem_singleton.mpr ⟨hn.ne_nil, hn.plain⟩) hk
  · have hf : readForms [(name.toList ++ ['*'], extendedValue value)] =
        .ok { extended := [(name.toList, value)] } := by
      rw [readForms, Noted.result_foldlM]
      show ((Forms.add {} (name.toList ++ ['*']) (extendedValue value)).result >>= fun forms =>
        pure forms) = _
      simp only [Forms.add, splitName?_extended hn.ne_nil hn.plain, Noted.result_bind,
        Noted.result_ofExcept, decodeExtended_extendedValue]
      rfl
    rw [hn.lower_extended]
    exact combine_of_values hf rfl hk

/-- **What is formatted is read back**, be it quoted or percent-encoded: after any disposition and
any content type it is the only parameter, under the same name and with the same value. -/
theorem parse_formatParameter (hn : IsName name.toList)
    (hv : NoBreak value ∨ ∃ c ∈ value, 0x80 ≤ c.toNat) (hk : KeepsValues settings [value]) :
    (∀ primary, IsToken primary →
      (parseDisposition settings
          (primary ++ ("; ".toList ++ formatParameter name value))).result =
        .ok ⟨Text.lower primary, [(name.toList, value)]⟩) ∧
    ∀ kind subtype, IsToken kind → IsToken subtype →
      (parseContentType settings
          (kind ++ '/' :: subtype ++ ("; ".toList ++ formatParameter name value))).result =
        .ok ⟨Text.lower (kind ++ '/' :: subtype), [(name.toList, value)]⟩ := by
  have hr := isReadable_formatted hn hv
  have hbare : ∀ p ∈ [formatted name value], p.IsEmptyBare →
      ∀ q ∈ [formatted name value], q.separator.head? = some ';' := by
    simp only [List.mem_singleton]
    rintro _ rfl - _ rfl
    unfold formatted
    split <;> rfl
  have hcome := WrittenParameter.comeTo_of_combine (List.forall_mem_singleton.mpr hr) hbare
    (combine_formatted hn hk)
  simp only [← text_formatted]
  refine ⟨fun primary hp => ?_, fun kind subtype hkind hsubtype => ?_⟩
  · have h := hcome.disposition primary hp
    rwa [List.flatMap_cons, List.flatMap_nil, List.append_nil] at h
  · have h := hcome.contentType kind subtype hkind hsubtype
    rwa [List.flatMap_cons, List.flatMap_nil, List.append_nil] at h

/-- A file name with all that could end a quotation or a value, and one in extended form with a line
break in it. -/
theorem parse_formatParameter_of_marks :
    (parseDisposition {} ("attachment; ".toList ++
        formatParameter "filename" "a\"b\\; c*0*=%27'(\t".toList)).result =
      .ok ⟨"attachment".toList, [("filename".toList, "a\"b\\; c*0*=%27'(\t".toList)]⟩ ∧
    (parseContentType {} ("a/b; ".toList ++
        formatParameter "name" "\u00e9\r\n%41\"".toList)).result =
      .ok ⟨"a/b".toList, [("name".toList, "\u00e9\r\n%41\"".toList)]⟩ := by
  have hd : Text.lower "attachment".toList = "attachment".toList := by decide +kernel
  have ht : Text.lower "a/b".toList = "a/b".toList := by decide +kernel
  have h1 := (@parse_formatParameter {} "filename" "a\"b\\; c*0*=%27'(\t".toList (by decide)
    (.inl (by decide)) (by decide +kernel)).1 "attachment".toList (by decide)
  have h2 := (@parse_formatParameter {} "name" "\u00e9\r\n%41\"".toList (by decide)
    (.inr ⟨'\u00e9', by decide, by decide⟩) (by decide +kernel)).2
      "a".toList "b".toList (by decide) (by decide)
  exact ⟨hd ▸ h1, ht ▸ h2⟩

end MailScreen.OutlookMessage
