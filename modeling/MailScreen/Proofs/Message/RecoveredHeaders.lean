import MailScreen.Message.Structure
import MailScreen.Proofs.Attachment.PartHeaders
import MailScreen.Proofs.Charset.StrictUtf8
import MailScreen.Proofs.Message.Settled

/-!
# Header values that arrive as octets

The octets of a header value outside ASCII are held in it until the value is asked for. **Then the
value is what the octets are the UTF-8 of, if they are that of any text, and otherwise one character
for each octet** (`Held.recover_ofOctets_of_encode`, `Held.recover_ofOctets_of_malformed`). So a
text in UTF-8 is read back as it was, and every value is a text. Nothing is held in it any more: a
character that could stand for an octet is in it only if the octets spell it out.

A part gives under a name the value of the first header of that name, in whatever case
(`Part.header?_ofRawHeaders`).
-/
namespace MailScreen

open OutlookMessage

namespace Held

/-- An octet that is held is given back. -/
theorem octetsOf_ofOctet (b : UInt8) : octetsOf (ofOctet b) = [b] :=
  forall_octet (p := fun b => octetsOf (ofOctet b) = [b]) (by decide +kernel) b

/-- **Octets that are held are given back.** -/
theorem toOctets_ofOctets (bytes : Octets) : toOctets (ofOctets bytes) = bytes := by
  rw [toOctets_eq, ofOctets, List.flatMap_map, List.flatMap_congr fun b _ => octetsOf_ofOctet b,
    List.flatMap_singleton']

/-- The octets of a text in which none is held are those of its characters. -/
theorem toOctets_of_forall {t : Text} (h : ∀ c ∈ t, octet? c = none) : toOctets t = Utf8.encode t :=
  List.flatMap_congr fun c hc => by rw [h c hc]

/-- A text in which no octet is held is left as it is. -/
theorem recover_of_forall {t : Text} (h : ∀ c ∈ t, octet? c = none) : recover t = t := by
  have ho : occursIn t = false := by
    refine List.any_eq_false.mpr fun c hc => ?_
    rw [h c hc]
    decide
  rw [recover, ho]
  rfl

/-- Octets are read as UTF-8 if they are well formed, and otherwise one by one. -/
theorem recover_ofOctets (bytes : Octets) :
    recover (ofOctets bytes) = (Utf8.decode? bytes).getD (Octets.toLatin1 bytes) := by
  by_cases ho : occursIn (ofOctets bytes) = true
  · rw [recover, if_pos ho, toOctets_ofOctets]
  · -- all octets are of ASCII, and then they are well formed
    have hn : ∀ c ∈ ofOctets bytes, octet? c = none := by
      intro c hc
      have hs := List.any_eq_false.mp (Bool.not_eq_true _ ▸ ho) c hc
      exact Option.not_isSome_iff_eq_none.mp hs
    have hd : Utf8.decode? bytes = some (ofOctets bytes) := by
      rw [Utf8.decode?_eq_some_iff, ← toOctets_of_forall hn, toOctets_ofOctets]
    rw [recover_of_forall hn, hd]
    rfl

variable {bytes : Octets}

/-- **The octets of a text are read as that text.** -/
theorem recover_ofOctets_of_encode {t : Text} (h : Utf8.encode t = bytes) :
    recover (ofOctets bytes) = t := by
  rw [recover_ofOctets, Utf8.decode?_eq_some_iff.mpr h]
  rfl

/-- **Octets that are those of no text are read one by one.** -/
theorem recover_ofOctets_of_malformed (h : ∀ t, Utf8.encode t ≠ bytes) :
    recover (ofOctets bytes) = Octets.toLatin1 bytes := by
  have hd : Utf8.decode? bytes = none := by
    rw [Option.eq_none_iff_forall_ne_some]
    exact fun t ht => h t (Utf8.decode?_eq_some_iff.mp ht)
  rw [recover_ofOctets, hd]
  rfl

theorem toNat_lt_of_mem_toLatin1 {c : Char} (h : c ∈ Octets.toLatin1 bytes) : c.toNat < 0x100 := by
  obtain ⟨b, -, rfl⟩ := List.mem_map.mp h
  rw [Char.toNat_ofNat, if_pos (.inl (Nat.lt_trans b.toNat_lt (by decide)))]
  exact b.toNat_lt

/-- **Nothing is held in what has been read**: a character that could hold an octet is there only
if it is spelled out. -/
theorem encodeChar_infix_of_mem {c : Char} (hc : c ∈ recover (ofOctets bytes))
    (ho : (octet? c).isSome = true) : Utf8.encodeChar c <:+: bytes := by
  by_cases h : ∃ t, Utf8.encode t = bytes
  · obtain ⟨t, rfl⟩ := h
    rw [recover_ofOctets_of_encode rfl] at hc
    obtain ⟨before, after, rfl⟩ := List.append_of_mem hc
    exact ⟨Utf8.encode before, Utf8.encode after, by simp [Utf8.encode]⟩
  · rw [recover_ofOctets_of_malformed (not_exists.mp h)] at hc
    have hlt := toNat_lt_of_mem_toLatin1 hc
    rw [octet?, base, if_neg (by omega)] at ho
    cases ho

end Held

namespace Part

variable {before after headers : HeaderList} {key raw name : Text}

/-- **What a part has under a name is the value of the first header of that name**, with its octets
read. -/
theorem header?_ofRawHeaders (headers : HeaderList) (name : Text) :
    (ofRawHeaders headers).header? name =
      (headers.find? fun header => Text.lower header.1 == Text.lower name).map fun header =>
        Held.recover header.2 := by
  rw [ofRawHeaders, header?_ofHeaders, List.find?_map, Option.map_map]
  rfl

/-- Headers of other names before it and all headers after it make no difference. -/
theorem header?_of_first (hk : Text.lower key = Text.lower name)
    (hb : ∀ header ∈ before, Text.lower header.1 ≠ Text.lower name) :
    (ofRawHeaders (before ++ (key, raw) :: after)).header? name = some (Held.recover raw) := by
  have hn : before.find? (fun header => Text.lower header.1 == Text.lower name) = none :=
    List.find?_eq_none.mpr fun header hm => by simpa using hb header hm
  rw [header?_ofRawHeaders, List.find?_append, hn, Option.none_or,
    List.find?_cons_of_pos (by simpa using hk)]
  rfl

/-- A part has nothing under a name exactly if it has no header of that name. -/
theorem header?_eq_none_iff :
    (ofRawHeaders headers).header? name = none ↔
      ∀ header ∈ headers, Text.lower header.1 ≠ Text.lower name := by
  rw [header?_ofRawHeaders, Option.map_eq_none_iff, List.find?_eq_none]
  simp only [beq_iff_eq, ne_eq]

/-- **Header values that arrive as octets are recovered.** If the octets are the UTF-8 of a text,
the value is that text, and otherwise it is one character for each octet. It is a text in which no
octet is held: a character that could hold one is there only if the octets spell it out. A value
in which none is held is left as it is. And of the headers of a part the first of a name gives the
value that the part has under it, in whatever case and whatever comes later; it has none exactly if
there is no such header. -/
theorem recovers_values :
    (∀ bytes : Octets,
      (∀ t : Text, t.flatMap String.utf8EncodeChar = bytes →
        Held.recover (Held.ofOctets bytes) = t) ∧
      ((∀ t : Text, t.flatMap String.utf8EncodeChar ≠ bytes) →
        Held.recover (Held.ofOctets bytes) = bytes.map fun b => Char.ofNat b.toNat) ∧
      ∀ c ∈ Held.recover (Held.ofOctets bytes), (Held.octet? c).isSome = true →
        String.utf8EncodeChar c <:+: bytes) ∧
    (∀ t : Text, (∀ c ∈ t, Held.octet? c = none) → Held.recover t = t) ∧
    (∀ (before after : HeaderList) (key raw name : Text), Text.lower key = Text.lower name →
      (∀ header ∈ before, Text.lower header.1 ≠ Text.lower name) →
      (ofRawHeaders (before ++ (key, raw) :: after)).header? name = some (Held.recover raw)) ∧
    ∀ (headers : HeaderList) (name : Text), (ofRawHeaders headers).header? name = none ↔
      ∀ header ∈ headers, Text.lower header.1 ≠ Text.lower name := by
  refine ⟨fun bytes => ⟨?_, ?_, ?_⟩, ?_, ?_, ?_⟩
  · intro t ht
    rw [← Utf8.encode_eq_flatMap] at ht
    exact Held.recover_ofOctets_of_encode ht
  · intro hn
    exact Held.recover_ofOctets_of_malformed fun t => Utf8.encode_eq_flatMap t ▸ hn t
  · intro c hc ho
    rw [← Utf8.encodeChar_eq_utf8EncodeChar]
    exact Held.encodeChar_infix_of_mem hc ho
  · exact fun t ht => Held.recover_of_forall ht
  · exact fun before after key raw name hk hb => header?_of_first hk hb
  · exact fun headers name => header?_eq_none_iff

/-- A name in UTF-8 with a letter of two octets is read; one in which that letter is an octet of its
own is not well formed; and the later of two headers of one name does not count. -/
theorem recovers_values_of_mixed :
    Held.recover (Held.ofOctets [0x61, 0xC3, 0xA9]) = ['a', 'é'] ∧
    Held.recover (Held.ofOctets [0x61, 0xE9, 0xC3, 0xA9]) = ['a', 'é', 'Ã', '©'] ∧
    (ofRawHeaders [
        ("To".toList, "x".toList),
        ("Content-Type".toList, Held.ofOctets [0xC3, 0xA9]),
        ("content-type".toList, "y".toList)]).header? "CONTENT-TYPE".toList = some ['é'] := by
  refine ⟨(recovers_values.1 _).1 ['a', 'é'] (by decide +kernel), ?_, ?_⟩
  · refine ((recovers_values.1 _).2.1 fun t ht => ?_).trans (by decide)
    have hd : Utf8.decode? [0x61, 0xE9, 0xC3, 0xA9] = none := by decide
    rw [← Utf8.encode_eq_flatMap, ← Utf8.decode?_eq_some_iff, hd] at ht
    cases ht
  · have hv : Held.recover (Held.ofOctets [0xC3, 0xA9]) = ['é'] :=
      (recovers_values.1 _).1 ['é'] (by decide +kernel)
    have hf := recovers_values.2.2.1 [("To".toList, "x".toList)]
      [("content-type".toList, "y".toList)] "Content-Type".toList (Held.ofOctets [0xC3, 0xA9])
      "CONTENT-TYPE".toList (by decide +kernel) (by decide +kernel)
    rw [hv] at hf
    exact hf

end Part
end MailScreen
