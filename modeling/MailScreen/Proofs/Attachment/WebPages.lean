import MailScreen.Proofs.Attachment.Extension
import MailScreen.Proofs.Attachment.SeparateHeaders
import MailScreen.Proofs.Pattern.Leaving

/-!
# Names of web pages

The extension of a name and whether the name is that of a web page are found in two ways: the one is
a word in lower case, the other is a search for a pattern that ignores case. To ignore case is not
the same as to compare in lower case, since the long s is its own lower case and yet is matched by
an s. **But that is the only difference** (`FileName.isWebPage_iff`): a name is that of a web page
exactly if its extension is one of those of web pages, with the long s read as an s. So a record
whose type is another counts as a web page exactly if its extension says so
(`Attachment.typed_by_extension`).
-/
namespace MailScreen

/-- A code point other than zero is that of just one character. -/
theorem ofNat_eq_iff {n : Nat} {c : Char} (hc : c ≠ '\x00') : Char.ofNat n = c ↔ n = c.toNat := by
  constructor
  · intro h
    by_cases hv : n.isValidChar
    · rw [← h, Char.toNat_ofNat, if_pos hv]
    · have hzero : Char.ofNat n = '\x00' := by rw [Char.ofNat, dif_neg hv]; rfl
      exact absurd (h.symm.trans hzero) hc
  · rintro rfl
    exact Char.ofNat_toNat c

namespace FileName

open Pattern

/-- The letters that the suffixes of web pages are written with. -/
def webPageLetters : List Char := ['h', 't', 'm', 'l', 's']

/-- A character, with the long s read as an s. -/
def readLongS (c : Char) : Char := if c = 'ſ' then 's' else c

/-- An extension of web pages, with the long s read as an s. -/
def IsWebPageExtension (extension : Text) : Prop :=
  extension.map readLongS ∈ webPageSuffixes.map String.toList

instance (extension : Text) : Decidable (IsWebPageExtension extension) :=
  inferInstanceAs (Decidable (_ ∈ _))

/-! ## Letters but for case -/

theorem isWordIgnoringCase_nil_iff {t : Text} : isWordIgnoringCase [] t = true ↔ t = [] := by
  cases t with
  | nil => exact iff_of_true rfl rfl
  | cons c t => exact iff_of_false Bool.false_ne_true (List.cons_ne_nil c t)

theorem isWordIgnoringCase_cons_iff {a : Char} {word t : Text} :
    isWordIgnoringCase (a :: word) t = true ↔ ∃ c rest, t = c :: rest ∧
      sameChar .unicode a.toNat c.toNat = true ∧ isWordIgnoringCase word rest = true := by
  cases t with
  | nil =>
    refine iff_of_false Bool.false_ne_true ?_
    rintro ⟨c, rest, h, -⟩
    cases h
  | cons c t =>
    rw [isWordIgnoringCase, Bool.and_eq_true]
    constructor
    · exact fun h => ⟨c, t, rfl, h⟩
    · rintro ⟨d, rest, h, hw⟩
      obtain ⟨rfl, rfl⟩ := List.cons.inj h
      exact hw

/-- The lower cases that count as that of a letter: its own, and for the s also the long s. -/
theorem variants_letter : ∀ a ∈ webPageLetters, Folding.changes .unicode a.toNat = true ∧
    Folding.variants .unicode a.toNat = if a = 's' then [a.toNat, 0x17F] else [a.toNat] := by
  decide

/-- **A letter is matched by the characters whose lower case it is, the long s read as an s.** -/
theorem sameChar_iff {a : Char} (ha : a ∈ webPageLetters) (c : Char) :
    sameChar .unicode a.toNat c.toNat = true ↔ readLongS (lowerChar c) = a := by
  have hz : ∀ a ∈ webPageLetters, a ≠ '\x00' ∧ a ≠ 'ſ' := by decide
  obtain ⟨hzero, hlong⟩ := hz a ha
  obtain ⟨hc, hv⟩ := variants_letter a ha
  have hread : readLongS (lowerChar c) = a ↔ lowerChar c = a ∨ a = 's' ∧ lowerChar c = 'ſ' := by
    unfold readLongS
    split
    · rename_i h
      rw [h]
      constructor
      · exact fun hs => .inr ⟨hs.symm, rfl⟩
      · rintro (hs | ⟨hs, -⟩)
        · exact absurd hs.symm hlong
        · exact hs.symm
    · rename_i h
      simp [h]
  have hlower : Folding.lower .unicode c.toNat = lowerCode c.toNat := rfl
  rw [hread, lowerChar, ofNat_eq_iff hzero, ofNat_eq_iff (by decide), sameChar, if_pos hc, hv,
    hlower]
  split
  · rename_i h
    simp [h]
  · rename_i h
    simp [h]

/-- Outside ASCII, only the long s is moved to a letter of the suffixes or to itself. -/
theorem runs_miss_letters : ∀ run ∈ lowerRuns, 0x80 ≤ run.2.1 →
    ∀ n ∈ 0x17F :: webPageLetters.map Char.toNat,
      n < run.2.2.2 ∨ run.2.2.2 + (run.2.1 - run.1) < n := by
  decide +kernel

/-- A letter is matched by word characters only. -/
theorem isWord_of_sameChar {a c : Char} (ha : a ∈ webPageLetters)
    (h : sameChar .unicode a.toNat c.toNat = true) : isWord c = true := by
  have hl : lowerCode c.toNat ∈ 0x17F :: webPageLetters.map Char.toNat := by
    obtain ⟨hc, hv⟩ := variants_letter a ha
    have hm : lowerCode c.toNat ∈ Folding.variants .unicode a.toNat := by
      rw [sameChar, if_pos hc] at h
      exact List.contains_iff_mem.mp h
    rw [hv] at hm
    split at hm
    · rcases List.mem_cons.mp hm with hm | hm
      · exact List.mem_cons_of_mem _ (hm ▸ List.mem_map_of_mem ha)
      · exact List.mem_singleton.mp hm ▸ List.mem_cons_self
    · exact List.mem_cons_of_mem _ (List.mem_singleton.mp hm ▸ List.mem_map_of_mem ha)
  have hletters : ∀ n ∈ 0x17F :: webPageLetters.map Char.toNat, isWordCode n = true := by decide
  unfold isWord
  unfold lowerCode at hl
  split at hl
  · rename_i hn
    split at hl
    · rename_i hu
      simp only [Bool.and_eq_true, decide_eq_true_eq] at hu
      unfold isWordCode
      simp [hn, hu.1, hu.2]
    · exact hletters _ hl
  · rename_i hn
    rcases caseImage_eq c.toNat lowerRuns with he | ⟨run, hm, hf, ht, he⟩
    · exact hletters _ (he ▸ hl)
    · have := runs_miss_letters run hm (by omega) _ hl
      omega

/-- In lower case a character becomes a letter of the suffixes alone or not at all. Sigma and the
capital I with a dot have lower cases of their own, which are no such letters. -/
theorem exists_lowerAfter_cons (before : Text) (c : Char) (rest : Text) :
    ∃ d more, Text.lowerAfter before (c :: rest) =
        d :: (more ++ Text.lowerAfter (c :: before) rest) ∧
      ∀ a ∈ webPageLetters, (readLongS d = a ↔ readLongS (lowerChar c) = a) ∧
        (readLongS d = a → more = []) := by
  have hodd : ∀ a ∈ webPageLetters, ∀ d ∈ ['σ', 'ς', 'i'], readLongS d ≠ a := by decide
  rw [Text.lowerAfter]
  split
  · rename_i hc
    have hsigma : lowerChar 'Σ' = 'σ' := by decide +kernel
    refine ⟨_, [], rfl, fun a ha => ⟨?_, fun _ => rfl⟩⟩
    rw [hc, hsigma]
    refine iff_of_false (hodd a ha _ ?_) (hodd a ha _ (by decide))
    split
    · decide
    · decide
  · split
    · rename_i hc
      have hdotted : lowerChar 'İ' = 'i' := by decide +kernel
      refine ⟨'i', ['\u0307'], rfl, fun a ha => ?_⟩
      have hi := hodd a ha 'i' (by decide)
      rw [hc, hdotted]
      exact ⟨Iff.rfl, fun h => absurd h hi⟩
    · exact ⟨lowerChar c, [], rfl, fun a _ => ⟨Iff.rfl, fun _ => rfl⟩⟩

/-- **A word is one of the letters but for case exactly if its lower case is, the long s read as an
s.** -/
theorem isWordIgnoringCase_iff {suffix : Text} (hs : ∀ a ∈ suffix, a ∈ webPageLetters)
    (before word : Text) :
    isWordIgnoringCase suffix word = true ↔
      (Text.lowerAfter before word).map readLongS = suffix := by
  induction word generalizing suffix before with
  | nil =>
    cases suffix with
    | nil => exact iff_of_true rfl rfl
    | cons a suffix => exact iff_of_false (by simp [isWordIgnoringCase]) (List.cons_ne_nil _ _).symm
  | cons c rest ih =>
    obtain ⟨d, more, hl, himage⟩ := exists_lowerAfter_cons before c rest
    rw [hl, List.map_cons]
    cases suffix with
    | nil => exact iff_of_false (by simp [isWordIgnoringCase]) (List.cons_ne_nil _ _)
    | cons a suffix =>
      rw [List.forall_mem_cons] at hs
      obtain ⟨hd, hmore⟩ := himage a hs.1
      rw [isWordIgnoringCase, Bool.and_eq_true, sameChar_iff hs.1, ih hs.2 (c :: before),
        List.cons.injEq, ← hd]
      refine and_congr_right fun h => ?_
      rw [hmore h, List.nil_append]

/-! ## Web pages by their extension -/

theorem mem_webPageLetters_of_mem_suffix :
    ∀ suffix ∈ webPageSuffixes, ∀ a ∈ suffix.toList, a ∈ webPageLetters := by
  decide

/-- **A name is that of a web page exactly if its extension is one of those of web pages, the long s
read as an s.** -/
theorem isWebPage_iff (name : Text) :
    isWebPage name = true ↔ IsWebPageExtension (extension name) := by
  unfold isWebPage extension
  cases suffix? name with
  | none => exact iff_of_false (by simp) (by decide)
  | some word =>
    rw [IsWebPageExtension, List.any_eq_true, List.mem_map]
    constructor
    · rintro ⟨suffix, hm, h⟩
      rw [isWordIgnoringCase_iff (mem_webPageLetters_of_mem_suffix suffix hm) []] at h
      exact ⟨suffix, hm, h.symm⟩
    · rintro ⟨suffix, hm, h⟩
      refine ⟨suffix, hm, ?_⟩
      rw [isWordIgnoringCase_iff (mem_webPageLetters_of_mem_suffix suffix hm) []]
      exact h.symm

/-! ## Web pages by the pattern -/

/-- The text starts with one of some words, but for case, and `after` comes after it. -/
def Spelled (words : List Text) (t after : Text) : Prop :=
  ∃ word ∈ words, ∃ written, isWordIgnoringCase word written = true ∧ t = written ++ after

/-- The text is one of some words, but for case, and at most a line feed after it. -/
def SpelledLast (words : List Text) (t after : Text) : Prop :=
  Spelled words t after ∧ (after = [] ∨ after = ['\n'])

/-- Of a text that is two words one after the other, each is a part. -/
theorem isWordIgnoringCase_append_iff {u v t : Text} :
    isWordIgnoringCase (u ++ v) t = true ↔ ∃ s r, t = s ++ r ∧
      isWordIgnoringCase u s = true ∧ isWordIgnoringCase v r = true := by
  induction u generalizing t with
  | nil =>
    constructor
    · exact fun h => ⟨[], t, rfl, rfl, h⟩
    · rintro ⟨s, r, rfl, hs, hr⟩
      obtain rfl := isWordIgnoringCase_nil_iff.mp hs
      exact hr
  | cons a u ih =>
    rw [List.cons_append, isWordIgnoringCase_cons_iff]
    constructor
    · rintro ⟨c, _, rfl, hc, h⟩
      obtain ⟨s, r, rfl, hs, hr⟩ := ih.mp h
      exact ⟨c :: s, r, rfl, isWordIgnoringCase_cons_iff.mpr ⟨c, s, rfl, hc, hs⟩, hr⟩
    · rintro ⟨_, r, rfl, h, hr⟩
      obtain ⟨c, s, rfl, hc, hs⟩ := isWordIgnoringCase_cons_iff.mp h
      exact ⟨c, s ++ r, rfl, hc, ih.mpr ⟨s, r, rfl, hs, hr⟩⟩

section

variable {a b : Node} {words more : List Text}

theorem leaves_letter (c : Char) : (Node.char .unicode c.toNat false).Leaves (Spelled [[c]]) := by
  refine (Node.leaves_char .unicode c.toNat).congr fun t after => ?_
  constructor
  · rintro ⟨d, hd, rfl⟩
    exact ⟨[c], List.mem_singleton_self _, [d],
      isWordIgnoringCase_cons_iff.mpr ⟨d, [], rfl, hd, rfl⟩, rfl⟩
  · rintro ⟨word, hm, written, hw, rfl⟩
    rw [List.mem_singleton.mp hm] at hw
    obtain ⟨d, _, rfl, hd, hn⟩ := isWordIgnoringCase_cons_iff.mp hw
    obtain rfl := isWordIgnoringCase_nil_iff.mp hn
    exact ⟨d, hd, rfl⟩

theorem leaves_optional (h : a.Leaves (Spelled words)) :
    (Node.loop .greedy 0 (some 1) a).Leaves (Spelled (words ++ [[]])) := by
  refine h.optional.congr fun t after => ?_
  constructor
  · rintro (⟨word, hm, hw⟩ | rfl)
    · exact ⟨word, List.mem_append_left _ hm, hw⟩
    · exact ⟨[], List.mem_append_right _ (List.mem_singleton_self _), [], rfl, rfl⟩
  · rintro ⟨word, hm, written, hw, rfl⟩
    rcases List.mem_append.mp hm with hm | hm
    · exact .inl ⟨word, hm, written, hw, rfl⟩
    · rw [List.mem_singleton.mp hm] at hw
      obtain rfl := isWordIgnoringCase_nil_iff.mp hw
      exact .inr rfl

theorem leaves_end : (Node.anchor .lastLineEnd).Leaves (SpelledLast [[]]) := by
  refine Node.leaves_lastLineEnd.congr fun t after => and_congr_left fun _ => ?_
  constructor
  · rintro rfl
    exact ⟨[], List.mem_singleton_self _, [], rfl, rfl⟩
  · rintro ⟨word, hm, written, hw, rfl⟩
    rw [List.mem_singleton.mp hm] at hw
    obtain rfl := isWordIgnoringCase_nil_iff.mp hw
    rfl

theorem leaves_cat (ha : a.Leaves (Spelled words)) (hb : b.Leaves (SpelledLast more)) :
    (Node.cat a b).Leaves
      (SpelledLast (words.flatMap fun word => more.map fun next => word ++ next)) := by
  refine (ha.cat hb).congr fun t after => ?_
  constructor
  · rintro ⟨_, ⟨word, hm, written, hw, rfl⟩, ⟨next, hn, rest, hr, rfl⟩, he⟩
    refine ⟨⟨word ++ next, ?_, written ++ rest, ?_, (List.append_assoc ..).symm⟩, he⟩
    · exact List.mem_flatMap.mpr ⟨word, hm, List.mem_map_of_mem hn⟩
    · exact isWordIgnoringCase_append_iff.mpr ⟨written, rest, rfl, hw, hr⟩
  · rintro ⟨⟨_, hm, written, hw, rfl⟩, he⟩
    obtain ⟨word, hword, hm⟩ := List.mem_flatMap.mp hm
    obtain ⟨next, hnext, rfl⟩ := List.mem_map.mp hm
    obtain ⟨first, rest, rfl, hf, hr⟩ := isWordIgnoringCase_append_iff.mp hw
    exact ⟨rest ++ after, ⟨word, hword, first, hf, List.append_assoc ..⟩,
      ⟨next, hnext, rest, hr, rfl⟩, he⟩

end

/-- The tree of the pattern of web pages. -/
def webPageNode : Node :=
  .cat (.char .unicode '.'.toNat false) <|
  .cat (.loop .greedy 0 (some 1) (.char .unicode 's'.toNat false)) <|
  .cat (.char .unicode 'h'.toNat false) <|
  .cat (.char .unicode 't'.toNat false) <|
  .cat (.char .unicode 'm'.toNat false) <|
  .cat (.loop .greedy 0 (some 1) (.char .unicode 'l'.toNat false)) <|
  .anchor .lastLineEnd

theorem ofText_webPagePattern :
    CompiledPattern.ofText { ignoreCase := true } Settings.webPagePattern.toList =
      .ok ⟨Settings.webPagePattern.toList, { ignoreCase := true }, webPageNode⟩ := by
  decide +kernel

/-- The pattern spells a dot and each of the suffixes. -/
theorem leaves_webPageNode : webPageNode.Leaves
    (SpelledLast ([".shtml", ".shtm", ".html", ".htm"].map String.toList)) :=
  leaves_cat (leaves_letter '.') <|
  leaves_cat (leaves_optional (leaves_letter 's')) <|
  leaves_cat (leaves_letter 'h') <|
  leaves_cat (leaves_letter 't') <|
  leaves_cat (leaves_letter 'm') <|
  leaves_cat (leaves_optional (leaves_letter 'l')) leaves_end

/-- What is a word of the suffixes but for case is made of word characters. -/
theorem isWord_of_isWordIgnoringCase {suffix word : Text}
    (hs : ∀ a ∈ suffix, a ∈ webPageLetters) (h : isWordIgnoringCase suffix word = true) :
    ∀ c ∈ word, isWord c = true := by
  induction suffix generalizing word with
  | nil =>
    obtain rfl := isWordIgnoringCase_nil_iff.mp h
    exact fun c hc => absurd hc List.not_mem_nil
  | cons a suffix ih =>
    rw [List.forall_mem_cons] at hs
    obtain ⟨c, rest, rfl, hc, hr⟩ := isWordIgnoringCase_cons_iff.mp h
    exact List.forall_mem_cons.mpr ⟨isWord_of_sameChar hs.1 hc, ih hs.2 hr⟩

theorem isWebPage_eq_true_iff {name : Text} :
    isWebPage name = true ↔ ∃ suffix ∈ webPageSuffixes, ∃ word, EndsIn name word ∧
      isWordIgnoringCase suffix.toList word = true := by
  unfold isWebPage
  cases hs : suffix? name with
  | none =>
    refine iff_of_false (by simp) ?_
    rintro ⟨suffix, -, word, he, -⟩
    rw [suffix?_eq_some_iff.mpr he] at hs
    cases hs
  | some word =>
    rw [List.any_eq_true]
    refine exists_congr fun suffix => and_congr_right fun _ => ?_
    constructor
    · exact fun h => ⟨word, suffix?_eq_some_iff.mp hs, h⟩
    · rintro ⟨other, he, h⟩
      rw [suffix?_eq_some_iff.mpr he] at hs
      rwa [← Option.some.inj hs]

/-- **The pattern of web pages occurs in the names of web pages, and in no others.** -/
theorem occursIn_webPageNode_iff (options : Options) (name : Text) :
    webPageNode.occursIn options name = true ↔ isWebPage name = true := by
  have hdotted : ∀ word : Text, word ∈ [".shtml", ".shtm", ".html", ".htm"].map String.toList ↔
      ∃ suffix ∈ webPageSuffixes, word = '.' :: suffix.toList := by
    intro word
    simp [webPageSuffixes]
    tauto
  have hdot : ∀ c : Char, sameChar .unicode '.'.toNat c.toNat = true ↔ c = '.' := by
    intro c
    have hc : Folding.changes .unicode '.'.toNat = false := by decide
    rw [sameChar, if_neg (by rw [hc]; simp), beq_iff_eq, ← Char.toNat_inj]
    exact eq_comm
  rw [leaves_webPageNode.occursIn_iff rfl, isWebPage_eq_true_iff]
  constructor
  · rintro ⟨before, _, after, rfl, ⟨word, hword, written, hwritten, rfl⟩, ha⟩
    obtain ⟨suffix, hm, rfl⟩ := (hdotted word).mp hword
    obtain ⟨c, word, rfl, hc, hw⟩ := isWordIgnoringCase_cons_iff.mp hwritten
    obtain rfl := (hdot c).mp hc
    have hletters := mem_webPageLetters_of_mem_suffix suffix hm
    refine ⟨suffix, hm, word, ⟨?_, isWord_of_isWordIgnoringCase hletters hw, before, after, rfl,
      ha⟩, hw⟩
    rintro rfl
    have hempty : ∀ suffix ∈ webPageSuffixes, isWordIgnoringCase suffix.toList [] = false := by
      decide
    rw [hempty suffix hm] at hw
    cases hw
  · rintro ⟨suffix, hm, word, ⟨-, -, before, after, rfl, ha⟩, hw⟩
    exact ⟨before, '.' :: (word ++ after), after, rfl,
      ⟨'.' :: suffix.toList, (hdotted _).mpr ⟨suffix, hm, rfl⟩, '.' :: word,
        isWordIgnoringCase_cons_iff.mpr ⟨'.', word, rfl, (hdot '.').mpr rfl, hw⟩, rfl⟩, ha⟩

end FileName

/-- **A record that is typed by its extension**: the extension is that of the name, and a record of
another type counts as a web page if and only if the extension is one of web pages. -/
structure AttachmentRecord.TypedByExtension (record : AttachmentRecord) : Prop where
  /-- The extension is the lower case of the word that the name ends in. -/
  extension : FileName.HasExtension record.name record.extension
  /-- The extension says whether the record counts as a web page. -/
  effectiveType : record.mimeType ≠ "text/html".toList →
    (record.effectiveType = "text/html".toList ↔ FileName.IsWebPageExtension record.extension)

namespace Attachment

open FileName

/-- A record counts as a web page if its name says so, and else as what its type says. -/
theorem effectiveType_of_record? {settings : Settings} {part : Part} {index : Nat}
    {record : AttachmentRecord} (h : (record? settings part index).result = .ok (some record)) :
    record.effectiveType =
      if isWebPage record.name then "text/html".toList else record.mimeType := by
  have hr := (record?_eq_ok_iff.mp h).2
  unfold recordOf? at hr
  simp only at hr
  split at hr
  · cases hr
  · obtain rfl := Option.some.inj hr
    rfl

theorem typedByExtension_of_record? {settings : Settings} {part : Part} {index : Nat}
    {record : AttachmentRecord} (h : (record? settings part index).result = .ok (some record)) :
    record.TypedByExtension := by
  have he := (tellsOf_of_record? h).extension
  constructor
  · rw [he]
    exact hasExtension_extension record.name
  · intro ht
    rw [effectiveType_of_record? h, he, ← isWebPage_iff]
    split
    · rename_i hw
      exact iff_of_true rfl hw
    · rename_i hw
      exact iff_of_false ht hw

/-- **The extension of a name and the search for web pages agree.** Every record is typed by its
extension; every name has the extension that its end gives it; and the pattern of web pages, with
case ignored, occurs in just the names whose extension is one of web pages. -/
theorem typed_by_extension :
    (∀ settings part index record, (record? settings part index).result = .ok (some record) →
      record.TypedByExtension) ∧
    (∀ name, HasExtension name (extension name)) ∧
    ∃ pattern, CompiledPattern.ofText { ignoreCase := true } Settings.webPagePattern.toList =
        .ok pattern ∧
      ∀ name, (pattern.occursIn name = true ↔ isWebPage name = true) ∧
        (isWebPage name = true ↔ IsWebPageExtension (extension name)) :=
  ⟨fun _ _ _ _ h => typedByExtension_of_record? h, hasExtension_extension, _,
    ofText_webPagePattern, fun name => ⟨occursIn_webPageNode_iff _ name, isWebPage_iff name⟩⟩

/-- An archive by its type whose name ends in a long s, capital letters and a line feed. -/
theorem typed_by_extension_of_long_s :
    ∃ record, (record? {} (Part.ofHeaders [
        ("Content-Type".toList, "application/zip".toList),
        ("Content-Disposition".toList, "attachment; filename*=utf-8''a.b.%C5%BFHTM%0A".toList)])
          0).result = .ok (some record) ∧
      record.name = "a.b.ſHTM\n".toList ∧ record.extension = "ſhtm".toList ∧
      record.effectiveType = "text/html".toList := by
  have hv : ((record? {} (Part.ofHeaders [
      ("Content-Type".toList, "application/zip".toList),
      ("Content-Disposition".toList, "attachment; filename*=utf-8''a.b.%C5%BFHTM%0A".toList)])
        0).result.toOption.join.map fun record => (record.name, record.mimeType)) =
      some ("a.b.ſHTM\n".toList, "application/zip".toList) := by
    decide +kernel
  cases hr : (record? {} (Part.ofHeaders [
      ("Content-Type".toList, "application/zip".toList),
      ("Content-Disposition".toList, "attachment; filename*=utf-8''a.b.%C5%BFHTM%0A".toList)])
        0).result with
  | error fault =>
    rw [hr] at hv
    cases hv
  | ok found =>
    cases found with
    | none =>
      rw [hr] at hv
      cases hv
    | some record =>
      rw [hr] at hv
      obtain ⟨hname, htype⟩ := Prod.mk.inj (Option.some.inj hv)
      have hends : EndsIn record.name "ſHTM".toList := by
        rw [hname]
        exact ⟨by decide, by decide, "a.b".toList, ['\n'], by decide, .inr rfl⟩
      obtain ⟨hext, hwebPage⟩ := typed_by_extension.1 _ _ _ _ hr
      have hlower : record.extension = "ſhtm".toList :=
        (hext.ofWord _ hends).trans (by decide +kernel)
      refine ⟨record, rfl, hname, hlower, (hwebPage ?_).mpr ?_⟩
      · rw [htype]
        decide
      · rw [hlower]
        decide

end Attachment
end MailScreen
