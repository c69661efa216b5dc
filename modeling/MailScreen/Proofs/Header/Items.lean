import MailScreen.Header.Structured
import MailScreen.Message.Outlook
import MailScreen.Proofs.Text.Ascii
import MailScreen.Proofs.Text.Line
import MailScreen.Proofs.Text.Trim

/-!
# Parameters that are written are read

A parameter is put down as a name, an equals sign and a value, which is quoted or bare, after
spaces, tabs and semicolons that separate it from what comes before. **What is put down so is read
as the parameters that it is made of** (`Header.items_flatMap_text`): each under its name in lower
case, with its value.

Between a bare value and the next parameter there may be no more than a space, and bare values may
go on after spaces. What ends such a value is that a name and an equals sign come next
(`Header.takeBare_separator`).
-/
namespace MailScreen.Header

open Ascii OutlookMessage

/-! ## Words -/

/-- A token is taken up to what is no character of one. -/
theorem takeToken?_append {t s : Text} (hn : t ≠ []) (ht : ∀ c ∈ t, isTokenChar c = true)
    (hs : ∀ c ∈ s.head?, isTokenChar c = false) : takeToken? (t ++ s) = some (t, s) := by
  obtain ⟨h1, h2⟩ := Text.takeWhile_append_stop ht hs
  unfold takeToken?
  rw [h1, h2]
  cases t with
  | nil => exact absurd rfl hn
  | cons c rest => rfl

theorem dropSpaces_of_head {s : Text} (hs : ∀ c ∈ s.head?, isSpaceOrTab c = false) :
    dropSpaces s = s := Text.dropWhile_of_head hs

/-- The name of a parameter is taken with its equals sign and the spaces after it. -/
theorem takeName?_append {name : Text} (hn : IsToken name) (s : Text) :
    takeName? (name ++ '=' :: s) = some (name, dropSpaces s) := by
  have ht : takeToken? (name ++ '=' :: s) = some (name, '=' :: s) :=
    takeToken?_append hn.ne_nil hn.chars (by simp; decide)
  have he : dropSpaces ('=' :: s) = '=' :: s := dropSpaces_of_head (by simp; decide)
  simp only [takeName?, ht, he]

theorem skipBlanks_of_head {s : Text} (hs : ∀ c ∈ s.head?, isSpaceOrTab c = false ∧ c ≠ '(') :
    skipBlanks s = s := by
  cases s with
  | nil => rfl
  | cons c rest =>
    obtain ⟨hb, hp⟩ := hs c rfl
    simp [skipBlanks, skipBlanksAt, hb, hp]

theorem skipBlanks_cons {c : Char} (hc : isSpaceOrTab c = true) (s : Text) :
    skipBlanks (c :: s) = skipBlanks s := by
  simp [skipBlanks, skipBlanksAt, hc]

/-- A character of a token starts no blank and no comment and separates nothing. -/
theorem isTokenChar_marks {c : Char} (h : isTokenChar c = true) :
    isSpaceOrTab c = false ∧ c ≠ '(' ∧ c ≠ ';' ∧ c ≠ '=' := by
  have hs : isSpaceOrTab c = false := by
    rw [Bool.eq_false_iff]
    intro hb
    rcases Bool.or_eq_true_iff.mp hb with hb | hb
    · rw [eq_of_beq hb] at h
      exact absurd h (by decide)
    · rw [eq_of_beq hb] at h
      exact absurd h (by decide)
  refine ⟨hs, ?_, ?_, ?_⟩
  · rintro rfl; exact absurd h (by decide)
  · rintro rfl; exact absurd h (by decide)
  · rintro rfl; exact absurd h (by decide)

/-- What a text that starts with a token starts with. -/
theorem head?_token {name : Text} (hn : IsToken name) (s : Text) :
    ∀ c ∈ (name ++ s).head?, isSpaceOrTab c = false ∧ c ≠ '(' ∧ c ≠ ';' ∧ c ≠ '=' :=
  Text.forall_head?_append hn.ne_nil fun c hc => isTokenChar_marks (hn.chars c hc)

/-! ## Separators -/

/-- What separates a parameter from what comes before it: spaces, tabs and semicolons, of which
one is enough. -/
structure IsSeparator (t : Text) : Prop where
  ne_nil : t ≠ []
  chars : ∀ c ∈ t, isSpaceOrTab c = true ∨ c = ';'

instance (t : Text) : Decidable (IsSeparator t) :=
  decidable_of_iff (t ≠ [] ∧ ∀ c ∈ t, isSpaceOrTab c = true ∨ c = ';')
    ⟨fun h => ⟨h.1, h.2⟩, fun h => ⟨h.ne_nil, h.chars⟩⟩

theorem isSeparator_semicolon : IsSeparator "; ".toList := by decide

theorem IsSeparator.noBreak {t : Text} (ht : IsSeparator t) : NoBreak t :=
  .of_forall (p := fun c => isSpaceOrTab c || c == ';') (by decide) (by decide) fun c hc => by
    simpa using ht.chars c hc

theorem skipSeparators_of_semicolon {t rest : Text} (h : skipBlanks t = ';' :: rest) :
    skipSeparators t = skipSeparators rest := by
  rw [skipSeparators]
  split
  · rename_i rest' h'
    rw [h] at h'
    rw [(List.cons.inj h').2]
  · rename_i h'
    exact absurd h (h' rest)

theorem skipSeparators_of_ne {t : Text} (h : ∀ rest, skipBlanks t ≠ ';' :: rest) :
    skipSeparators t = skipBlanks t := by
  rw [skipSeparators]
  split
  · rename_i rest h'
    exact absurd h' (h rest)
  · rfl

theorem skipSeparators_of_skipBlanks {s t : Text} (h : skipBlanks s = skipBlanks t) :
    skipSeparators s = skipSeparators t := by
  by_cases hs : ∃ rest, skipBlanks t = ';' :: rest
  · obtain ⟨rest, hr⟩ := hs
    rw [skipSeparators_of_semicolon (h.trans hr), skipSeparators_of_semicolon hr]
  · rw [not_exists] at hs
    rw [skipSeparators_of_ne hs, skipSeparators_of_ne (by rw [h]; exact hs), h]

/-- Separators are skipped before a word. -/
theorem skipSeparators_append {t s : Text} (ht : ∀ c ∈ t, isSpaceOrTab c = true ∨ c = ';')
    (hs : ∀ c ∈ s.head?, isSpaceOrTab c = false ∧ c ≠ '(' ∧ c ≠ ';') :
    skipSeparators (t ++ s) = s := by
  induction t with
  | nil =>
    have hb : skipBlanks s = s := skipBlanks_of_head fun c hc => ⟨(hs c hc).1, (hs c hc).2.1⟩
    rw [List.nil_append, skipSeparators_of_ne, hb]
    intro rest hr
    rw [hb] at hr
    exact (hs ';' (by rw [hr]; rfl)).2.2 rfl
  | cons c t ih =>
    have ih := ih fun d hd => ht d (List.mem_cons_of_mem c hd)
    rcases ht c (List.mem_cons_self ..) with hc | rfl
    · exact (skipSeparators_of_skipBlanks (skipBlanks_cons hc (t ++ s))).trans ih
    · exact (skipSeparators_of_semicolon (skipBlanks_of_head (by simp; decide))).trans ih

/-! ## Items -/

theorem items_of_nothing {t : Text} (h : skipSeparators t = []) : items t = [] := by
  rw [items]
  split
  · rfl
  · rename_i c rest hc
    rw [h] at hc
    cases hc

theorem items_nil : items [] = [] :=
  items_of_nothing (skipSeparators_of_ne (by simp [skipBlanks, skipBlanksAt]))

/-- What is left after an item is cut into items as it stands. -/
theorem items_of_item {t s left : Text} {item : Item} (hs : skipSeparators t = s) (hn : s ≠ [])
    (hi : takeItem s = (item, some left)) : items t = item :: items left := by
  rw [items]
  split
  · rename_i hc
    exact absurd (hs ▸ hc) hn
  · rename_i c rest hc
    rw [hs] at hc
    split
    · rename_i other ho
      rw [← hc, hi] at ho
      cases ho
    · rename_i other left' ho
      rw [← hc, hi] at ho
      obtain ⟨rfl, hl⟩ := Prod.mk.inj ho
      obtain rfl := Option.some.inj hl
      rfl

/-- **A parameter is one item**, and what is left after its value is cut into items as it
stands. -/
theorem items_of_parameter {separator name s left : Text} {item : Item}
    (hp : IsSeparator separator) (hn : IsToken name)
    (hv : takeValue (Text.lower name) (dropSpaces s) = (item, some left)) :
    items (separator ++ (name ++ '=' :: s)) = item :: items left := by
  have hi : takeItem (name ++ '=' :: s) = (item, some left) := by
    simp only [takeItem, takeName?_append hn, hv]
  refine items_of_item (skipSeparators_append hp.chars fun c hc => ?_) (by simp) hi
  obtain ⟨hb, hc, hs, -⟩ := head?_token hn ('=' :: s) c hc
  exact ⟨hb, hc, hs⟩

/-! ## Values -/

theorem noBreak_quoteChar {t : Text} (ht : NoBreak t) : NoBreak (t.flatMap quoteChar) := by
  intro c hc
  obtain ⟨d, hd, hc⟩ := List.mem_flatMap.mp hc
  unfold quoteChar at hc
  split at hc
  · rcases List.mem_cons.mp hc with rfl | hc
    · decide
    · exact List.mem_singleton.mp hc ▸ ht d hd
  · exact List.mem_singleton.mp hc ▸ ht d hd

/-- What may stand between quotation marks for a value: its characters, some of them after a
backslash, quotation marks and backslashes always so. -/
inductive Quotes : Text → Text → Prop
  | nil : Quotes [] []
  | plain {c : Char} {body value : Text} (hc : c ≠ '"' ∧ c ≠ '\\') :
      Quotes body value → Quotes (c :: body) (c :: value)
  | escaped {c : Char} {body value : Text} :
      Quotes body value → Quotes ('\\' :: c :: body) (c :: value)

/-- Characters that need no backslash stand for themselves. -/
theorem Quotes.of_forall {t : Text} (h : ∀ c ∈ t, c ≠ '"' ∧ c ≠ '\\') : Quotes t t := by
  induction t with
  | nil => exact .nil
  | cons c rest ih =>
    rw [List.forall_mem_cons] at h
    exact .plain h.1 (ih h.2)

theorem quotes_quoteChar (t : Text) : Quotes (t.flatMap quoteChar) t := by
  induction t with
  | nil => exact .nil
  | cons c rest ih =>
    rw [List.flatMap_cons]
    by_cases hc : c = '\\' ∨ c = '"'
    · rw [quoteChar, if_pos (by simpa using hc)]
      exact .escaped ih
    · rw [quoteChar, if_neg (by simpa using hc)]
      rw [not_or] at hc
      exact .plain ⟨hc.2, hc.1⟩ ih

/-- **Quoting is undone by reading a quotation.** -/
theorem takeQuoted?_append {body value : Text} (hq : Quotes body value) (s : Text) :
    takeQuoted? (body ++ '"' :: s) = some (value, s) := by
  induction hq with
  | nil => simp [takeQuoted?]
  | plain hc _ ih =>
    rw [List.cons_append, takeQuoted?]
    · rw [if_neg hc.1, ih]
      rfl
    · exact fun d r h => absurd h hc.2
    · exact fun h => absurd h hc.2
  | escaped _ ih => simp only [List.cons_append, takeQuoted?, ih, Option.map_some]

theorem takeValue_quotes (name : Text) {body value : Text} (hq : Quotes body value) (rest : Text) :
    takeValue name ('"' :: (body ++ '"' :: rest)) = (.parameter name value, some rest) := by
  have hb : skipBlanks ('"' :: (body ++ '"' :: rest)) = '"' :: (body ++ '"' :: rest) :=
    skipBlanks_of_head (by simp; decide)
  simp only [takeValue, hb, takeQuoted?_append hq]

theorem takeValue_quoted (name t rest : Text) :
    takeValue name ('"' :: (t.flatMap quoteChar ++ '"' :: rest)) =
      (.parameter name t, some rest) :=
  takeValue_quotes name (quotes_quoteChar t) rest

/-- A bare value takes what belongs to words, and goes on after it as it would start there. -/
theorem takeBare_word {t : Text} (ht : ∀ c ∈ t, isBareChar c = true) (rest : Text) :
    takeBare (t ++ rest) = (t ++ (takeBare rest).1, (takeBare rest).2) := by
  induction t with
  | nil => rfl
  | cons c t ih =>
    rw [List.cons_append, takeBare, if_pos (by simp [ht c (List.mem_cons_self ..)]),
      ih fun d hd => ht d (List.mem_cons_of_mem c hd)]
    rfl

/-- A bare value is taken up to where none goes on. -/
theorem takeBare_append {t rest : Text} (ht : ∀ c ∈ t, isBareChar c = true)
    (hr : takeBare rest = ([], rest)) : takeBare (t ++ rest) = (t, rest) := by
  rw [takeBare_word ht, hr, List.append_nil]

theorem isBareChar_of_isSpaceOrTab {c : Char} (h : isSpaceOrTab c = true) :
    isBareChar c = false := by
  have hc : c = ' ' ∨ c = '\t' := by simpa [isSpaceOrTab] using h
  rcases hc with rfl | rfl <;> decide

theorem isSpaceOrTab_of_isBareChar {c : Char} (h : isBareChar c = true) :
    isSpaceOrTab c = false := by
  rw [Bool.eq_false_iff]
  intro hs
  rw [isBareChar_of_isSpaceOrTab hs] at h
  cases h

/-- Before a parameter no bare value goes on. -/
theorem bareContinues_separator {t name : Text} (ht : ∀ c ∈ t, isSpaceOrTab c = true ∨ c = ';')
    (hn : IsToken name) (s : Text) : bareContinues (t ++ (name ++ '=' :: s)) = false := by
  induction t with
  | nil =>
    obtain ⟨c, rest, hc⟩ := List.exists_cons_of_ne_nil hn.ne_nil
    have hd : dropSpaces (name ++ '=' :: s) = name ++ '=' :: s :=
      dropSpaces_of_head fun d h => (head?_token hn _ d h).1
    have hp : startsParameter (name ++ '=' :: s) = true := by
      rw [startsParameter, takeName?_append hn]
      rfl
    rw [hc, List.cons_append] at hd hp
    rw [hc, List.nil_append, List.cons_append, bareContinues, hd]
    simp only [hp, Bool.not_true, Bool.and_false]
  | cons c t ih =>
    rcases ht c (List.mem_cons_self ..) with hc | rfl
    · have hd : dropSpaces (c :: (t ++ (name ++ '=' :: s))) =
          dropSpaces (t ++ (name ++ '=' :: s)) := List.dropWhile_cons_of_pos hc
      have ih := ih fun d h => ht d (List.mem_cons_of_mem c h)
      rw [bareContinues] at ih
      rw [List.cons_append, bareContinues, hd]
      exact ih
    · rfl

/-- **A bare value ends where a parameter comes next.** -/
theorem takeBare_separator {separator name : Text} (hs : IsSeparator separator)
    (hn : IsToken name) (s : Text) :
    takeBare (separator ++ (name ++ '=' :: s)) = ([], separator ++ (name ++ '=' :: s)) := by
  obtain ⟨c, t, rfl⟩ := List.exists_cons_of_ne_nil hs.ne_nil
  have ht : ∀ d ∈ t, isSpaceOrTab d = true ∨ d = ';' := fun d h =>
    hs.chars d (List.mem_cons_of_mem c h)
  have hc : isBareChar c = false := by
    rcases hs.chars c (List.mem_cons_self ..) with hc | rfl
    · exact isBareChar_of_isSpaceOrTab hc
    · decide
  rw [List.cons_append, takeBare, if_neg]
  simp [hc, bareContinues_separator ht hn]

/-- A value without spaces has no comment at its end. -/
theorem dropTrailingComment_of_bare {t : Text} (ht : ∀ c ∈ t, isBareChar c = true) :
    dropTrailingComment t = t := by
  unfold dropTrailingComment
  split
  · rename_i body hb
    split
    · rename_i c before hd
      have hc : c ∈ t := by
        have hm : c ∈ body := (List.dropWhile_sublist _).subset (by rw [hd]; simp)
        exact List.mem_reverse.mp (by rw [hb]; exact List.mem_cons_of_mem _ hm)
      rw [if_neg (by simp [isSpaceOrTab_of_isBareChar (ht c hc)])]
    · rfl
  · rfl

/-- A text that starts with a word, and looks like no quotation and no comment, starts with a bare
value. -/
theorem takeValue_word (name : Text) {t : Text} (hn : t ≠ [])
    (hh : ∀ c ∈ t.head?, isBareChar c = true ∧ c ≠ '"' ∧ c ≠ '(') :
    takeValue name t =
      (.parameter name (dropTrailingComment (takeBare t).1), some (takeBare t).2) := by
  obtain ⟨c, rest, rfl⟩ := List.exists_cons_of_ne_nil hn
  obtain ⟨hc, hq, hp⟩ := hh c rfl
  have hb : skipBlanks (c :: rest) = c :: rest := skipBlanks_of_head fun d hd => by
    obtain rfl := Option.some.inj hd
    exact ⟨isSpaceOrTab_of_isBareChar hc, hp⟩
  rw [takeValue, hb]
  split
  · rename_i h
    exact absurd (List.cons.inj h).1 hq
  · rename_i h
    cases h
  · rename_i h
    obtain ⟨rfl, rfl⟩ := List.cons.inj h
    rw [if_pos hc]

/-- A bare value is taken if it looks like no quotation and no comment. -/
theorem takeValue_bare (name : Text) {t rest : Text} (hn : t ≠ [])
    (ht : ∀ c ∈ t, isBareChar c = true) (hh : ∀ c ∈ t.head?, c ≠ '"' ∧ c ≠ '(')
    (hr : takeBare rest = ([], rest)) :
    takeValue name (t ++ rest) = (.parameter name t, some rest) := by
  have hstart : ∀ c ∈ (t ++ rest).head?, isBareChar c = true ∧ c ≠ '"' ∧ c ≠ '(' := by
    intro c hc
    rw [List.head?_append_of_ne_nil _ hn] at hc
    exact ⟨ht c (List.mem_of_head? hc), hh c hc⟩
  rw [takeValue_word name (List.append_ne_nil_of_left_ne_nil hn rest) hstart,
    takeBare_append ht hr, dropTrailingComment_of_bare ht]

/-- Where no word starts and nothing is skipped, the value is empty. -/
theorem takeValue_of_noWord (name : Text) {t : Text}
    (h : ∀ c ∈ t.head?, isBareChar c = false ∧ isSpaceOrTab c = false) :
    takeValue name t = (.parameter name [], some t) := by
  cases t with
  | nil => rfl
  | cons c rest =>
    obtain ⟨hb, hs⟩ := h c rfl
    have hq : c ≠ '"' := by rintro rfl; exact absurd hb (by decide)
    have hp : c ≠ '(' := by rintro rfl; exact absurd hb (by decide)
    have hskip : skipBlanks (c :: rest) = c :: rest := skipBlanks_of_head fun d hd => by
      obtain rfl := Option.some.inj hd
      exact ⟨hs, hp⟩
    rw [takeValue, hskip]
    split
    · rename_i he
      exact absurd (List.cons.inj he).1 hq
    · rename_i he
      cases he
    · rename_i he
      obtain ⟨rfl, rfl⟩ := List.cons.inj he
      rw [hb]
      rfl

/-- An empty bare value ends at once before a semicolon and at the end. -/
theorem takeValue_nil (name : Text) {rest : Text} (hr : ∀ c ∈ rest.head?, c = ';') :
    takeValue name rest = (.parameter name [], some rest) :=
  takeValue_of_noWord name fun c hc => by rw [hr c hc]; decide

/-! ## Parameters -/

/-- A parameter as it is put down. -/
structure WrittenParameter where
  /-- What separates it from what comes before it. -/
  separator : Text
  /-- The name. -/
  name : Text
  /-- The value. -/
  value : Text
  /-- Whether the value is quoted. -/
  quoted : Bool
  deriving DecidableEq, Repr

namespace WrittenParameter

/-- The value as it is put down. -/
def valueText (p : WrittenParameter) : Text :=
  if p.quoted then '"' :: (p.value.flatMap quoteChar ++ ['"']) else p.value

/-- A parameter as it is put down after what comes before it. -/
def text (p : WrittenParameter) : Text := p.separator ++ (p.name ++ '=' :: p.valueText)

/-- The name and the value that a parameter is read as. -/
def pair (p : WrittenParameter) : Text × Text := (Text.lower p.name, p.value)

/-- A parameter that can be read: its name is a token, its value has no line breaks, and a bare
value has no blanks and semicolons and looks like no quotation and no comment. -/
structure IsReadable (p : WrittenParameter) : Prop where
  separator : IsSeparator p.separator
  name : IsToken p.name
  value : NoBreak p.value
  bare : p.quoted = false →
    (∀ c ∈ p.value, isBareChar c = true) ∧ ∀ c ∈ p.value.head?, c ≠ '"' ∧ c ≠ '('

instance (p : WrittenParameter) : Decidable p.IsReadable :=
  decidable_of_iff
    (IsSeparator p.separator ∧ IsToken p.name ∧ NoBreak p.value ∧
      (p.quoted = false →
        (∀ c ∈ p.value, isBareChar c = true) ∧ ∀ c ∈ p.value.head?, c ≠ '"' ∧ c ≠ '('))
    ⟨fun h => ⟨h.1, h.2.1, h.2.2.1, h.2.2.2⟩, fun h => ⟨h.separator, h.name, h.value, h.bare⟩⟩

/-- A value that is bare and empty. -/
def IsEmptyBare (p : WrittenParameter) : Prop := p.quoted = false ∧ p.value = []

variable {p : WrittenParameter} {rest : Text}

theorem takeValue_valueText (hp : p.IsReadable) (hr : takeBare rest = ([], rest))
    (hb : p.IsEmptyBare → ∀ c ∈ rest.head?, c = ';') (name : Text) :
    takeValue name (dropSpaces (p.valueText ++ rest)) = (.parameter name p.value, some rest) := by
  cases hq : p.quoted with
  | true =>
    have hv : p.valueText ++ rest = '"' :: (p.value.flatMap quoteChar ++ '"' :: rest) := by
      simp [valueText, hq]
    rw [hv, dropSpaces_of_head (by simp; decide)]
    exact takeValue_quoted ..
  | false =>
    have hv : p.valueText = p.value := by simp [valueText, hq]
    obtain ⟨hc, hh⟩ := hp.bare hq
    rw [hv]
    by_cases hn : p.value = []
    · have hs := hb ⟨hq, hn⟩
      rw [hn, List.nil_append, dropSpaces_of_head fun c hc => by rw [hs c hc]; decide]
      exact takeValue_nil name hs
    · rw [dropSpaces_of_head
        (Text.forall_head?_append hn fun c h => isSpaceOrTab_of_isBareChar (hc c h))]
      exact takeValue_bare name hn hc hh hr

/-- **A parameter that is put down is the first item of what it starts.** -/
theorem items_text_append (hp : p.IsReadable) (hr : takeBare rest = ([], rest))
    (hb : p.IsEmptyBare → ∀ c ∈ rest.head?, c = ';') :
    items (p.text ++ rest) = .parameter (Text.lower p.name) p.value :: items rest := by
  rw [text, List.append_assoc, List.append_assoc]
  exact items_of_parameter hp.separator hp.name (takeValue_valueText hp hr hb _)

/-- **Parameters that are put down are read one by one**, provided that after a value that is bare
and empty a semicolon comes next. -/
theorem items_flatMap_text {ps : List WrittenParameter} (hp : ∀ p ∈ ps, p.IsReadable)
    (hb : ∀ p ∈ ps, p.IsEmptyBare → ∀ q ∈ ps, q.separator.head? = some ';') :
    items (ps.flatMap text) = ps.map fun p => .parameter (Text.lower p.name) p.value := by
  induction ps with
  | nil => exact items_nil
  | cons p ps ih =>
    have ih := ih (fun q hq => hp q (List.mem_cons_of_mem p hq)) fun q hq h r hr =>
      hb q (List.mem_cons_of_mem p hq) h r (List.mem_cons_of_mem p hr)
    rw [List.flatMap_cons, items_text_append (hp p (List.mem_cons_self ..)), ih, List.map_cons]
    · -- a bare value before this is ended by the next parameter, or by the end of the text
      cases ps with
      | nil => rfl
      | cons q ps =>
        have hq := hp q (by simp)
        rw [List.flatMap_cons, text, List.append_assoc, List.append_assoc]
        exact takeBare_separator hq.separator hq.name _
    · intro h
      cases ps with
      | nil => simp
      | cons q ps =>
        obtain ⟨s, hs⟩ := List.head?_eq_some_iff.mp (hb p (by simp) h q (by simp))
        simp [text, hs]

end WrittenParameter
end MailScreen.Header
