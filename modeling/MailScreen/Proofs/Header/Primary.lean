import MailScreen.Proofs.FirstFailure
import MailScreen.Proofs.Header.Items
import MailScreen.Proofs.Text.Lower

/-!
# Primary values

A structured header is unfolded, then its primary value is taken, and then the parameters are read
from what is left. A header that starts with a token, or with two and a slash between them, is read
as the parameters in what follows them (`Header.parseDisposition_of_unfold`,
`Header.parseContentType_of_unfold`). Whatever a header is, the content type that is read from it is
made of tokens and has no line breaks in it (`Header.noBreak_of_parseContentType`).
-/
namespace MailScreen.Header

open Ascii

/-! ## Unfolding -/

/-- Text without line breaks is not unfolded. -/
theorem unfoldLines_append {s t : Text} (hs : NoBreak s) :
    unfoldLines (s ++ t) = s ++ unfoldLines t := by
  induction s with
  | nil => rfl
  | cons c rest ih =>
    obtain ⟨hr, hn⟩ := hs c (List.mem_cons_self ..)
    rw [List.cons_append, unfoldLines]
    · rw [if_neg hn, if_neg hr, ih fun d hd => hs d (List.mem_cons_of_mem c hd), List.cons_append]
    · exact fun _ h => absurd h hr

theorem unfoldLines_of_noBreak {t : Text} (ht : NoBreak t) : unfoldLines t = t := by
  have h := unfoldLines_append (t := []) ht
  rwa [List.append_nil, unfoldLines, List.append_nil] at h

/-- What has been unfolded has no line breaks in it. -/
theorem noBreak_unfoldLines (t : Text) : NoBreak (unfoldLines t) := by
  fun_induction unfoldLines t with
  | case1 => decide
  | case2 rest _ ih => exact ih
  | case3 rest _ ih => exact (ih.cons (by decide) (by decide)).cons (by decide) (by decide)
  | case4 rest _ _ ih => exact ih
  | case5 rest _ _ ih => exact ih.cons (by decide) (by decide)
  | case6 rest _ _ ih => exact ih.cons (by decide) (by decide)
  | case7 c rest _ hn hr ih => exact ih.cons hr hn

/-- A header on one line is left alone if it neither starts nor ends with a blank. -/
theorem unfold_of_noBreak {t : Text} (ht : NoBreak t) (hh : ∀ c ∈ t.head?, isBlank c = false)
    (hl : ∀ c ∈ t.getLast?, isBlank c = false) : unfold t = t := by
  rw [unfold, unfoldLines_of_noBreak ht, Text.trim_of_ends hh hl]

/-- Nothing is left of blanks when they are unfolded. -/
theorem unfold_of_isAllBlank {raw : Text} (h : Text.isAllBlank raw = true) : unfold raw = [] := by
  rw [Text.isAllBlank, List.all_eq_true] at h
  refine Text.trim_of_blanks ?_
  have hs : ∀ {t : Text}, (∀ c ∈ t, isBlank c = true) → ∀ c ∈ ' ' :: t, isBlank c = true :=
    fun ht => List.forall_mem_cons.mpr ⟨by decide, ht⟩
  fun_induction unfoldLines raw with
  | case1 => simp
  | case2 rest _ ih => exact ih fun c hc => h c (by simp [hc])
  | case3 rest _ ih => exact hs (hs (ih fun c hc => h c (by simp [hc])))
  | case4 rest _ _ ih => exact ih fun c hc => h c (by simp [hc])
  | case5 rest _ _ ih => exact hs (ih fun c hc => h c (by simp [hc]))
  | case6 rest _ _ ih => exact hs (ih fun c hc => h c (by simp [hc]))
  | case7 c rest _ _ _ ih =>
    rw [List.forall_mem_cons] at h
    exact List.forall_mem_cons.mpr ⟨h.1, ih h.2⟩

/-! ## What follows a primary value -/

/-- What may follow a primary value: it does not go on, and no equals sign makes it the name of a
parameter. -/
structure EndsPrimary (t : Text) : Prop where
  token : ∀ c ∈ t.head?, isTokenChar c = false
  sign : (skipBlanks t).head? ≠ some '='

variable {settings : Settings} {raw rest : Text} {params : Table Text}

theorem isBlank_of_isToken {t : Text} (ht : IsToken t) : ∀ c ∈ t, isBlank c = false :=
  ht.forall_mem (by decide)

/-- A token at the start of a header is not skipped. -/
theorem skipBlanks_token {t s : Text} (ht : IsToken t) : skipBlanks (t ++ s) = t ++ s :=
  skipBlanks_of_head fun c hc => by
    obtain ⟨hb, hp, -⟩ := head?_token ht s c hc
    exact ⟨hb, hp⟩

/-- What follows a primary value is read if it does not start with an equals sign and its parameters
can be read. -/
theorem finish_eq_ok_iff {header : String} {primary : Text} {read : StructuredHeader} :
    (finish settings header primary rest).result = .ok read ↔
      (skipBlanks rest).head? ≠ some '=' ∧
        (parameters settings rest).result = .ok read.params ∧ read.value = Text.lower primary := by
  unfold finish
  split
  · rename_i left hl
    rw [hl]
    exact ⟨fun h => (nomatch h), fun h => absurd rfl h.1⟩
  · rename_i hl
    have hs : (skipBlanks rest).head? ≠ some '=' := by
      intro hs
      obtain ⟨left, hs⟩ := List.head?_eq_some_iff.mp hs
      exact hl left hs
    rw [Noted.result_bind]
    constructor
    · intro h
      obtain ⟨params, hp, h⟩ := bind_eq_ok_iff.mp h
      obtain rfl := Except.ok.inj h
      exact ⟨hs, hp, rfl⟩
    · rintro ⟨-, hp, hv⟩
      obtain ⟨value, params⟩ := read
      obtain rfl : value = Text.lower primary := hv
      exact bind_eq_ok_iff.mpr ⟨params, hp, rfl⟩

/-- What follows a primary value is read as its parameters if it does not start with an equals
sign. -/
theorem finish_eq {header : String} {primary : Text} (hs : (skipBlanks rest).head? ≠ some '=') :
    finish settings header primary rest =
      parameters settings rest >>= fun params => pure ⟨Text.lower primary, params⟩ := by
  unfold finish
  split
  · rename_i left hl
    rw [hl] at hs
    exact absurd rfl hs
  · rfl

/-- A header in which a token comes first, after what is skipped, is read as the parameters that
follow, and nothing else is noted. -/
theorem parseDisposition_eq {primary : Text} (hu : skipBlanks (unfold raw) = primary ++ rest)
    (ht : IsToken primary) (hr : EndsPrimary rest) :
    parseDisposition settings raw =
      parameters settings rest >>= fun params => pure ⟨Text.lower primary, params⟩ := by
  simp only [parseDisposition, hu, takeToken?_append ht.ne_nil ht.chars hr.token]
  exact finish_eq hr.sign

/-- A header in which a token comes first, after what is skipped, is a disposition with the
parameters that follow. -/
theorem parseDisposition_of_skipBlanks {primary : Text}
    (hu : skipBlanks (unfold raw) = primary ++ rest) (ht : IsToken primary) (hr : EndsPrimary rest)
    (hp : (parameters settings rest).result = .ok params) :
    (parseDisposition settings raw).result = .ok ⟨Text.lower primary, params⟩ := by
  rw [parseDisposition_eq hu ht hr, Noted.result_bind, hp]
  rfl

/-- **A header that starts with a token is a disposition with the parameters that follow.** -/
theorem parseDisposition_of_unfold {primary : Text} (hu : unfold raw = primary ++ rest)
    (ht : IsToken primary) (hr : EndsPrimary rest)
    (hp : (parameters settings rest).result = .ok params) :
    (parseDisposition settings raw).result = .ok ⟨Text.lower primary, params⟩ :=
  parseDisposition_of_skipBlanks (by rw [hu, skipBlanks_token ht]) ht hr hp

theorem parseContentType_of_ok {type : Text}
    (hc : takeContentType? (skipBlanks (unfold raw)) = some (type, rest))
    (hs : (skipBlanks rest).head? ≠ some '=')
    (hp : (parameters settings rest).result = .ok params) :
    (parseContentType settings raw).result = .ok ⟨Text.lower type, params⟩ := by
  simp only [parseContentType, hc]
  exact finish_eq_ok_iff.mpr ⟨hs, hp, rfl⟩

/-- **A header that starts with two tokens and a slash between them is a content type with the
parameters that follow.** -/
theorem parseContentType_of_unfold {kind subtype : Text}
    (hu : unfold raw = (kind ++ '/' :: subtype) ++ rest) (hk : IsToken kind) (hs : IsToken subtype)
    (hr : EndsPrimary rest) (hp : (parameters settings rest).result = .ok params) :
    (parseContentType settings raw).result = .ok ⟨Text.lower (kind ++ '/' :: subtype), params⟩ := by
  have ht : takeToken? (kind ++ '/' :: (subtype ++ rest)) = some (kind, '/' :: (subtype ++ rest)) :=
    takeToken?_append hk.ne_nil hk.chars (by simp; decide)
  have hd : dropSpaces ('/' :: (subtype ++ rest)) = '/' :: (subtype ++ rest) :=
    dropSpaces_of_head (by simp; decide)
  have hd' : dropSpaces (subtype ++ rest) = subtype ++ rest :=
    dropSpaces_of_head fun c hc => (head?_token hs rest c hc).1
  refine parseContentType_of_ok ?_ hr.sign hp
  rw [hu, List.append_assoc, List.cons_append, skipBlanks_token hk]
  simp only [takeContentType?, ht, hd, hd', takeToken?_append hs.ne_nil hs.chars hr.token,
    Option.bind_eq_bind, Option.bind_some]

/-! ## Content types -/

theorem noBreak_of_takeToken? {t token left : Text} (h : takeToken? t = some (token, left)) :
    NoBreak token := by
  have ht : NoBreak (t.takeWhile isTokenChar) :=
    .of_forall (by decide) (by decide) fun _ hc => List.mem_takeWhile_imp hc
  unfold takeToken? at h
  split at h
  · cases h
  · rename_i hw
    obtain ⟨rfl, -⟩ := Prod.mk.inj (Option.some.inj h)
    rwa [hw] at ht

theorem noBreak_of_takeContentType? {t type left : Text}
    (h : takeContentType? t = some (type, left)) : NoBreak type := by
  obtain ⟨⟨kind, after⟩, hk, h⟩ := Option.bind_eq_some_iff.mp h
  simp only at h
  split at h
  · obtain ⟨⟨subtype, left'⟩, hs, h⟩ := Option.bind_eq_some_iff.mp h
    obtain ⟨rfl, -⟩ := Prod.mk.inj (Option.some.inj h)
    exact (noBreak_of_takeToken? hk).append
      ((noBreak_of_takeToken? hs).cons (by decide) (by decide))
  · cases h

/-- **A content type that is read has no line breaks in it**, whatever it is read from. -/
theorem noBreak_of_parseContentType {header : StructuredHeader}
    (h : (parseContentType settings raw).result = .ok header) : NoBreak header.value := by
  unfold parseContentType at h
  simp only at h
  split at h
  · cases h
  · rename_i ht
    rw [(finish_eq_ok_iff.mp h).2.2]
    exact (noBreak_of_takeContentType? ht).lower

end MailScreen.Header
