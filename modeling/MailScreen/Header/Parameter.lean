import MailScreen.Header.Comment
import MailScreen.Header.Token
import MailScreen.Text.Case

/-!
# Parameters as written

After its primary value a structured header holds parameters, each a name, an equals sign and a
value. This module reads them as they are written: names in lower case, values without their
quotation marks, nothing decoded. Semicolons, blanks and comments separate parameters. What cannot
be read as a parameter is passed over up to the next semicolon, and a quotation that is not closed
ends the reading.

Each step of the reader leaves less than it was given, which is why it ends.
-/
namespace MailScreen.Header

/-- What one step of the reader finds. -/
inductive Item where
  /-- A parameter. -/
  | parameter (name value : Text)
  /-- Text that is no parameter. -/
  | malformed (text : Text)
  /-- A parameter whose quotation is not closed. -/
  | unterminated (name : Text)
  deriving DecidableEq, Repr

/-- Reads the rest of a quotation: the characters in it, where a backslash stands before one that is
taken as it is, and what is left after it. -/
def takeQuoted? : Text → Option (Text × Text)
  | [] => none
  | '\\' :: c :: rest => (takeQuoted? rest).map fun (value, rest) => (c :: value, rest)
  | ['\\'] => none
  | c :: rest =>
    if c = '"' then some ([], rest)
    else (takeQuoted? rest).map fun (value, rest) => (c :: value, rest)

/-- The characters of the words of a bare value. -/
def isBareChar (c : Char) : Bool := c ≠ ';' && !isBlank c

/-- Whether a text starts with the name of a parameter and its equals sign. -/
def startsParameter (t : Text) : Bool := (takeName? t).isSome

/-- Whether a bare value goes on after a space or tab that stands before `t`: the next word is there
and does not start a parameter. -/
def bareContinues (t : Text) : Bool :=
  match dropSpaces t with
  | [] => false
  | c :: rest => isBareChar c && !startsParameter (c :: rest)

/-- Reads a bare value: words with spaces and tabs between them, up to a semicolon, another blank or
a word that starts a parameter. -/
def takeBare : Text → Text × Text
  | [] => ([], [])
  | c :: rest =>
    if isBareChar c || (isSpaceOrTab c && bareContinues rest) then
      let (value, left) := takeBare rest
      (c :: value, left)
    else ([], c :: rest)

/-- Removes a comment without parentheses in it from the end of a bare value, with the spaces and
tabs before it. A comment that no space or tab comes before belongs to the value. -/
def dropTrailingComment (value : Text) : Text :=
  match value.reverse with
  | ')' :: body =>
    match body.dropWhile fun c => c ≠ '(' && c ≠ ')' with
    | '(' :: c :: before =>
      if isSpaceOrTab c then (before.dropWhile isSpaceOrTab).reverse else value
    | _ => value
  | _ => value

/-- Skips semicolons and the blanks and comments around them. -/
def skipSeparators (t : Text) : Text :=
  match _h : skipBlanks t with
  | ';' :: rest => skipSeparators rest
  | rest => rest
termination_by t.length
decreasing_by
  have h := length_skipBlanks_le t
  rw [_h, List.length_cons] at h
  omega

/-- Reads the value after a name and its equals sign: the item, and what is left, or `none` where
the reading ends. -/
def takeValue (name t : Text) : Item × Option Text :=
  match skipBlanks t with
  | '"' :: rest =>
    match takeQuoted? rest with
    | some (value, rest) => (.parameter name value, some rest)
    | none => (.unterminated name, none)
  | [] => (.parameter name [], some [])
  | c :: rest =>
    if isBareChar c then
      let (value, rest) := takeBare (c :: rest)
      (.parameter name (dropTrailingComment value), some rest)
    else (.parameter name [], some (c :: rest))

/-- Reads one item of a text that starts with no separator. -/
def takeItem (t : Text) : Item × Option Text :=
  match takeName? t with
  | some (name, rest) => takeValue (Text.lower name) rest
  | none => (.malformed (Text.trim (t.takeWhile (· ≠ ';'))), some (t.dropWhile (· ≠ ';')))

theorem length_skipSeparators_le (t : Text) : (skipSeparators t).length ≤ t.length := by
  fun_induction skipSeparators t with
  | case1 t rest h ih =>
    have hb := length_skipBlanks_le t
    rw [h, List.length_cons] at hb
    omega
  | case2 t h => exact length_skipBlanks_le t

/-- Skipping separators leaves no separator at the front. -/
theorem skipSeparators_ne_semicolon (t rest : Text) : skipSeparators t ≠ ';' :: rest := by
  fun_induction skipSeparators t with
  | case1 t rest' h ih => exact ih
  | case2 t h => exact fun hc => h rest hc

theorem length_takeQuoted?_le {t value rest : Text} (h : takeQuoted? t = some (value, rest)) :
    rest.length ≤ t.length := by
  fun_induction takeQuoted? t generalizing value rest with
  | case1 => simp at h
  | case2 c r ih =>
    obtain ⟨⟨v, r'⟩, hv, he⟩ := Option.map_eq_some_iff.1 h
    have := ih hv
    simp_all
    omega
  | case3 => simp at h
  | case4 => simp_all
  | case5 c r _ _ _ ih =>
    obtain ⟨⟨v, r'⟩, hv, he⟩ := Option.map_eq_some_iff.1 h
    have := ih hv
    simp_all
    omega

theorem length_takeBare_le (t : Text) : (takeBare t).2.length ≤ t.length := by
  fun_induction takeBare t <;> simp_all
  omega

theorem length_takeValue_le {name t rest : Text} {item : Item}
    (h : takeValue name t = (item, some rest)) : rest.length ≤ t.length := by
  have hs := length_skipBlanks_le t
  unfold takeValue at h
  split at h
  · rename_i r hr
    split at h
    · rename_i v r' hq
      have := length_takeQuoted?_le hq
      simp_all
      omega
    · simp at h
  · simp_all
  · rename_i c r hr hb
    split at h
    · have := length_takeBare_le (c :: r)
      simp_all
      omega
    · simp only [Prod.mk.injEq, Option.some.injEq] at h
      rw [← h.2, ← hb]
      exact hs

/-- An item takes at least one character with it. -/
theorem length_takeItem_lt {t rest : Text} {item : Item} (hne : t ≠ [])
    (hsep : ∀ r, t ≠ ';' :: r) (h : takeItem t = (item, some rest)) : rest.length < t.length := by
  unfold takeItem at h
  split at h
  · rename_i name r hn
    have h1 := length_takeName?_lt hn
    have h2 := length_takeValue_le h
    omega
  · cases t with
    | nil => exact absurd rfl hne
    | cons c r =>
      have hc : c ≠ ';' := fun hc => hsep r (by rw [hc])
      simp only [Prod.mk.injEq, Option.some.injEq] at h
      rw [← h.2, List.dropWhile_cons]
      simp only [ne_eq, hc, not_false_eq_true, decide_true, ↓reduceIte, List.length_cons]
      have := (List.dropWhile_sublist (fun c : Char => decide (c ≠ ';')) (l := r)).length_le
      simp only [ne_eq, decide_not] at this ⊢
      omega

/-- The items of what follows the primary value of a header. -/
def items (t : Text) : List Item :=
  match _h : skipSeparators t with
  | [] => []
  | c :: rest =>
    match _h' : takeItem (c :: rest) with
    | (item, none) => [item]
    | (item, some left) => item :: items left
termination_by t.length
decreasing_by
  have h1 := length_skipSeparators_le t
  have h2 := length_takeItem_lt (by simp) (fun r => _h ▸ skipSeparators_ne_semicolon t r) _h'
  rw [_h] at h1
  omega

end MailScreen.Header
