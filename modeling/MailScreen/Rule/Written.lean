import MailScreen.Text.Blank
import MailScreen.Text.Letter

/-!
# Clauses as written

A clause is a key, an operator of two characters and a value, with blanks between them if wanted,
and a blank or the end of the text after it. The value is a pattern between delimiters with letters
for options after it, or a quoted text, or a run of characters that are neither blanks nor quotation
marks. A rule definition is cut into clauses and the gaps between them, and nothing is lost: the
gaps and the clauses put together are the definition.
-/
namespace MailScreen

/-- The value of a clause as written. -/
inductive WrittenValue where
  /-- A pattern between delimiters, with the letters of its options. -/
  | pattern (opening body : Text) (closing : Char) (letters : Text)
  /-- A text between two quotation marks. -/
  | quoted (mark : Char) (text : Text)
  /-- A text as it stands. -/
  | bare (text : Text)
  deriving DecidableEq, Repr

/-- The text that a value is written as. -/
def WrittenValue.text : WrittenValue → Text
  | pattern opening body closing letters => opening ++ body ++ closing :: letters
  | quoted mark text => mark :: text ++ [mark]
  | bare text => text

/-- A clause as written. -/
structure WrittenClause where
  /-- The key. -/
  key : Text
  /-- The blanks before the operator. -/
  before : Text
  /-- The two characters of the operator. -/
  operator : Char × Char
  /-- The blanks after the operator. -/
  after : Text
  /-- The value. -/
  value : WrittenValue
  deriving DecidableEq, Repr

/-- The text that a clause is written as. -/
def WrittenClause.text (clause : WrittenClause) : Text :=
  clause.key ++ clause.before ++ clause.operator.1 :: clause.operator.2 :: clause.after ++
    clause.value.text

namespace WrittenClause

/-- The letters that may follow a pattern. -/
def isOptionLetter (c : Char) : Bool := c == 'i' || c == 'm' || c == 's' || c == 'x'

/-- Whether a value may end before a text. -/
def endsValue : Text → Bool
  | [] => true
  | c :: _ => isBlank c

/-- Reads up to the first closing delimiter after which, the option letters passed over, a value
may end: what stands before the delimiter, the letters, and what is left. A line feed may not stand
before the delimiter. -/
def takeBody? (closing : Char) : Text → Option (Text × Text × Text)
  | [] => none
  | c :: rest =>
    if c = closing && endsValue (rest.dropWhile isOptionLetter) then
      some ([], rest.takeWhile isOptionLetter, rest.dropWhile isOptionLetter)
    else if c = '\n' then none
    else (takeBody? closing rest).map fun (body, more) => (c :: body, more)

/-- The bracket that closes one. -/
def closingBracket? (c : Char) : Option Char :=
  if c = '\x7b' then some '\x7d'
  else if c = '(' then some ')'
  else if c = '[' then some ']'
  else if c = '<' then some '>'
  else none

/-- Reads a pattern value with a given opening. -/
def takePatternAfter? (opening : Text) (closing : Char) (t : Text) : Option (WrittenValue × Text) :=
  (takeBody? closing t).map fun (body, letters, rest) =>
    (.pattern opening body closing letters, rest)

/-- Reads a pattern value: between slashes, or after an `m` between brackets that belong together
or between two times the same character that is not a word character. -/
def takePattern? : Text → Option (WrittenValue × Text)
  | '/' :: rest => takePatternAfter? ['/'] '/' rest
  | 'm' :: c :: rest =>
    ((closingBracket? c).bind fun closing => takePatternAfter? ['m', c] closing rest).or
      (if isWord c then none else takePatternAfter? ['m', c] c rest)
  | _ => none

/-- Reads up to the first quotation mark after which a value may end. -/
def takeQuotedBody? (mark : Char) : Text → Option (Text × Text)
  | [] => none
  | c :: rest =>
    if c = mark && endsValue rest then some ([], rest)
    else if c = '\n' then none
    else (takeQuotedBody? mark rest).map fun (body, more) => (c :: body, more)

/-- The quotation marks. -/
def isQuotationMark (c : Char) : Bool := c == '"' || c == '\''

/-- Reads a quoted value. -/
def takeQuoted? : Text → Option (WrittenValue × Text)
  | [] => none
  | mark :: rest =>
    if isQuotationMark mark then
      (takeQuotedBody? mark rest).map fun (text, rest) => (.quoted mark text, rest)
    else none

/-- The characters of a bare value. -/
def isBareChar (c : Char) : Bool := !isBlank c && !isQuotationMark c

/-- Reads a bare value. -/
def takeBare? (t : Text) : Option (WrittenValue × Text) :=
  let text := t.takeWhile isBareChar
  let rest := t.dropWhile isBareChar
  if text.isEmpty || !endsValue rest then none else some (.bare text, rest)

/-- Reads a value. -/
def takeValue? (t : Text) : Option (WrittenValue × Text) :=
  (takePattern? t).or ((takeQuoted? t).or (takeBare? t))

/-- The characters that a key may start with. -/
def startsKey (c : Char) : Bool := ('a' ≤ c && c ≤ 'z') || ('A' ≤ c && c ≤ 'Z') || c == '_'

/-- Whether two characters are an operator. -/
def isOperator (first second : Char) : Bool :=
  (first == '=' || first == '!') && (second == '~' || second == '=')

/-- Reads a clause, which has to start at the start of a word. -/
def take? : Text → Option (WrittenClause × Text)
  | [] => none
  | c :: t =>
    if startsKey c then
      let tail := t.dropWhile isWord
      match tail.dropWhile isBlank with
      | first :: second :: rest =>
        if isOperator first second then
          (takeValue? (rest.dropWhile isBlank)).map fun (value, left) =>
            (⟨c :: t.takeWhile isWord, tail.takeWhile isBlank, (first, second),
              rest.takeWhile isBlank, value⟩, left)
        else none
      | _ => none
    else none

/-! ## What is read and what is left make up the text -/

theorem takeBody?_append {closing : Char} {t body letters rest : Text}
    (h : takeBody? closing t = some (body, letters, rest)) :
    t = body ++ closing :: letters ++ rest := by
  fun_induction takeBody? closing t generalizing body with
  | case1 => simp at h
  | case2 c t hc =>
    simp only [Option.some.injEq, Prod.mk.injEq, Bool.and_eq_true, decide_eq_true_eq] at h hc
    obtain ⟨rfl, rfl, rfl⟩ := h
    simp [hc.1, List.takeWhile_append_dropWhile]
  | case3 => simp at h
  | case4 c t _ _ ih =>
    simp only [Option.map_eq_some_iff, Prod.exists, Prod.mk.injEq] at h
    obtain ⟨b, l, r, h, rfl, rfl, rfl⟩ := h
    simpa using ih h

theorem takePatternAfter?_append {opening t rest : Text} {closing : Char} {value : WrittenValue}
    (h : takePatternAfter? opening closing t = some (value, rest)) :
    opening ++ t = value.text ++ rest := by
  simp only [takePatternAfter?, Option.map_eq_some_iff, Prod.exists, Prod.mk.injEq] at h
  obtain ⟨body, letters, left, h, rfl, rfl⟩ := h
  simp [WrittenValue.text, takeBody?_append h]

theorem takePattern?_append {t rest : Text} {value : WrittenValue}
    (h : takePattern? t = some (value, rest)) : t = value.text ++ rest := by
  unfold takePattern? at h
  split at h
  · exact takePatternAfter?_append h
  · rename_i c t
    rcases Option.or_eq_some_iff.1 h with h | ⟨-, h⟩
    · obtain ⟨closing, -, h⟩ := Option.bind_eq_some_iff.1 h
      exact takePatternAfter?_append h
    · split at h
      · simp at h
      · exact takePatternAfter?_append h
  · simp at h

theorem takeQuotedBody?_append {mark : Char} {t body rest : Text}
    (h : takeQuotedBody? mark t = some (body, rest)) : t = body ++ mark :: rest := by
  fun_induction takeQuotedBody? mark t generalizing body with
  | case1 => simp at h
  | case2 c t hc =>
    simp only [Option.some.injEq, Prod.mk.injEq, Bool.and_eq_true, decide_eq_true_eq] at h hc
    obtain ⟨rfl, rfl⟩ := h
    simp [hc.1]
  | case3 => simp at h
  | case4 c t _ _ ih =>
    simp only [Option.map_eq_some_iff, Prod.exists, Prod.mk.injEq] at h
    obtain ⟨b, more, h, rfl, rfl⟩ := h
    simpa using ih h

theorem takeQuoted?_append {t rest : Text} {value : WrittenValue}
    (h : takeQuoted? t = some (value, rest)) : t = value.text ++ rest := by
  unfold takeQuoted? at h
  split at h
  · simp at h
  · split at h
    · simp only [Option.map_eq_some_iff, Prod.exists, Prod.mk.injEq] at h
      obtain ⟨body, more, h, rfl, rfl⟩ := h
      simp [WrittenValue.text, takeQuotedBody?_append h]
    · simp at h

theorem takeBare?_append {t rest : Text} {value : WrittenValue}
    (h : takeBare? t = some (value, rest)) : t = value.text ++ rest := by
  simp only [takeBare?] at h
  split at h
  · simp at h
  · simp only [Option.some.injEq, Prod.mk.injEq] at h
    obtain ⟨rfl, rfl⟩ := h
    simp [WrittenValue.text, List.takeWhile_append_dropWhile]

theorem takeValue?_append {t rest : Text} {value : WrittenValue}
    (h : takeValue? t = some (value, rest)) : t = value.text ++ rest := by
  rcases Option.or_eq_some_iff.1 h with h | ⟨-, h⟩
  · exact takePattern?_append h
  · rcases Option.or_eq_some_iff.1 h with h | ⟨-, h⟩
    · exact takeQuoted?_append h
    · exact takeBare?_append h

/-- A clause and what is left after it make up the text. -/
theorem take?_append {t rest : Text} {clause : WrittenClause} (h : take? t = some (clause, rest)) :
    t = clause.text ++ rest := by
  unfold take? at h
  split at h
  · simp at h
  · rename_i c t
    split at h
    · simp only at h
      split at h
      · rename_i first second r hr
        split at h
        · simp only [Option.map_eq_some_iff, Prod.exists, Prod.mk.injEq] at h
          obtain ⟨value, left, h, rfl, rfl⟩ := h
          have h1 := takeValue?_append h
          have h2 : r = r.takeWhile isBlank ++ (value.text ++ left) := by
            rw [← h1, List.takeWhile_append_dropWhile]
          have h3 : t.dropWhile isWord
              = (t.dropWhile isWord).takeWhile isBlank ++ first :: second :: r := by
            rw [← hr, List.takeWhile_append_dropWhile]
          have h4 : t = t.takeWhile isWord ++ t.dropWhile isWord := by
            rw [List.takeWhile_append_dropWhile]
          show c :: t = _
          simp only [text, List.cons_append, List.append_assoc]
          rw [← h2, ← h3, ← h4]
        · simp at h
      · simp at h
    · simp at h

/-- A clause takes at least one character. -/
theorem length_take?_lt {t rest : Text} {clause : WrittenClause}
    (h : take? t = some (clause, rest)) : rest.length < t.length := by
  rw [take?_append h]
  simp [text]
  omega

end WrittenClause

/-- A rule definition cut into its clauses, each with the gap before it, and the last gap. -/
structure Cut where
  /-- The clauses with the gaps before them. -/
  clauses : List (Text × WrittenClause)
  /-- What follows the last clause. -/
  last : Text
  deriving DecidableEq, Repr

namespace Cut

/-- The gaps of a cut in order. -/
def gaps (cut : Cut) : List Text := cut.clauses.map (·.1) ++ [cut.last]

/-- The text that was cut. -/
def text (cut : Cut) : Text :=
  cut.clauses.flatMap (fun (gap, clause) => gap ++ clause.text) ++ cut.last

/-- Cuts what follows a gap, which is given in reverse. `inWord` says that the character before is
a word character, so that no clause starts here. -/
def after (inWord : Bool) (gap : Text) (t : Text) : Cut :=
  match t with
  | [] => ⟨[], gap.reverse⟩
  | c :: rest =>
    match _h : if inWord then none else WrittenClause.take? (c :: rest) with
    | some (clause, left) =>
      let cut := after false [] left
      ⟨(gap.reverse, clause) :: cut.clauses, cut.last⟩
    | none => after (isWord c) (c :: gap) rest
termination_by t.length
decreasing_by
  · split at _h
    · simp at _h
    · exact WrittenClause.length_take?_lt _h
  · simp

/-- Cuts a rule definition. -/
def ofText (definition : Text) : Cut := after false [] definition

theorem text_after (inWord : Bool) (gap t : Text) :
    (after inWord gap t).text = gap.reverse ++ t := by
  fun_induction after inWord gap t with
  | case1 => simp [text]
  | case2 inWord gap c rest clause left h cut ih =>
    have h' : WrittenClause.take? (c :: rest) = some (clause, left) := by
      split at h
      · simp at h
      · exact h
    have := WrittenClause.take?_append h'
    simp only [text, List.reverse_nil, List.nil_append] at ih ⊢
    simp only [List.flatMap_cons, List.append_assoc]
    rw [ih, ← this]
  | case3 inWord gap c rest h ih => simpa using ih

/-- The gaps and the clauses of a definition make up the definition. -/
theorem text_ofText (definition : Text) : (ofText definition).text = definition := by
  simp [ofText, text_after]

end Cut
end MailScreen
