import MailScreen.Proofs.Rule.Content
import MailScreen.Proofs.Rule.Evaluation
import MailScreen.Proofs.Text.Integer
import MailScreen.Proofs.Text.Join

/-!
# Lines that ask for a number of attachments

A `body` line defines a check of the number of attachments by two integers: the least number and the
greatest. Integers are shown in decimal, perhaps in quotation marks, with blanks around them and
commas between them. **A line with two integers defines the check that it shows, and any other
number of integers, or a word among them, is refused** (`RuleSet.takesCountLine`), whatever rules
have been read before: the first takes the name from an earlier rule and changes nothing else, and
the second changes nothing but the record.
-/
namespace MailScreen

/-- An argument of a call as it is written: an integer, perhaps in quotation marks, or a word. -/
inductive WrittenArgument where
  | integer (mark? : Option Char) (n : Int)
  | word (t : Text)

/-- What stands between two commas of a call. -/
structure WrittenPiece where
  /-- The blanks before the argument. -/
  before : Text
  /-- The argument. -/
  argument : WrittenArgument
  /-- The blanks after the argument. -/
  after : Text

namespace WrittenArgument

/-- The argument without quotation marks. -/
def bare : WrittenArgument → Text
  | integer _ n => (toString n).toList
  | word t => t

/-- What is written. -/
def text : WrittenArgument → Text
  | integer mark? n => mark?.toList ++ (toString n).toList ++ mark?.toList
  | word t => t

/-- The integer that an argument is, if it is one. -/
def value? : WrittenArgument → Option Int
  | integer _ n => some n
  | word _ => none

/-- An integer with no more digits than are read, or a word of letters. -/
def IsWellWritten : WrittenArgument → Prop
  | integer mark? n => (∀ mark ∈ mark?, WrittenClause.isQuotationMark mark = true) ∧
      (Nat.toDigits 10 n.natAbs).length ≤ maxIntegerDigits
  | word t => t ≠ [] ∧ ∀ c ∈ t, c.isAlpha = true

instance (argument : WrittenArgument) : Decidable argument.IsWellWritten :=
  match argument with
  | integer mark? n => inferInstanceAs (Decidable
      ((∀ mark ∈ mark?, WrittenClause.isQuotationMark mark = true) ∧
        (Nat.toDigits 10 n.natAbs).length ≤ maxIntegerDigits))
  | word t => inferInstanceAs (Decidable (t ≠ [] ∧ ∀ c ∈ t, c.isAlpha = true))

end WrittenArgument

namespace WrittenPiece

/-- What is written. -/
def text (piece : WrittenPiece) : Text := piece.before ++ piece.argument.text ++ piece.after

/-- The integer between the commas, if there is one. -/
def value? (piece : WrittenPiece) : Option Int := piece.argument.value?

/-- An argument with blanks around it that do not end the line. -/
structure IsWellWritten (piece : WrittenPiece) : Prop where
  before : ∀ c ∈ piece.before, isBlank c = true ∧ c ≠ '\n'
  argument : piece.argument.IsWellWritten
  after : ∀ c ∈ piece.after, isBlank c = true ∧ c ≠ '\n'

instance (piece : WrittenPiece) : Decidable piece.IsWellWritten :=
  decidable_of_iff ((∀ c ∈ piece.before, isBlank c = true ∧ c ≠ '\n') ∧
      piece.argument.IsWellWritten ∧ ∀ c ∈ piece.after, isBlank c = true ∧ c ≠ '\n')
    ⟨fun h => ⟨h.1, h.2.1, h.2.2⟩, fun h => ⟨h.before, h.argument, h.after⟩⟩

end WrittenPiece

/-- A line that asks for a number of attachments. -/
def countLine (name : Text) (pieces : List WrittenPiece) : Text :=
  "body ".toList ++ name ++ " eval:check_attachment_count(".toList ++
    List.intercalate [','] (pieces.map WrittenPiece.text) ++ [')']

/-- The call in such a line. -/
def RuleLine.countCall (name : Text) (pieces : List WrittenPiece) : CheckCall where
  name := name
  function := Check.countName.toList
  arguments := Text.trim (List.intercalate [','] (pieces.map WrittenPiece.text))

namespace RuleSet

/-- **A rule set that has gained a check of a number**, in the place of any rule of its name. -/
structure GainsCount (set next : RuleSet) (name : Text) (least most : Int) : Prop where
  /-- No attachment rule has the name any more. -/
  attachmentRules : next.attachmentRules = set.attachmentRules.erase name
  /-- The check is the last, and the only one of its name. -/
  checkRules : next.checkRules =
    set.checkRules.erase name ++ [(name, ⟨name, .count least most⟩)]
  /-- Nothing is put on record. -/
  rejections : next.rejections = set.rejections
  /-- The check holds if the number of records is in range. -/
  holds_iff : ∀ records, ∃ results held, (next.evaluate records).result = .ok results ∧
    results.find? name = some held ∧
    (held = true ↔ least ≤ (records.length : Int) ∧ (records.length : Int) ≤ most)

/-- **A rule set that has gained a refusal** and is otherwise as it was. -/
structure GainsRejection (set next : RuleSet) (name : Text) (number : Nat) : Prop where
  attachmentRules : next.attachmentRules = set.attachmentRules
  checkRules : next.checkRules = set.checkRules
  rejections : ∃ reason, next.rejections = set.rejections ++ [⟨name, number, reason⟩]

end RuleSet

/-! ## One argument -/

namespace WrittenArgument

variable {argument : WrittenArgument}

/-- An integer is shown by digits and a sign. -/
theorem forall_mem_toString_int {p : Char → Prop} (hm : p '-')
    (hp : ∀ n < 0x80, (Char.ofNat n).isDigit = true → p (Char.ofNat n)) (n : Int) :
    ∀ c ∈ (toString n).toList, p c := by
  rw [toList_toString_int]
  split
  · exact List.forall_mem_cons.mpr ⟨hm, forall_mem_toDigits hp _⟩
  · exact forall_mem_toDigits hp _

theorem bare_ne_nil (h : argument.IsWellWritten) : argument.bare ≠ [] := by
  cases argument with
  | integer mark? n =>
    rw [bare, toList_toString_int]
    split <;> simp
  | word t => exact h.1

/-- There are no blanks and no quotation marks in an integer or a word, and nothing else that means
anything in a line. -/
theorem bare_chars (h : argument.IsWellWritten) : ∀ c ∈ argument.bare,
    isBlank c = false ∧ WrittenClause.isQuotationMark c = false ∧ c ∉ [',', '#', ':'] := by
  cases argument with
  | integer mark? n => exact forall_mem_toString_int (by decide) (by decide) n
  | word t =>
    intro c hc
    exact Ascii.forall_of_isAlpha (p := fun c =>
        isBlank c = false ∧ WrittenClause.isQuotationMark c = false ∧ c ∉ [',', '#', ':'])
      (by decide) (h.2 c hc)

/-- An argument is written with quotation marks around it or with nothing. -/
theorem exists_text_eq (h : argument.IsWellWritten) : ∃ marks : Text,
    argument.text = marks ++ argument.bare ++ marks ∧
      ∀ c ∈ marks, WrittenClause.isQuotationMark c = true := by
  cases argument with
  | integer mark? n => exact ⟨mark?.toList, rfl, fun c hc => h.1 c (Option.mem_toList.mp hc)⟩
  | word t => exact ⟨[], by rw [List.nil_append, List.append_nil]; rfl, List.forall_mem_nil _⟩

theorem text_ne_nil (h : argument.IsWellWritten) : argument.text ≠ [] := by
  obtain ⟨marks, ht, -⟩ := exists_text_eq h
  rw [ht, List.append_assoc]
  exact List.append_ne_nil_of_right_ne_nil _ (List.append_ne_nil_of_left_ne_nil (bare_ne_nil h) _)

theorem text_chars (h : argument.IsWellWritten) :
    ∀ c ∈ argument.text, isBlank c = false ∧ c ∉ [',', '#', ':'] := by
  obtain ⟨marks, ht, hm⟩ := exists_text_eq h
  have hmarks : ∀ c ∈ marks, isBlank c = false ∧ c ∉ [',', '#', ':'] := by
    intro c hc
    have hq : c = '"' ∨ c = '\'' := by simpa [WrittenClause.isQuotationMark] using hm c hc
    rcases hq with rfl | rfl <;> decide
  have hbare : ∀ c ∈ argument.bare, isBlank c = false ∧ c ∉ [',', '#', ':'] := fun c hc =>
    ⟨(bare_chars h c hc).1, (bare_chars h c hc).2.2⟩
  rw [ht]
  exact List.forall_mem_append.mpr ⟨List.forall_mem_append.mpr ⟨hmarks, hbare⟩, hmarks⟩

/-- Quotation marks are taken away from an argument, and nothing else is. -/
theorem trimBy_text (h : argument.IsWellWritten) :
    Text.trimBy WrittenClause.isQuotationMark argument.text = argument.bare := by
  obtain ⟨marks, ht, hm⟩ := exists_text_eq h
  rw [ht]
  exact Text.trimBy_surrounded hm hm
    (fun c hc => (bare_chars h c (List.mem_of_head? hc)).2.1)
    (fun c hc => (bare_chars h c (List.mem_of_getLast? hc)).2.1)

theorem readInteger_bare (h : argument.IsWellWritten) :
    (∀ n, argument.value? = some n → readInteger argument.bare = .ok n) ∧
    (argument.value? = none → ∃ fault, readInteger argument.bare = .error fault) := by
  cases argument with
  | integer mark? m =>
    refine ⟨fun n hn => ?_, fun hn => nomatch hn⟩
    rw [← Option.some.inj hn]
    exact readInteger_toString h.2
  | word t =>
    refine ⟨fun n hn => ?_, fun _ => ⟨_, readInteger_word h.1 h.2⟩⟩
    cases hn

end WrittenArgument

/-! ## One piece -/

namespace WrittenPiece

variable {piece : WrittenPiece}

/-- The blanks around an argument are taken away. -/
theorem trim_text (h : piece.IsWellWritten) : Text.trim piece.text = piece.argument.text :=
  Text.trim_surrounded (fun c hc => (h.before c hc).1) (fun c hc => (h.after c hc).1)
    (fun c hc => (WrittenArgument.text_chars h.argument c (List.mem_of_head? hc)).1)
    (fun c hc => (WrittenArgument.text_chars h.argument c (List.mem_of_getLast? hc)).1)

/-- Blanks that do not end the line mean nothing in it but that they are blanks. -/
theorem notMem_of_isBlank {c : Char} (hb : isBlank c = true) (hn : c ≠ '\n') :
    c ∉ [',', '#', ':', '\n'] := by
  intro hm
  have hall : ∀ c ∈ [',', '#', ':', '\n'], isBlank c = true → c = '\n' := by decide
  exact hn (hall c hm hb)

theorem text_chars (h : piece.IsWellWritten) :
    ∀ c ∈ piece.text, c ∉ [',', '#', ':', '\n'] := by
  have hargument : ∀ c ∈ piece.argument.text, c ∉ [',', '#', ':', '\n'] := by
    intro c hc hm
    obtain ⟨hb, hc⟩ := WrittenArgument.text_chars h.argument c hc
    have hall : ∀ c ∈ [',', '#', ':', '\n'], isBlank c = false → c ∈ [',', '#', ':'] := by decide
    exact hc (hall c hm hb)
  exact List.forall_mem_append.mpr ⟨List.forall_mem_append.mpr
    ⟨fun c hc => notMem_of_isBlank (h.before c hc).1 (h.before c hc).2, hargument⟩,
    fun c hc => notMem_of_isBlank (h.after c hc).1 (h.after c hc).2⟩

end WrittenPiece

namespace RuleLine

/-- Blanks around a piece make no difference to the argument that is read from it. -/
theorem readArgument_trim (call : CheckCall) (piece : Text) :
    readArgument call (Text.trim piece) = readArgument call piece := by
  rw [readArgument, readArgument, Text.trim_trim]

/-- An integer is read from its piece, and a word is refused under the name of the call. -/
theorem readArgument_text (call : CheckCall) {piece : WrittenPiece} (h : piece.IsWellWritten) :
    (∀ n, piece.value? = some n → readArgument call piece.text = .ok n) ∧
    (piece.value? = none → ∃ error, readArgument call piece.text = .error (.malformed error) ∧
      error.rule = call.name) := by
  obtain ⟨hok, herror⟩ := WrittenArgument.readInteger_bare h.argument
  rw [readArgument, WrittenPiece.trim_text h, WrittenArgument.trimBy_text h.argument]
  refine ⟨fun n hn => ?_, fun hn => ?_⟩
  · rw [hok n hn]
  · obtain ⟨fault, hf⟩ := herror hn
    rw [hf]
    exact ⟨_, rfl, rfl⟩

/-- The arguments of a call are read from its pieces. -/
theorem readArguments_countCall (name : Text) {pieces : List WrittenPiece}
    (h : ∀ piece ∈ pieces, piece.IsWellWritten) :
    readArguments (countCall name pieces) =
      pieces.mapM fun piece => readArgument (countCall name pieces) piece.text := by
  cases pieces with
  | nil => rfl
  | cons first rest =>
    have hsplit :
        List.splitOn ',' (List.intercalate [','] ((first :: rest).map WrittenPiece.text)) =
          (first :: rest).map WrittenPiece.text := by
      refine List.splitOn_intercalate ',' (fun t ht hm => ?_) (List.cons_ne_nil _ _)
      obtain ⟨piece, hp, rfl⟩ := List.mem_map.mp ht
      exact WrittenPiece.text_chars (h piece hp) _ hm (by decide)
    have htrim : (List.splitOn ',' (countCall name (first :: rest)).arguments).map Text.trim =
        ((first :: rest).map WrittenPiece.text).map Text.trim := by
      rw [countCall, Text.map_trim_splitOn_trim (by decide), hsplit]
    have hne : (countCall name (first :: rest)).arguments ≠ [] := by
      intro hn
      rw [hn, List.map_cons, List.map_cons] at htrim
      have hf := h first (List.mem_cons_self ..)
      have hfirst : [] = Text.trim first.text := (List.cons.inj htrim).1
      rw [WrittenPiece.trim_text hf] at hfirst
      exact WrittenArgument.text_ne_nil hf.argument hfirst.symm
    generalize countCall name (first :: rest) = call at *
    have hread : readArgument call = readArgument call ∘ Text.trim :=
      funext fun piece => (readArgument_trim call piece).symm
    rw [readArguments, if_neg (by simpa using hne), hread, ← List.mapM_map, htrim, List.mapM_map,
      ← hread, List.mapM_map]
    rfl

theorem countCall_function (name : Text) (pieces : List WrittenPiece) :
    (countCall name pieces).function = Check.countName.toList := rfl

/-- What the pieces of a call are is what is read from them. -/
theorem value?_of_readArgument {call : CheckCall} {piece : WrittenPiece} (h : piece.IsWellWritten)
    {n : Int} (hr : readArgument call piece.text = .ok n) : piece.value? = some n := by
  obtain ⟨hok, herror⟩ := readArgument_text call h
  cases hv : piece.value? with
  | none =>
    obtain ⟨error, he, -⟩ := herror hv
    rw [hr] at he
    cases he
  | some m =>
    rw [hok m hv] at hr
    rw [Except.ok.inj hr]

/-- The call asks for the check of a number, which takes two arguments. -/
theorem readCheck_countCall (name : Text) (pieces : List WrittenPiece) :
    readCheck (countCall name pieces) =
      (readArguments (countCall name pieces)).bind fun arguments =>
        if arguments.length ≠ 2 then
          AttachmentRule.refuse name .countArguments (some (countCall name pieces).arguments)
        else .ok (some ⟨Check.countName.toList, arguments⟩) := by
  have hf := countCall_function name pieces
  rw [readCheck, if_neg (fun h => h.1 hf), hf]
  cases readArguments (countCall name pieces) with
  | error fault => rfl
  | ok arguments =>
    show (if _ ∧ _ then _ else if _ ∧ _ then _ else _) = if _ then _ else _
    by_cases hl : arguments.length = 2
    · rw [if_neg fun h => h.2 hl, if_neg fun h => Check.mimeErrorName_ne_countName h.1.symm,
        if_neg (not_not.mpr hl)]
      rfl
    · rw [if_pos ⟨rfl, hl⟩, if_pos hl]
      rfl

/-- **Two integers ask for a range.** -/
theorem readCheck_range (name : Text) {pieces : List WrittenPiece}
    (h : ∀ piece ∈ pieces, piece.IsWellWritten) {least most : Int}
    (hv : pieces.map WrittenPiece.value? = [some least, some most]) :
    readCheck (countCall name pieces) = .ok (some (.count least most)) := by
  obtain ⟨first, rest, rfl, hfirst, hrest⟩ := List.map_eq_cons_iff.mp hv
  obtain ⟨second, rest, rfl, hsecond, hnil⟩ := List.map_eq_cons_iff.mp hrest
  obtain rfl := List.map_eq_nil_iff.mp hnil
  have h1 := readArgument_text (countCall name [first, second]) (h first (by simp))
  have h2 := readArgument_text (countCall name [first, second]) (h second (by simp))
  have hr : readArguments (countCall name [first, second]) = .ok [least, most] := by
    rw [readArguments_countCall name h, List.mapM_cons, List.mapM_cons, List.mapM_nil,
      h1.1 least hfirst, h2.1 most hsecond]
    rfl
  rw [readCheck_countCall, hr]
  rfl

/-- What is read of arguments are the integers that they are, unless one of them is refused. -/
theorem readArguments_cases (name : Text) {pieces : List WrittenPiece}
    (h : ∀ piece ∈ pieces, piece.IsWellWritten) :
    (∃ values, readArguments (countCall name pieces) = .ok values ∧
      pieces.map WrittenPiece.value? = values.map some) ∨
    ∃ error, readArguments (countCall name pieces) = .error (.malformed error) ∧
      error.rule = name := by
  rw [readArguments_countCall name h]
  have hname : (countCall name pieces).name = name := rfl
  generalize countCall name pieces = call at hname ⊢
  cases hm : pieces.mapM fun piece => readArgument call piece.text with
  | ok values =>
    refine .inl ⟨values, rfl, ?_⟩
    have hall := mapM_eq_ok_iff.mp hm
    clear hm
    induction hall with
    | nil => rfl
    | cons hp _ ih =>
      rw [List.forall_mem_cons] at h
      rw [List.map_cons, List.map_cons, value?_of_readArgument h.1 hp, ih h.2]
  | error fault =>
    obtain ⟨before, piece, after, rfl, -, hp⟩ := mapM_eq_error_iff.mp hm
    change readArgument call piece.text = .error fault at hp
    obtain ⟨hok, herror⟩ := readArgument_text call (h piece (by simp))
    cases hn : piece.value? with
    | some n =>
      rw [hok n hn] at hp
      cases hp
    | none =>
      obtain ⟨error, he, hrule⟩ := herror hn
      rw [hp] at he
      exact .inr ⟨error, congrArg _ (Except.error.inj he), hrule.trans hname⟩

/-- **Anything else is refused** under the name of the call. -/
theorem readCheck_refused (name : Text) {pieces : List WrittenPiece}
    (h : ∀ piece ∈ pieces, piece.IsWellWritten)
    (hv : ∀ least most, pieces.map WrittenPiece.value? ≠ [some least, some most]) :
    ∃ error, readCheck (countCall name pieces) = .error (.malformed error) ∧
      error.rule = name := by
  rw [readCheck_countCall]
  rcases readArguments_cases name h with ⟨values, hr, hvalues⟩ | ⟨error, hr, hname⟩
  · -- every argument is an integer, so it is their number that is wrong
    have hcount : values.length ≠ 2 := by
      intro hl
      obtain ⟨least, most, rfl⟩ := List.length_eq_two.mp hl
      exact hv least most hvalues
    rw [hr]
    exact ⟨_, if_pos hcount, rfl⟩
  · rw [hr]
    exact ⟨error, rfl, hname⟩

/-! ## The line -/

theorem afterPrefix?_append (start t : Text) : afterPrefix? start (start ++ t) = some t := by
  rw [afterPrefix?, if_pos (List.isPrefixOf_iff_prefix.mpr (List.prefix_append start t)),
    List.drop_left]

/-- A name, a blank and a call in parentheses are read as what they are. -/
theorem readCall?_append {name function : Text} (hn : name ≠ [])
    (hb : ∀ c ∈ name, isBlank c = false) (hf : function ≠ [])
    (hw : ∀ c ∈ function, isWord c = true) (inside : Text) :
    readCall? (name ++ " ".toList ++ ("eval:".toList ++ (function ++ '(' :: (inside ++ [')'])))) =
      some ⟨name, function, Text.trim inside⟩ := by
  have hword : ∀ c ∈ ("eval:".toList ++ (function ++ '(' :: (inside ++ [')']))).head?,
      isBlank c = false :=
    Text.forall_head?_append (by decide) (by decide)
  have hfirst := firstWord_append hb (by decide : " ".toList ≠ []) (by decide) hword
  have hparenthesis : ∀ c ∈ ('(' :: (inside ++ [')'])).head?, isWord c = false := by
    rintro c ⟨⟩
    decide
  obtain ⟨htake, hdrop⟩ := Text.takeWhile_append_stop hw hparenthesis
  have hreverse : (inside ++ [')']).reverse = ')' :: inside.reverse := by simp
  have hne : (name.isEmpty || function.isEmpty) = false := by simp [hn, hf]
  rw [readCall?, hfirst]
  simp only [afterPrefix?_append, Option.bind_eq_bind, Option.bind_some, htake, hdrop, hreverse,
    List.reverse_reverse, hne, Bool.false_eq_true, if_false]

section

variable {name : Text} {pieces : List WrittenPiece}

/-- The parts of a line that asks for a number. -/
theorem countLine_eq (name : Text) (pieces : List WrittenPiece) :
    countLine name pieces = "body".toList ++ " ".toList ++ (name ++ " ".toList ++
      ("eval:".toList ++ (Check.countName.toList ++
        '(' :: (List.intercalate [','] (pieces.map WrittenPiece.text) ++ [')'])))) := by
  have hbody : "body ".toList = "body".toList ++ " ".toList := by decide
  have hcall : " eval:check_attachment_count(".toList =
      " ".toList ++ ("eval:".toList ++ (Check.countName.toList ++ ['('])) := by decide
  unfold countLine
  rw [hbody, hcall]
  simp only [List.append_assoc, List.cons_append, List.nil_append]

/-- Neither a number sign nor a colon stands among the pieces, and no line feed. -/
theorem join_chars (hp : ∀ piece ∈ pieces, piece.IsWellWritten) :
    ∀ c ∈ List.intercalate [','] (pieces.map WrittenPiece.text), c ∉ ['#', ':', '\n'] := by
  intro c hc
  rcases Text.mem_intercalate hc with hc | ⟨t, ht, hc⟩
  · obtain rfl := List.mem_singleton.mp hc
    decide
  · obtain ⟨piece, hm, rfl⟩ := List.mem_map.mp ht
    exact fun hs => WrittenPiece.text_chars (hp piece hm) c hc (List.mem_cons_of_mem _ hs)

/-- Nothing in such a line is an escape, starts a comment or ends the line. -/
theorem countLine_chars (hb : ∀ c ∈ name, isBlank c = false ∧ c ≠ '#')
    (hp : ∀ piece ∈ pieces, piece.IsWellWritten) :
    ∀ c ∈ countLine name pieces, c ∉ ['#', '\n'] := by
  have hbody : ∀ c ∈ "body ".toList, c ∉ ['#', '\n'] := by decide
  have hcall : ∀ c ∈ " eval:check_attachment_count(".toList, c ∉ ['#', '\n'] := by decide
  have hend : ∀ c ∈ [')'], c ∉ ['#', '\n'] := by decide
  have hname : ∀ c ∈ name, c ∉ ['#', '\n'] := by
    intro c hc hm
    have hall : ∀ c ∈ ['#', '\n'], isBlank c = false → c = '#' := by decide
    exact (hb c hc).2 (hall c hm (hb c hc).1)
  have hjoin : ∀ c ∈ List.intercalate [','] (pieces.map WrittenPiece.text), c ∉ ['#', '\n'] := by
    intro c hc hm
    have hall : ∀ c ∈ ['#', '\n'], c ∈ ['#', ':', '\n'] := by decide
    exact join_chars hp c hc (hall c hm)
  unfold countLine
  simp only [List.forall_mem_append]
  exact ⟨⟨⟨⟨hbody, hname⟩, hcall⟩, hjoin⟩, hend⟩

/-- Such a line says all that stands in it. -/
theorem content_countLine (hb : ∀ c ∈ name, isBlank c = false ∧ c ≠ '#')
    (hp : ∀ piece ∈ pieces, piece.IsWellWritten) :
    content (countLine name pieces) = countLine name pieces := by
  have hhash : '#' ∉ countLine name pieces := fun hm => countLine_chars hb hp _ hm (by decide)
  have hfirst : ∀ c ∈ (countLine name pieces).head?, isBlank c = false := by
    rw [countLine_eq, List.append_assoc]
    exact Text.forall_head?_append (by decide) (by decide)
  have hlast : ∀ c ∈ (countLine name pieces).getLast?, isBlank c = false := by
    unfold countLine
    rw [List.getLast?_append_of_ne_nil _ (List.cons_ne_nil _ _)]
    intro c hc
    obtain rfl := Option.some.inj hc
    decide
  conv_lhs => rw [← escape_of_notMem hhash]
  rw [content_escape, Text.trim_of_ends hfirst hlast]

/-- A `body` line says what the call in it asks for. -/
theorem contentVerdict_body (strict : Bool) {blanks value : Text} (hn : blanks ≠ [])
    (hb : ∀ c ∈ blanks, isBlank c = true) (hs : ∀ c ∈ value.head?, isBlank c = false)
    (hf : '\n' ∉ value) (he : Text.hasPiece "eval:".toList value = true) :
    contentVerdict strict ("body".toList ++ blanks ++ value) = bodyVerdict value := by
  have hfeed : value.contains '\n' = false := by
    rw [List.contains_eq_mem, decide_eq_false hf]
  have hlower : Text.lower "body".toList = "body".toList := by decide +kernel
  have hkeyword : ¬ "body".toList = "attachment".toList := by decide
  rw [contentVerdict, firstWord_append (by decide) hn hb hs]
  simp only [hfeed, hlower, hkeyword, he, Bool.false_eq_true, if_false, decide_true, Bool.and_self,
    if_true]

/-- **What such a line says** is what the call in it asks for. -/
theorem verdict_countLine (strict : Bool) (hn : name ≠ [])
    (hb : ∀ c ∈ name, isBlank c = false ∧ c ≠ '#')
    (hp : ∀ piece ∈ pieces, piece.IsWellWritten) :
    verdict strict (countLine name pieces) =
      settle ((readCheck (countCall name pieces)).map fun asked =>
        match asked with
        | none => .passed
        | some check => .check ⟨name, check⟩) := by
  have hname : ∀ c ∈ name, isBlank c = false := fun c hc => (hb c hc).1
  have hfeed : '\n' ∉ countLine name pieces := fun hm => countLine_chars hb hp _ hm (by decide)
  have hcall := readCall?_append hn hname (by decide : Check.countName.toList ≠ []) (by decide)
    (List.intercalate [','] (pieces.map WrittenPiece.text))
  rw [verdict, content_countLine hb hp, if_neg (by simp [countLine_eq])]
  rw [countLine_eq] at hfeed ⊢
  rw [contentVerdict_body strict (by decide) (by decide) ?_
    (fun hm => hfeed (List.mem_append_right _ hm)) (Text.hasPiece_append _ _ _), bodyVerdict, hcall]
  · rfl
  · rw [List.append_assoc]
    exact Text.forall_head?_append hn hname

/-- A call without a name before it is not read. -/
theorem readCall?_nameless {t : Text} (ht : ':' ∉ t) : readCall? ("eval:".toList ++ t) = none := by
  have hrest : ':' ∉ (firstWord ("eval:".toList ++ t)).2 := by
    intro hm
    have hsub := (List.dropWhile_sublist isBlank).subset hm
    rw [List.dropWhile_append_of_pos (by decide)] at hsub
    exact ht ((List.dropWhile_sublist _).subset hsub)
  have hnone : afterPrefix? "eval:".toList (firstWord ("eval:".toList ++ t)).2 = none := by
    rw [afterPrefix?, if_neg]
    intro hp
    obtain ⟨rest, hr⟩ := List.isPrefixOf_iff_prefix.mp hp
    exact hrest (hr ▸ List.mem_append_left _ (by decide))
  rw [readCall?]
  simp only [hnone]
  rfl

/-- Without a name such a line is passed over. -/
theorem verdict_countLine_nameless (strict : Bool)
    (hp : ∀ piece ∈ pieces, piece.IsWellWritten) :
    verdict strict (countLine [] pieces) = .ok .passed := by
  have hb : ∀ c ∈ ([] : Text), isBlank c = false ∧ c ≠ '#' := List.forall_mem_nil _
  have hfeed : '\n' ∉ countLine [] pieces := fun hm => countLine_chars hb hp _ hm (by decide)
  have heq : countLine [] pieces = "body".toList ++ "  ".toList ++ ("eval:".toList ++
      (Check.countName.toList ++
        '(' :: (List.intercalate [','] (pieces.map WrittenPiece.text) ++ [')']))) :=
    countLine_eq [] pieces
  have hcolon : ':' ∉ Check.countName.toList ++
      '(' :: (List.intercalate [','] (pieces.map WrittenPiece.text) ++ [')']) := by
    simp only [List.mem_append, List.mem_cons, not_or]
    exact ⟨by decide, by decide, fun hm => join_chars hp _ hm (by decide), by decide⟩
  rw [verdict, content_countLine hb hp, if_neg (by simp [heq])]
  rw [heq] at hfeed ⊢
  rw [contentVerdict_body strict (by decide) (by decide)
    (Text.forall_head?_append (by decide) (by decide))
    (fun hm => hfeed (List.mem_append_right _ hm)) (Text.hasPiece_append [] _ _), bodyVerdict,
    readCall?_nameless hcolon]
  rfl

end

end RuleLine

/-! ## Rule sets -/

namespace RuleSet

open RuleLine

variable {strict : Bool} {lines : List Text} {set : RuleSet} {name : Text} {least most : Int}

/-- The result under the name of a check of a number says whether the number is in range. -/
theorem holds_iff_of_mem (hw : set.WellFormed) (he : set.Evaluable)
    (hm : (name, (⟨name, .count least most⟩ : CheckRule)) ∈ set.checkRules)
    (records : List AttachmentRecord) : ∃ results held,
      (set.evaluate records).result = .ok results ∧ results.find? name = some held ∧
      (held = true ↔ least ≤ (records.length : Int) ∧ (records.length : Int) ≤ most) := by
  refine ⟨_, _, evaluate_result hw he records, hw.find?_results_check records hm, ?_⟩
  rw [Check.holdsAmong_count]
  simp [Check.countHolds]

/-- A check that lines define last is gained. -/
theorem gainsCount_of_defineCheck
    (h : (ofLines strict lines).result = .ok (set.defineCheck ⟨name, .count least most⟩)) :
    GainsCount set (set.defineCheck ⟨name, .count least most⟩) name least most := by
  have heq := defineCheck_eq set ⟨name, .count least most⟩
  refine ⟨by rw [heq], by rw [heq], by rw [heq], ?_⟩
  refine holds_iff_of_mem (wellFormed_of_ofLines h) (evaluable_of_ofLines h) ?_
  rw [heq]
  exact List.mem_append_right _ (List.mem_singleton_self _)

/-- **Lines that ask for a number of attachments define what they show, or are refused.** After any
lines that are read, a line with a name and two integers defines the check of the range between
them, in the place of any rule of the name, and it holds if the number of records is in the range.
A line with a name and another number of integers, or with words among them, is put on record once,
and nothing else changes. A line without a name is passed over. -/
theorem takesCountLine (h : (ofLines strict lines).result = .ok set)
    (hb : ∀ c ∈ name, isBlank c = false ∧ c ≠ '#') {pieces : List WrittenPiece}
    (hp : ∀ piece ∈ pieces, piece.IsWellWritten) :
    ∃ next, (ofLines strict (lines ++ [countLine name pieces])).result = .ok next ∧
      (name ≠ [] → ∀ least most, pieces.map WrittenPiece.value? = [some least, some most] →
        GainsCount set next name least most) ∧
      (name ≠ [] → (∀ least most, pieces.map WrittenPiece.value? ≠ [some least, some most]) →
        GainsRejection set next name (lines.length + 1)) ∧
      (name = [] → next = set) := by
  have hline := ofLines_append_singleton h (countLine name pieces)
  by_cases hn : name = []
  · subst hn
    rw [verdict_countLine_nameless strict hp] at hline
    exact ⟨set, hline, fun hn => absurd rfl hn, fun hn => absurd rfl hn, fun _ => rfl⟩
  rw [verdict_countLine strict hn hb hp] at hline
  by_cases hv : ∃ least most, pieces.map WrittenPiece.value? = [some least, some most]
  · obtain ⟨least, most, hv⟩ := hv
    rw [readCheck_range name hp hv] at hline
    refine ⟨set.defineCheck ⟨name, .count least most⟩, hline, fun _ => ?_,
      fun _ hother => absurd hv (hother least most), fun he => absurd he hn⟩
    intro least' most' hv'
    rw [hv] at hv'
    obtain ⟨rfl, rfl⟩ : least = least' ∧ most = most' := by simpa using hv'
    exact gainsCount_of_defineCheck hline
  · have hother : ∀ least most, pieces.map WrittenPiece.value? ≠ [some least, some most] :=
      fun least most he => hv ⟨least, most, he⟩
    obtain ⟨error, he, hname⟩ := readCheck_refused name hp hother
    rw [he] at hline
    refine ⟨set.reject ⟨error.rule, lines.length + 1, error.message⟩, hline, fun _ => ?_,
      fun _ _ => ?_, fun he => absurd he hn⟩
    · exact fun least most he => absurd he (hother least most)
    · exact ⟨rfl, rfl, error.message, by rw [hname]; rfl⟩

/-- A number in quotation marks, and one with blanks around it. -/
def quotedCount : List WrittenPiece :=
  [⟨[], .integer (some '\'') (-1), []⟩, ⟨" ".toList, .integer none 2, " ".toList⟩]

/-- A number and a word. -/
def wordCount : List WrittenPiece := [⟨[], .integer none 1, []⟩, ⟨[], .word "two".toList, []⟩]

/-- A rule set with an attachment rule. -/
def setBeforeCount : RuleSet where
  attachmentRules := [("A".toList, ⟨"A".toList,
    [⟨.extension, .equal, .literal "exe".toList, "ext == exe".toList⟩]⟩)]

/-- Two numbers take the name of an attachment rule, and a word among numbers does not. -/
theorem takesCountLine_of_quoted :
    countLine "A".toList quotedCount = "body A eval:check_attachment_count('-1', 2 )".toList ∧
    countLine "A".toList wordCount = "body A eval:check_attachment_count(1,two)".toList ∧
    (ofLines false ["attachment A ext == exe".toList]).result = .ok setBeforeCount ∧
    (∀ c ∈ "A".toList, isBlank c = false ∧ c ≠ '#') ∧
    (∀ piece ∈ quotedCount, piece.IsWellWritten) ∧ (∀ piece ∈ wordCount, piece.IsWellWritten) ∧
    (∃ next, (ofLines false (["attachment A ext == exe".toList] ++
      [countLine "A".toList quotedCount])).result = .ok next ∧
      GainsCount setBeforeCount next "A".toList (-1) 2) ∧
    ∃ next, (ofLines false (["attachment A ext == exe".toList] ++
      [countLine "A".toList wordCount])).result = .ok next ∧
      GainsRejection setBeforeCount next "A".toList 2 := by
  have hs : (ofLines false ["attachment A ext == exe".toList]).result = .ok setBeforeCount := by
    decide +kernel
  have hb : ∀ c ∈ "A".toList, isBlank c = false ∧ c ≠ '#' := by decide
  have hn : "A".toList ≠ [] := by decide
  have hp : ∀ piece ∈ quotedCount, piece.IsWellWritten := by decide
  have hw : ∀ piece ∈ wordCount, piece.IsWellWritten := by decide
  refine ⟨by decide +kernel, by decide +kernel, hs, hb, hp, hw, ?_, ?_⟩
  · obtain ⟨next, hnext, hgain, -, -⟩ := takesCountLine hs hb hp
    exact ⟨next, hnext, hgain hn (-1) 2 rfl⟩
  · obtain ⟨next, hnext, -, hreject, -⟩ := takesCountLine hs hb hw
    refine ⟨next, hnext, hreject hn fun least most he => ?_⟩
    have htwo : [some 1, none] = [some least, some most] := he
    simp at htwo

/-- Two numbers. -/
def plainCount : List WrittenPiece := [⟨[], .integer none 1, []⟩, ⟨[], .integer none 2, []⟩]

/-- A line without a name defines nothing, whatever it asks for. -/
theorem ofLines_of_namelessCountLine :
    countLine [] plainCount = "body  eval:check_attachment_count(1,2)".toList ∧
    (∀ piece ∈ plainCount, piece.IsWellWritten) ∧
    plainCount.map WrittenPiece.value? = [some 1, some 2] ∧
    (ofLines false []).result = .ok {} ∧
    ¬ ∃ next, (ofLines false ([] ++ [countLine [] plainCount])).result = .ok next ∧
      GainsCount {} next [] 1 2 := by
  refine ⟨by decide +kernel, by decide, rfl, rfl, ?_⟩
  rintro ⟨next, hnext, hgain⟩
  have hempty : (ofLines false ([] ++ [countLine [] plainCount])).result = .ok {} := by
    decide +kernel
  obtain rfl := Except.ok.inj (hnext.symm.trans hempty)
  exact absurd hgain.checkRules (by decide)

end RuleSet
end MailScreen
