import Mathlib.Data.List.Infix
import MailScreen.Proofs.Header.BareValue
import MailScreen.Proofs.Header.WordForm

/-!
# Values with encoded words

Encoded words may stand anywhere in a value, with other text before, between and after them. **Each
word is replaced by the text that it writes, blanks between two words are dropped, and all other
text stays as it is** (`EncodedWord.decodeAll_written`, `Header.parse_encodedWords`). What a word is
replaced by may hold encoded words itself, which stay.
-/
namespace MailScreen

namespace EncodedWord

open Header

/-- An encoded word with the text that comes after it. -/
structure Stretch where
  /-- The word. -/
  word : EncodedWord
  /-- The text that the word writes. -/
  text : Text
  /-- The text up to the next word, or to the end. -/
  after : Text
  deriving DecidableEq, Repr

/-- A text on one line in which no encoded word starts. -/
structure IsPlain (t : Text) : Prop where
  noMark : ¬ "=?".toList <:+: t
  noBreak : NoBreak t

instance (t : Text) : Decidable (IsPlain t) :=
  decidable_of_iff (¬ "=?".toList <:+: t ∧ NoBreak t)
    ⟨fun h => ⟨h.1, h.2⟩, fun h => ⟨h.noMark, h.noBreak⟩⟩

namespace Stretch

/-- A stretch as it is put down. -/
def written (s : Stretch) : Text := s.word.written ++ s.after

/-- The pieces that a stretch is read as. -/
def pieces (s : Stretch) : List Piece := [.word s.word, .plain s.after]

/-- A stretch that is put down properly. -/
structure IsProper (s : Stretch) : Prop where
  word : Writes s.word s.text
  after : IsPlain s.after

/-- What is shown for stretches: text between two words is dropped if it is blank. -/
def shown : List Stretch → Text
  | [] => []
  | [s] => s.text ++ s.after
  | s :: rest => s.text ++ ((if Text.isAllBlank s.after then [] else s.after) ++ shown rest)

end Stretch

variable {t rest first : Text} {stretches : List Stretch}

/-! ## Cutting -/

theorem take?_eq_none (h : ∀ s, t ≠ '=' :: '?' :: s) : take? t = none := by
  unfold take?
  split
  · exact absurd rfl (h _)
  · rfl

/-- **Plain text is passed over up to its end**, also if it ends in the first character of the mark
that starts a word. -/
theorem piecesFrom_append (ht : ¬ "=?".toList <:+: t) (hr : rest.head? ≠ some '?') (plain : Text) :
    piecesFrom plain (t ++ rest) = piecesFrom (t.reverse ++ plain) rest := by
  induction t generalizing plain with
  | nil => rfl
  | cons c t ih =>
    have hnone : take? (c :: (t ++ rest)) = none := by
      refine take?_eq_none fun s hs => ?_
      obtain ⟨rfl, hleft⟩ := List.cons.inj hs
      -- the mark would lie in the text, or start with its last character and go on after it
      cases t with
      | nil =>
        rw [List.nil_append] at hleft
        exact hr (by rw [hleft]; rfl)
      | cons d t =>
        obtain ⟨rfl, -⟩ := List.cons.inj hleft
        exact ht ⟨[], t, rfl⟩
    have htail : ¬ "=?".toList <:+: t := fun h => ht (List.infix_cons h)
    rw [List.cons_append, piecesFrom, ih htail (c :: plain)]
    split
    · rename_i hsome
      rw [hnone] at hsome
      cases hsome
    · simp

theorem piecesFrom_written {word : EncodedWord} (hw : word.IsProper) (plain rest : Text) :
    piecesFrom plain (word.written ++ rest) =
      .plain plain.reverse :: .word word :: piecesFrom [] rest := by
  have htake := take?_written hw rest
  rw [written_append] at htake ⊢
  rw [piecesFrom]
  split
  · rename_i word' left hsome
    rw [htake] at hsome
    obtain ⟨rfl, rfl⟩ := Prod.mk.inj (Option.some.inj hsome)
    rfl
  · rename_i hnone
    rw [htake] at hnone
    cases hnone

/-- **A text is cut at its words.** -/
theorem pieces_written (hf : IsPlain first) (hs : ∀ s ∈ stretches, s.IsProper) :
    pieces (first ++ stretches.flatMap Stretch.written) =
      .plain first :: stretches.flatMap Stretch.pieces := by
  unfold pieces
  induction stretches generalizing first with
  | nil =>
    rw [List.flatMap_nil, piecesFrom_append hf.noMark (by simp), piecesFrom]
    simp
  | cons s rest ih =>
    obtain ⟨hfirst, hrest⟩ := List.forall_mem_cons.mp hs
    have hhead : ((s :: rest).flatMap Stretch.written).head? ≠ some '?' := by
      rw [List.flatMap_cons, Stretch.written, List.append_assoc, written_append]
      simp
    rw [piecesFrom_append hf.noMark hhead, List.flatMap_cons, Stretch.written, List.append_assoc,
      piecesFrom_written hfirst.word.isProper, ih hfirst.after hrest, List.flatMap_cons]
    simp [Stretch.pieces]

/-! ## Decoding -/

variable {ε : Type}

/-- **Words are replaced one by one**, and the blanks between them are dropped. -/
theorem decodeAfterWord_pieces (hs : ∀ s ∈ stretches, s.IsProper) :
    (decodeAfterWord (stretches.flatMap Stretch.pieces) : Noted ε Text) =
      pure (Stretch.shown stretches) := by
  induction stretches with
  | nil => rfl
  | cons s rest ih =>
    obtain ⟨hfirst, hrest⟩ := List.forall_mem_cons.mp hs
    -- the text after the last word stays also if it is blank
    cases rest with
    | nil =>
      rw [List.flatMap_singleton, Stretch.pieces, decodeAfterWord, hfirst.word.text_eq]
      rfl
    | cons next rest =>
      have hplain : (decodeAfterWord (.plain s.after :: (next :: rest).flatMap Stretch.pieces) :
          Noted ε Text) = pure ((if Text.isAllBlank s.after then [] else s.after) ++
            Stretch.shown (next :: rest)) := by
        have hnext := ih hrest
        rw [List.flatMap_cons, Stretch.pieces] at hnext ⊢
        show decodeAfterWord _ >>= _ = _
        rw [hnext]
        refine congrArg pure ?_
        split
        · rfl
        · rfl
      rw [List.flatMap_cons, Stretch.pieces, List.cons_append, List.singleton_append,
        decodeAfterWord, hfirst.word.text_eq, hplain]
      rfl

theorem decodeAll_written (hf : IsPlain first) (hs : ∀ s ∈ stretches, s.IsProper) :
    (decodeAll (first ++ stretches.flatMap Stretch.written) : Noted ε Text) =
      pure (first ++ Stretch.shown stretches) := by
  rw [decodeAll, pieces_written hf hs]
  show decodeAfterWord _ >>= _ = _
  rw [decodeAfterWord_pieces hs]
  rfl

/-- A value comes to its texts whether it holds a word or not. -/
theorem decodeIfOccurs_written (hf : IsPlain first) (hs : ∀ s ∈ stretches, s.IsProper) :
    (if occursIn (first ++ stretches.flatMap Stretch.written) then
      decodeAll (first ++ stretches.flatMap Stretch.written)
      else pure (first ++ stretches.flatMap Stretch.written) : Noted ε Text) =
        pure (first ++ Stretch.shown stretches) := by
  cases stretches with
  | nil =>
    have hnone : occursIn (first ++ ([] : List Stretch).flatMap Stretch.written) = false := by
      rw [occursIn, pieces_written hf hs]
      rfl
    rw [hnone]
    rfl
  | cons s rest =>
    have hsome : occursIn (first ++ (s :: rest).flatMap Stretch.written) = true := by
      rw [occursIn, pieces_written hf hs]
      rfl
    rw [hsome, if_pos rfl, decodeAll_written hf hs]

theorem noBreak_written (hf : IsPlain first) (hs : ∀ s ∈ stretches, s.IsProper) :
    NoBreak (first ++ stretches.flatMap Stretch.written) := by
  refine hf.noBreak.append fun c hc => ?_
  obtain ⟨s, hm, hc⟩ := List.mem_flatMap.mp hc
  exact ((hs s hm).word.isProper.noBreak.append (hs s hm).after.noBreak) c hc

end EncodedWord

namespace Header

open Ascii EncodedWord

/-- In a header of plain parameters the values of all are decoded. -/
theorem exists_comeTo_of_plain {settings : Settings} (hd : settings.decodeEncodedWords = true)
    {ps : List WrittenParameter}
    (hr : ∀ p ∈ ps, p.IsReadable ∧ '*' ∉ p.name ∧ (p.quoted = false → p.value ≠ [])) :
    ∃ params, WrittenParameter.ComeTo settings ps params ∧
      (decodeValues (.ofList (ps.map WrittenParameter.pair))).result = .ok params := by
  obtain ⟨params, hparams⟩ := decodeValues_result (.ofList (ps.map WrittenParameter.pair))
  have hplain : ∀ entry ∈ ps.map WrittenParameter.pair, entry.1 ≠ [] ∧ '*' ∉ entry.1 := by
    intro entry hm
    obtain ⟨p, hps, rfl⟩ := List.mem_map.mp hm
    obtain ⟨hread, hstar, -⟩ := hr p hps
    exact ⟨lower_ne_nil hread.name, star_notMem_lower hread.name hstar⟩
  have hcombine : (combine settings (ps.map WrittenParameter.pair)).result = .ok params := by
    rw [combine_result_of_plain settings hplain, if_pos hd, hparams]
  refine ⟨params, WrittenParameter.comeTo_of_combine (fun p hm => (hr p hm).1) ?_ hcombine, hparams⟩
  intro p hm he
  exact absurd he.2 ((hr p hm).2.2 he.1)

/-- **Encoded words in a quoted value are decoded.** A value is made of texts and words in turn, and
the texts hold no mark that starts a word. In any header of plain parameters, the parameter with
this value, if it is the last of its name, is read as the texts with what the words write: only
blanks between two words are dropped. Nothing is asked of what the words write, so encoded words in
it stay as they are. -/
theorem parse_encodedWords {settings : Settings} (hd : settings.decodeEncodedWords = true)
    {ps before after : List WrittenParameter} {p : WrittenParameter} {first : Text}
    {stretches : List Stretch} (hps : ps = before ++ p :: after) (hsep : IsSeparator p.separator)
    (hn : IsToken p.name) (hstar : '*' ∉ p.name) (hq : p.quoted = true)
    (hv : p.value = first ++ stretches.flatMap Stretch.written) (hf : IsPlain first)
    (hs : ∀ s ∈ stretches, s.IsProper)
    (hr : ∀ q ∈ before ++ after, q.IsReadable ∧ '*' ∉ q.name ∧ (q.quoted = false → q.value ≠ []))
    (hl : ∀ q ∈ after, Text.lower q.name ≠ Text.lower p.name) :
    ∃ params, WrittenParameter.ComeTo settings ps params ∧
      params.find? (Text.lower p.name) = some (first ++ Stretch.shown stretches) := by
  have hbare : p.quoted ≠ false := by rw [hq]; decide
  have hread : p.IsReadable :=
    ⟨hsep, hn, hv ▸ noBreak_written hf hs, fun h => absurd h hbare⟩
  have hall : ∀ q ∈ ps, q.IsReadable ∧ '*' ∉ q.name ∧ (q.quoted = false → q.value ≠ []) := by
    intro q hm
    rw [hps, List.mem_append, List.mem_cons, or_left_comm, ← List.mem_append] at hm
    rcases hm with rfl | hm
    · exact ⟨hread, hstar, fun h => absurd h hbare⟩
    · exact hr q hm
  have hfind : (Table.ofList (ps.map WrittenParameter.pair)).find? (Text.lower p.name) =
      some p.value := by
    have hafter : Text.lower p.name ∉ Table.names (after.map WrittenParameter.pair) := by
      rw [Table.names, List.map_map, List.mem_map]
      rintro ⟨q, hm, he⟩
      exact hl q hm he
    rw [hps, List.map_append, List.map_cons]
    exact Table.find?_ofList_of_last hafter _ _
  obtain ⟨params, hcome, hdecoded⟩ := exists_comeTo_of_plain hd hall
  refine ⟨params, hcome, find?_of_decodeValues hdecoded hfind ?_⟩
  rw [hv, decodeIfOccurs_written hf hs]
  rfl

/-- Two words with a blank between them, in base 64 and as codes, of which the first writes an
encoded word and the second comes before a question mark; text in front of them ends in an equals
sign. -/
theorem parse_encodedWords_of_nested :
    ∃ params : Table Text,
      (parseContentType {} ("Text/Plain; name=\"\\\"==?utf-8?B?PT91dGYtOD9RP2E/PQ==?= ".toList ++
        "=?utf-8?Q?=c3=A9?=? \"; x=y".toList)).result = .ok ⟨"text/plain".toList, params⟩ ∧
      params.find? "name".toList = some "\"==?utf-8?Q?a?=é? ".toList := by
  have hcodes : Codes "=c3=A9".toList (Utf8.encode "é".toList) :=
    .cons (by decide) (.cons (by decide) .nil)
  have hbody : Base64.encode (Utf8.encode "=?utf-8?Q?a?=".toList) =
      "PT91dGYtOD9RP2E/PQ==".toList := by decide +kernel
  have hnested : Writes ⟨"utf-8".toList, 'B', "PT91dGYtOD9RP2E/PQ==".toList⟩
      "=?utf-8?Q?a?=".toList := hbody ▸ .base64 _
  have hs : ∀ s ∈ [Stretch.mk ⟨"utf-8".toList, 'B', "PT91dGYtOD9RP2E/PQ==".toList⟩
      "=?utf-8?Q?a?=".toList " ".toList, ⟨⟨"utf-8".toList, 'Q', "=c3=A9".toList⟩, "é".toList,
        "? ".toList⟩], s.IsProper :=
    List.forall_mem_cons.mpr ⟨⟨hnested, by decide⟩,
      List.forall_mem_singleton.mpr ⟨.codes hcodes, by decide⟩⟩
  obtain ⟨params, hcome, hfind⟩ := @parse_encodedWords {} rfl _ []
    [⟨"; ".toList, "x".toList, "y".toList, false⟩] ⟨"; ".toList, "name".toList, _, true⟩
    "\"=".toList _ rfl (by decide) (by decide) (by decide) rfl rfl (by decide) hs
    (by decide) (by decide +kernel)
  have hprimary : Text.lower "Text/Plain".toList = "text/plain".toList := by decide +kernel
  have hname : Text.lower "name".toList = "name".toList := by decide +kernel
  rw [hname] at hfind
  refine ⟨params, ?_, hfind⟩
  rw [← hprimary]
  exact hcome.contentType "Text".toList "Plain".toList (by decide) (by decide)

end Header
end MailScreen
