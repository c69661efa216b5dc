import Mathlib.Data.List.Basic
import MailScreen.Message.Structure
import MailScreen.Proofs.Text.Join
import MailScreen.Proofs.Text.Trim

/-!
# Lines and headers as they are written

Lines that are put together with a line feed after each are cut apart again
(`MessageLine.ofText_intercalate`), headers on lines of their own before an empty line are read back
(`MessageStructure.split_written`), and so are the parts between separators
(`MessageStructure.separated_written`). All of this rests on one condition: a line that is written
must have no line break in it.
-/
namespace MailScreen

/-! ## Lines -/

namespace MessageLine

/-- A line as it is read: with a line feed at its end. -/
def ended (line : Text) : Text := line ++ ['\n']

theorem linesFrom_append {t : Text} (ht : NoBreak t) (line rest : Text) :
    linesFrom line (t ++ '\n' :: rest) = (line.reverse ++ ended t) :: linesFrom [] rest := by
  induction t generalizing line with
  | nil =>
    rw [List.nil_append, linesFrom, if_pos (by simp), List.reverse_cons]
    · rfl
    · exact fun _ h => absurd h (by decide)
  | cons c t ih =>
    obtain ⟨hr, hn⟩ := ht c (List.mem_cons_self ..)
    rw [List.cons_append, linesFrom, if_neg (by simp [hr, hn]),
      ih fun d hd => ht d (List.mem_cons_of_mem c hd), List.reverse_cons, List.append_assoc]
    · rfl
    · exact fun _ h => absurd h hr

/-- **Lines that are put together are cut apart again.** -/
theorem ofText_intercalate {lines : List Text} (h : ∀ line ∈ lines, NoBreak line) :
    ofText (List.intercalate ['\n'] (lines ++ [[]])) = lines.map ended := by
  induction lines with
  | nil => rfl
  | cons line rest ih =>
    rw [List.forall_mem_cons] at h
    rw [List.cons_append, List.intercalate_cons_of_ne_nil (by simp), List.append_assoc,
      List.singleton_append, ofText, linesFrom_append h.1, List.map_cons, ← ih h.2]
    rfl

end MessageLine

namespace MessageStructure

open MessageLine

/-! ## Headers -/

/-- A header that can stand on one line: its name has only the characters of header names, a hyphen
not first, and its value neither has line breaks nor starts with a blank. -/
structure IsHeader (header : Text × Text) : Prop where
  name_ne : header.1 ≠ []
  noHyphen : header.1.head? ≠ some '-'
  name : ∀ c ∈ header.1, MessageLine.isNameChar c = true
  value : NoBreak header.2
  head : ∀ c ∈ header.2.head?, isSpaceOrTab c = false

/-- The line of a header. -/
def headerLine (header : Text × Text) : Text := header.1 ++ ':' :: ' ' :: header.2

/-- The lines of a part that has headers and one empty line for a body. -/
def writtenLines (headers : HeaderList) : List Text := headers.map headerLine ++ [[], []]

variable {header : Text × Text}

theorem IsHeader.dropWhile_name (h : IsHeader header) :
    (ended (headerLine header)).dropWhile MessageLine.isNameChar =
      ':' :: ' ' :: ended header.2 := by
  rw [ended, headerLine, List.append_assoc, List.dropWhile_append_of_pos h.name]
  rfl

theorem IsHeader.isHeaderLine (h : IsHeader header) :
    isHeaderLine (ended (headerLine header)) = true := by
  rw [MessageLine.isHeaderLine, h.dropWhile_name]
  simp

/-- The first character of a header is one of its name. -/
theorem IsHeader.head_line (h : IsHeader header) :
    ∀ c ∈ (ended (headerLine header)).head?, isSpaceOrTab c = false := by
  have hs : ∀ c ∈ header.1, isSpaceOrTab c = false := by
    intro c hc
    rw [Bool.eq_false_iff]
    intro hs
    have hb : c = ' ' ∨ c = '\t' := by simpa [isSpaceOrTab] using hs
    rcases hb with rfl | rfl <;> exact absurd (h.name _ hc) (by decide)
  rw [ended, headerLine, List.append_assoc]
  exact Text.forall_head?_append h.name_ne hs

theorem IsHeader.noBreak_line (h : IsHeader header) : NoBreak (headerLine header) := by
  have hn : NoBreak header.1 := .of_forall (by decide) (by decide) h.name
  exact hn.append (NoBreak.append (s := [':', ' ']) (by decide) h.value)

/-- A header does not look like the line of an envelope, which has a space after its first word. -/
theorem IsHeader.not_envelope (h : IsHeader header) :
    envelopeStart.isPrefixOf (ended (headerLine header)) = false := by
  rw [Bool.eq_false_iff]
  intro he
  obtain ⟨rest, hr⟩ := List.isPrefixOf_iff_prefix.mp he
  -- after the characters of a name a header has a colon, and the envelope a space
  have hd : (envelopeStart ++ rest).dropWhile MessageLine.isNameChar = ' ' :: rest := rfl
  rw [hr, h.dropWhile_name] at hd
  exact absurd (List.cons.inj hd).1 (by decide)

/-- The parts of the line of a header. -/
theorem IsHeader.parts_line (h : IsHeader header) :
    (ended (headerLine header)).takeWhile (· ≠ ':') = header.1 ∧
      (((ended (headerLine header)).dropWhile (· ≠ ':')).drop 1).dropWhile isSpaceOrTab =
        ended header.2 := by
  have hn : ∀ c ∈ header.1, decide (c ≠ ':') = true := by
    intro c hc
    rw [decide_eq_true_eq]
    rintro rfl
    exact absurd (h.name _ hc) (by decide)
  have he : ended (headerLine header) = header.1 ++ ':' :: ' ' :: ended header.2 :=
    List.append_assoc ..
  have hh : ∀ c ∈ (ended header.2).head?, isSpaceOrTab c = false := by
    intro c hc
    cases hv : header.2 with
    | nil =>
      rw [hv] at hc
      obtain rfl : '\n' = c := Option.some.inj hc
      decide
    | cons d rest =>
      rw [hv] at hc
      exact h.head c (by rw [hv]; exact hc)
  rw [he, List.takeWhile_append_of_pos hn, List.dropWhile_append_of_pos hn]
  refine ⟨by simp, ?_⟩
  rw [List.dropWhile_cons_of_neg (by simp), List.drop_one, List.tail_cons,
    List.dropWhile_cons_of_pos (by decide), Text.dropWhile_of_head hh]

/-- The line feed at the end of a header is no part of it. -/
theorem IsHeader.closed (h : IsHeader header) :
    closed (some (header.1, ended header.2)) = [header] := by
  have hv : Text.dropEndWhile (fun c => c == '\r' || c == '\n') (ended header.2) = header.2 := by
    rw [Text.dropEndWhile, ended, List.reverse_concat, List.dropWhile_cons_of_pos (by decide),
      Text.dropWhile_of_head, List.reverse_reverse]
    intro c hc
    have hb := h.value c (List.mem_reverse.mp (List.mem_of_head? hc))
    simp [hb.1, hb.2]
  show [(header.1, _)] = _
  rw [hv]

/-- Header lines up to an empty line. -/
theorem takeHeaderLines_written {headers : HeaderList} (h : ∀ header ∈ headers, IsHeader header)
    (body : List Text) :
    takeHeaderLines (headers.map (ended ∘ headerLine) ++ ['\n'] :: body) =
      (headers.map (ended ∘ headerLine), body) := by
  induction headers with
  | nil => rfl
  | cons header rest ih =>
    rw [List.forall_mem_cons] at h
    rw [List.map_cons, List.cons_append, takeHeaderLines, ih h.2]
    exact if_pos h.1.isHeaderLine

/-- **Headers on lines of their own are read back**, after one that is still open. -/
theorem headersFrom_written {headers : HeaderList} (h : ∀ header ∈ headers, IsHeader header)
    (first : Bool) (current : Option (Text × Text)) :
    headersFrom first current (headers.map (ended ∘ headerLine)) =
      (closed current ++ headers, []) := by
  induction headers generalizing first current with
  | nil => rw [List.map_nil, headersFrom, List.append_nil]
  | cons header rest ih =>
    rw [List.forall_mem_cons] at h
    obtain ⟨hh, hrest⟩ := h
    obtain ⟨hn, hv⟩ := hh.parts_line
    have hs : ((ended (headerLine header)).head?.map isSpaceOrTab).getD false = false := by
      cases hc : (ended (headerLine header)).head? with
      | none => rfl
      | some c => exact hh.head_line c (by rw [hc]; rfl)
    have ho : (if header.1.isEmpty then none else some (header.1, ended header.2)) =
        some (header.1, ended header.2) := if_neg (by simpa using hh.name_ne)
    rw [List.map_cons, Function.comp_apply, headersFrom, hs, hh.not_envelope]
    simp only [hn, hv, ho, ih hrest, hh.closed, Bool.false_eq_true, if_false]
    rfl

/-- **Headers before an empty line are read back**, whatever the lines after it. -/
theorem split_headers {headers : HeaderList} (h : ∀ header ∈ headers, IsHeader header)
    (body : List Text) :
    split (headers.map (ended ∘ headerLine) ++ ['\n'] :: body) = (headers, body) := by
  rw [split, takeHeaderLines_written h]
  simp only [headersFrom_written h]
  rfl

theorem map_ended_writtenLines (headers : HeaderList) :
    (writtenLines headers).map ended = headers.map (ended ∘ headerLine) ++ ['\n'] :: [['\n']] := by
  rw [writtenLines, List.map_append, List.map_map]
  rfl

/-- **A part that is written has the headers that are written**, and one empty line for a body. -/
theorem split_written {headers : HeaderList} (h : ∀ header ∈ headers, IsHeader header) :
    split ((writtenLines headers).map ended) = (headers, [['\n']]) := by
  rw [map_ended_writtenLines, split_headers h]

/-! ## Separators -/

/-- The lines of parts with a separator before each and another one after the last. -/
def separatedLines (first last : Text) (parts : List (List Text)) : List Text :=
  parts.flatMap (fun part => first :: part) ++ [last]

theorem separatedLines_cons (first last : Text) (part : List Text) (parts : List (List Text)) :
    separatedLines first last (part :: parts) =
      first :: (part ++ separatedLines first last parts) := by
  rw [separatedLines, List.flatMap_cons, List.cons_append, List.cons_append, List.append_assoc]
  rfl

theorem map_ended_separatedLines (first last : Text) (parts : List (List Text)) :
    (separatedLines first last parts).map ended =
      separatedLines (ended first) (ended last) (parts.map (·.map ended)) := by
  induction parts with
  | nil => rfl
  | cons part rest ih =>
    rw [separatedLines_cons, List.map_cons, List.map_append, ih, List.map_cons, separatedLines_cons]

/-- A separator on a line of its own starts a part. -/
theorem separatorKind?_first (separator : Text) :
    separatorKind? separator (ended separator) = some false := by
  have hp : separator.isPrefixOf (ended separator) = true :=
    List.isPrefixOf_iff_prefix.mpr (List.prefix_append ..)
  have hd : (ended separator).drop separator.length = ['\n'] := List.drop_left ..
  rw [separatorKind?, if_pos hp, hd]
  rfl

/-- A separator with two hyphens after it ends the last part. -/
theorem separatorKind?_last (separator : Text) :
    separatorKind? separator (ended (separator ++ "--".toList)) = some true := by
  have he : ended (separator ++ "--".toList) = separator ++ ("--".toList ++ ['\n']) :=
    List.append_assoc ..
  have hp : separator.isPrefixOf (ended (separator ++ "--".toList)) = true := by
    rw [he]
    exact List.isPrefixOf_iff_prefix.mpr (List.prefix_append ..)
  have hd : (ended (separator ++ "--".toList)).drop separator.length = "--".toList ++ ['\n'] := by
    rw [he]
    exact List.drop_left ..
  rw [separatorKind?, if_pos hp, hd]
  rfl

/-- A line that does not start with a hyphen is no separator. -/
theorem separatorKind?_of_head {separator line : Text} (h : line.head? ≠ some '-') :
    separatorKind? ('-' :: separator) line = none := by
  have hp : ('-' :: separator).isPrefixOf line = false := by
    cases line with
    | nil => rfl
    | cons c rest =>
      have hc : '-' ≠ c := fun hc => h (by rw [hc]; rfl)
      simp [List.isPrefixOf, hc]
  rw [separatorKind?, hp]
  rfl

theorem mem_writtenLines {headers : HeaderList} {line : Text} (hl : line ∈ writtenLines headers) :
    line = [] ∨ ∃ header ∈ headers, line = headerLine header := by
  rcases List.mem_append.mp hl with hl | hl
  · obtain ⟨header, hh, rfl⟩ := List.mem_map.mp hl
    exact .inr ⟨header, hh, rfl⟩
  · refine .inl ?_
    simpa using hl

/-- No line of a part that is written is a separator. -/
theorem separatorKind?_written {headers : HeaderList} (h : ∀ header ∈ headers, IsHeader header)
    (separator : Text) :
    ∀ line ∈ (writtenLines headers).map ended,
      separatorKind? ('-' :: separator) line = none := by
  intro line hl
  obtain ⟨written, hw, rfl⟩ := List.mem_map.mp hl
  refine separatorKind?_of_head ?_
  rcases mem_writtenLines hw with rfl | ⟨header, hh, rfl⟩
  · decide
  · rw [ended, headerLine, List.append_assoc, List.head?_append_of_ne_nil _ (h header hh).name_ne]
    exact (h header hh).noHyphen

theorem mem_separatedLines {first last line : Text} {parts : List (List Text)}
    (h : line ∈ separatedLines first last parts) :
    line = first ∨ line = last ∨ ∃ part ∈ parts, line ∈ part := by
  rcases List.mem_append.mp h with h | h
  · obtain ⟨part, hp, h⟩ := List.mem_flatMap.mp h
    rcases List.mem_cons.mp h with rfl | h
    · exact .inl rfl
    · exact .inr (.inr ⟨part, hp, h⟩)
  · exact .inr (.inl (List.mem_singleton.mp h))

/-- **Parts with separators between them are read back**, if none of their lines is a separator. -/
theorem separated_written {separator first last : Text} {parts : List (List Text)}
    (hf : separatorKind? separator first = some false)
    (hl : separatorKind? separator last = some true)
    (hp : ∀ part ∈ parts, part ≠ [] ∧ ∀ line ∈ part, separatorKind? separator line = none) :
    separated separator (separatedLines first last parts) = parts := by
  induction parts with
  | nil =>
    show separated separator [last] = []
    rw [separated, hl]
  | cons part rest ih =>
    rw [List.forall_mem_cons] at hp
    obtain ⟨⟨hne, hpart⟩, hrest⟩ := hp
    have hhead : ∀ line ∈ (separatedLines first last rest).head?,
        isSeparator separator line = true := by
      intro line hline
      have hm : line = first ∨ line = last := by
        cases rest with
        | nil => exact .inr (Option.some.inj hline).symm
        | cons next rest =>
          rw [separatedLines_cons] at hline
          exact .inl (Option.some.inj hline).symm
      rcases hm with rfl | rfl
      · rw [isSeparator, hf]
        rfl
      · rw [isSeparator, hl]
        rfl
    have hnot : ∀ line ∈ part, isSeparator separator line = false := by
      intro line hline
      rw [isSeparator, hpart line hline]
      rfl
    -- separators that follow one another would be passed over, but no part is empty
    have hdrop : (part ++ separatedLines first last rest).dropWhile (isSeparator separator) =
        part ++ separatedLines first last rest := by
      obtain ⟨line, left, rfl⟩ := List.exists_cons_of_ne_nil hne
      exact List.dropWhile_cons_of_neg (by simp [hnot line (List.mem_cons_self ..)])
    obtain ⟨htake, hleft⟩ := Text.takeWhile_append_stop
      (p := fun line => !isSeparator separator line) (t := part)
      (s := separatedLines first last rest) (fun line hline => by simp [hnot line hline])
      (fun line hline => by simp [hhead line hline])
    rw [separatedLines_cons, separated, hf]
    simp only [hdrop, htake, hleft, ih hrest]

end MessageStructure
end MailScreen
