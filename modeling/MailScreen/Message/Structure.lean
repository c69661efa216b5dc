import MailScreen.Attachment.Part
import MailScreen.Message.Line
import MailScreen.Message.TypeHeader

/-!
# The structure of a message

A message has headers and, depending on its type, parts that are messages themselves: a multipart
message those between its separators, an enclosing message the one that it encloses, and a delivery
status one for each block of lines. The parts of a message are listed in the order of the text,
each before its own parts. A part within a part is smaller than it, which is why reading ends.
-/
namespace MailScreen

/-- The headers of a part, in order. -/
abbrev HeaderList := List (Text × Text)

namespace MessageStructure

open MessageLine

/-- The header lines that a message starts with, and the lines of its body. An empty line between
them belongs to neither. -/
def takeHeaderLines : List Text → List Text × List Text
  | [] => ([], [])
  | line :: rest =>
    if isHeaderLine line then
      let (header, body) := takeHeaderLines rest
      (line :: header, body)
    else if isEmptyLine line then ([], rest)
    else ([], line :: rest)

/-- The header, if any, that a name and the text after its colon make, without the line breaks at
its end. -/
def closed (current : Option (Text × Text)) : HeaderList :=
  current.toList.map fun (name, value) =>
    (name, Text.dropEndWhile (fun c => c == '\r' || c == '\n') value)

/-- The headers that header lines make, and the last line if it is one of an envelope and belongs to
the body after all. `current` is the header that a line may continue, `first` says that no line has
been read. -/
def headersFrom (first : Bool) (current : Option (Text × Text)) :
    List Text → HeaderList × List Text
  | [] => (closed current, [])
  | line :: rest =>
    if (line.head?.map isSpaceOrTab).getD false then
      headersFrom false (current.map fun (name, value) => (name, value ++ line)) rest
    else if envelopeStart.isPrefixOf line then
      if !first && rest.isEmpty then (closed current, [line])
      else
        let (more, last) := headersFrom false none rest
        (closed current ++ more, last)
    else
      let name := line.takeWhile (· ≠ ':')
      let value := ((line.dropWhile (· ≠ ':')).drop 1).dropWhile isSpaceOrTab
      let (more, last) := headersFrom false (if name.isEmpty then none else some (name, value)) rest
      (closed current ++ more, last)

/-- The headers of a message and the lines of its body. -/
def split (lines : List Text) : HeaderList × List Text :=
  let (headerLines, body) := takeHeaderLines lines
  let (headers, last) := headersFrom true none headerLines
  (headers, last ++ body)

/-- Whether a line is a separator, of whichever kind. -/
def isSeparator (separator line : Text) : Bool := (separatorKind? separator line).isSome

/-- The lines of each part of a multipart body. Separators that follow each other count as one. -/
def separated (separator : Text) (lines : List Text) : List (List Text) :=
  match lines with
  | [] => []
  | line :: rest =>
    match separatorKind? separator line with
    | none => separated separator rest
    | some true => []
    | some false =>
      let part := rest.dropWhile (isSeparator separator)
      part.takeWhile (fun line => !isSeparator separator line) ::
        separated separator (part.dropWhile fun line => !isSeparator separator line)
termination_by lines.length
decreasing_by
  · simp
  · have h1 : (rest.dropWhile (isSeparator separator)).length ≤ rest.length :=
      (List.dropWhile_sublist _).length_le
    have h2 := (List.dropWhile_sublist (l := rest.dropWhile (isSeparator separator))
      (fun line => !isSeparator separator line)).length_le
    simp only [List.length_cons]
    omega

/-- The blocks of lines between empty lines. An empty line at the very end starts no block. -/
def blocks (lines : List Text) : List (List Text) :=
  let block := lines.takeWhile fun line => !isEmptyLine line
  match _h : lines.dropWhile fun line => !isEmptyLine line with
  | [] | [_] => [block]
  | _ :: next :: rest => block :: blocks (next :: rest)
termination_by lines.length
decreasing_by
  have h' := (List.dropWhile_sublist (l := lines) fun line => !isEmptyLine line).length_le
  rw [_h] at h'
  simp only [List.length_cons] at h' ⊢
  omega

/-- The lines of the parts of a message with a body. -/
def partLines (type : PartType) (body : List Text) : List (List Text) :=
  if type.name = "message/delivery-status".toList then blocks body
  else if type.kind = "message".toList then [body]
  else if type.kind = "multipart".toList then
    match type.boundary with
    | none => []
    | some boundary => separated ("--".toList ++ boundary) body
  else []

/-! ## Parts are smaller than what they are parts of -/

theorem length_takeHeaderLines_le (lines : List Text) :
    (takeHeaderLines lines).1.length + (takeHeaderLines lines).2.length ≤ lines.length := by
  fun_induction takeHeaderLines lines with
  | case1 => simp
  | case2 line rest _ header body hr ih =>
    rw [hr] at ih
    simp only [List.length_cons] at ih ⊢
    omega
  | case3 line rest => simp
  | case4 line rest => simp

theorem length_closed (current : Option (Text × Text)) :
    (closed current).length = current.toList.length := by
  simp [closed]

/-- Every header takes a line, but for one that is open from the start. -/
theorem length_headersFrom_le (first : Bool) (current : Option (Text × Text)) (lines : List Text) :
    (headersFrom first current lines).1.length + (headersFrom first current lines).2.length ≤
      lines.length + current.toList.length := by
  fun_induction headersFrom first current lines with
  | case1 => simp [length_closed]
  | case2 first current line rest _ ih =>
    rw [Option.toList_map, List.length_map] at ih
    rw [List.length_cons]
    omega
  | case3 =>
    simp only [length_closed, List.length_cons, List.length_nil]
    omega
  | case4 first current line rest _ _ _ more last hr ih =>
    rw [hr] at ih
    have hn : (none : Option (Text × Text)).toList.length = 0 := rfl
    simp only [List.length_append, length_closed, List.length_cons] at ih ⊢
    omega
  | case5 first current line rest _ _ name value more last hr ih =>
    rw [hr] at ih
    have hn : (if name.isEmpty then none else some (name, value)).toList.length ≤ 1 :=
      Option.length_toList_le
    simp only [List.length_append, length_closed, List.length_cons] at ih ⊢
    omega

/-- The headers and the lines of the body are at most as many as the lines. -/
theorem length_split_le (lines : List Text) :
    (split lines).1.length + (split lines).2.length ≤ lines.length := by
  have h1 := length_takeHeaderLines_le lines
  have h2 := length_headersFrom_le true none (takeHeaderLines lines).1
  simp only [split, List.length_append, Option.toList_none, List.length_nil] at *
  omega

theorem length_le_of_mem_separated {separator : Text} {lines part : List Text}
    (h : part ∈ separated separator lines) : part.length ≤ lines.length := by
  fun_induction separated separator lines with
  | case1 => simp at h
  | case2 _ _ _ ih => have := ih h; simp; omega
  | case3 => simp at h
  | case4 line rest _ body ih =>
    have h1 : body.length ≤ rest.length := (List.dropWhile_sublist _).length_le
    rcases List.mem_cons.1 h with rfl | h
    · have := (List.takeWhile_sublist (l := body)
        fun line => !isSeparator separator line).length_le
      simp; omega
    · have h2 := ih h
      have := (List.dropWhile_sublist (l := body)
        fun line => !isSeparator separator line).length_le
      simp; omega

theorem length_le_of_mem_blocks {lines part : List Text} (h : part ∈ blocks lines) :
    part.length ≤ lines.length := by
  have h1 (l : List Text) := (List.takeWhile_sublist (l := l) fun t => !isEmptyLine t).length_le
  fun_induction blocks lines with
  | case1 lines block => simp at h; subst h; exact h1 lines
  | case2 lines block => simp at h; subst h; exact h1 lines
  | case3 lines block e next rest h' ih =>
    rcases List.mem_cons.1 h with rfl | h
    · exact h1 lines
    · have h2 := ih h
      have h3 := (List.dropWhile_sublist (l := lines) fun line => !isEmptyLine line).length_le
      rw [h'] at h3
      simp only [List.length_cons] at h2 h3
      omega

/-- A part has at most the lines of the body that it is a part of. -/
theorem length_le_of_mem_partLines {type : PartType} {body part : List Text}
    (h : part ∈ partLines type body) : part.length ≤ body.length := by
  unfold partLines at h
  split at h
  · exact length_le_of_mem_blocks h
  · split at h
    · simp_all
    · split at h
      · split at h
        · simp at h
        · exact length_le_of_mem_separated h
      · simp at h

/-- Plain text has no parts. -/
theorem partLines_plain (body : List Text) : partLines PartType.plain body = [] := by
  rw [partLines, if_neg (by decide), if_neg (by decide), if_neg (by decide)]

/-- What makes a message smaller: its lines, and then whether it stands in a digest. -/
def measure (inDigest : Bool) (lines : List Text) : Nat := 2 * lines.length + inDigest.toNat

/-- A message in a digest that has no headers encloses a message, which is not in a digest. -/
def isDigest (type : PartType) : Bool := type.name = "multipart/digest".toList

theorem measure_lt {inDigest : Bool} {lines part : List Text} {type : PartType}
    (ht : PartType.ofHeaders inDigest (split lines).1 = .ok type)
    (hp : part ∈ partLines type (split lines).2) :
    measure (isDigest type) part < measure inDigest lines := by
  have hl := length_split_le lines
  have hb := length_le_of_mem_partLines hp
  cases hh : (split lines).1 with
  | nil =>
    rw [hh] at ht
    cases inDigest with
    | false =>
      simp only [PartType.ofHeaders, List.find?_nil, Bool.false_eq_true, if_false,
        Except.ok.injEq] at ht
      subst ht
      simp [partLines_plain] at hp
    | true =>
      simp only [PartType.ofHeaders, List.find?_nil, if_true, Except.ok.injEq] at ht
      subst ht
      have : isDigest PartType.message = false := by
        unfold isDigest PartType.message
        simp
      simp only [measure, this, Bool.toNat_false, Bool.toNat_true]
      omega
  | cons x xs =>
    rw [hh] at hl
    have : (isDigest type).toNat ≤ 1 := Bool.toNat_le _
    simp only [List.length_cons] at hl
    simp only [measure]
    omega

/-- The headers of the parts of a message in the order of the text, its own first. -/
def parts (inDigest : Bool) (lines : List Text) : Except TypeFault (List HeaderList) :=
  match _h : PartType.ofHeaders inDigest (split lines).1 with
  | .error fault => .error fault
  | .ok type => do
    let inner ← (partLines type (split lines).2).attach.mapM fun ⟨part, _⟩ =>
      parts (isDigest type) part
    return (split lines).1 :: inner.flatten
termination_by measure inDigest lines
decreasing_by
  exact measure_lt _h ‹_›

end MessageStructure

/-- The part that headers make in which octets are held: these are read first. -/
def Part.ofRawHeaders (headers : HeaderList) : Part :=
  Part.ofHeaders (headers.map fun (name, value) => (name, Held.recover value))

/-- The parts of a message that has arrived as octets. -/
def partsOfOctets (bytes : Octets) : Except TypeFault (List Part) := do
  let parts ← MessageStructure.parts false (MessageLine.ofText (Held.ofOctets bytes))
  return parts.map Part.ofRawHeaders

/-- The parts of a message that is given as text. -/
def partsOfText (t : Text) : Except TypeFault (List Part) := do
  let parts ← MessageStructure.parts false (MessageLine.ofText t)
  return parts.map Part.ofHeaders

end MailScreen
