import MailScreen.Header.Section
import MailScreen.Message.TypeParameter

/-!
# Fields of a type header

A type header that has been written out again is cut at its semicolons into fields, each a name and
a value. Comments are cut like everything else, so that a field may come out of one. The boundary is
the value of the first field of that name, or else what the fields state that give its value in
pieces: pieces are numbered, or in extended form, and are put together in order.
-/
namespace MailScreen

/-- A field of a type header. -/
structure TypeField where
  /-- The name. -/
  name : Text
  /-- The value. -/
  value : Text
  deriving DecidableEq, Repr

/-- A piece of a value that several fields state together. -/
structure FieldPiece where
  /-- The number of the piece, if one is stated. -/
  number : Option Nat
  /-- What the piece is. -/
  value : Text
  /-- Whether the piece is percent-encoded. -/
  extended : Bool
  deriving DecidableEq, Repr

namespace TypeField

/-- Cuts a header at the semicolons outside quotation marks, with `piece` the characters of the
current piece in reverse. A quotation mark after a backslash is not counted. -/
def cutFrom (piece : Text) (quoted escaped : Bool) : Text → List Text
  | [] => [piece.reverse]
  | c :: rest =>
    if c = ';' && !quoted then piece.reverse :: cutFrom [] false false rest
    else cutFrom (c :: piece) (if c = '"' && !escaped then !quoted else quoted) (c == '\\') rest

/-- The field that a text between semicolons is. A name with a value is taken in lower case, and one
without as it stands. -/
def ofText (t : Text) : TypeField :=
  match Text.cut? '=' t with
  | some (name, value) => ⟨Text.lower (Text.trim name), Text.trim value⟩
  | none => ⟨Text.trim t, []⟩

/-- The fields of a header. -/
def allIn (shown : Text) : List TypeField := (cutFrom [] false false shown).map ofText

/-- A text without the marks around it, its escapes taken away: two quotation marks, or two angle
brackets. -/
def unquote (t : Text) : Text :=
  let middle := (t.drop 1).dropLast
  if t.length ≤ 1 then t
  else if t.head? = some '"' && t.getLast? = some '"' then unescapeMarks (unescapeSlashes middle)
  else if t.head? = some '<' && t.getLast? = some '>' then middle
  else t
where
  /-- A text with single backslashes for double ones. -/
  unescapeSlashes : Text → Text
    | [] => []
    | '\\' :: '\\' :: rest => '\\' :: unescapeSlashes rest
    | c :: rest => c :: unescapeSlashes rest
  /-- A text with the backslashes before quotation marks taken away. -/
  unescapeMarks : Text → Text
    | [] => []
    | '\\' :: '"' :: rest => '"' :: unescapeMarks rest
    | c :: rest => c :: unescapeMarks rest

/-- The name under which a boundary is stated, in whatever case. -/
def isBoundaryName (name : Text) : Bool := Text.lower name == "boundary".toList

/-- The characters that the name proper of a value in pieces consists of. -/
def isPieceNameChar (c : Char) : Bool := c.toNat < 0x80 && isWord c

/-- The name proper of a field that states a piece of a value, and the piece; `none` for any other
field. -/
def piece? (field : TypeField) : Except TypeFault (Option (Text × FieldPiece)) :=
  match Header.splitName? field.name with
  | none | some (_, .plain) => .ok none
  | some (base, .extended) =>
    .ok (if base.all isPieceNameChar then some (base, ⟨none, unquote field.value, true⟩) else none)
  | some (base, .numbered digits extended) =>
    if base.all isPieceNameChar && digits.all isPieceNameChar then
      match readInteger digits with
      | .ok n => .ok (some (base, ⟨some n.toNat, unquote field.value, extended⟩))
      | .error fault => .error (.number fault)
    else .ok none

end TypeField

namespace FieldPiece

/-- The order of pieces: by number, and those of one number by what they are. -/
def precedes (a b : FieldPiece) : Bool :=
  a.number.getD 0 < b.number.getD 0 ||
    (a.number == b.number &&
      (decide (a.value < b.value) || (a.value == b.value && (!a.extended || b.extended))))

/-- The text of a piece. -/
def text (piece : FieldPiece) : Text :=
  if piece.extended then TypeParameter.decodeAsLatin1 piece.value else piece.value

/-- The charset and the text of an extended value; ASCII if no charset and language are stated. -/
def splitCharset (t : Text) : Text × Text :=
  match Text.cut? '\'' t with
  | none => ("us-ascii".toList, t)
  | some (charset, rest) =>
    match Text.cut? '\'' rest with
    | none => ("us-ascii".toList, t)
    | some (_, value) => (charset, value)

/-- What an extended value means. One in a charset that is not known is taken as it is. -/
def extendedMeaning (t : Text) : Except TypeFault Text :=
  let (charset, value) := splitCharset t
  match decodeNamed charset (Escape.encodeRaw value) with
  | .ok meant => .ok meant
  | .error (.unknown _) | .error (.notText _) => .ok (TypeField.unquote value)
  | .error fault => .error (.charset fault)

/-- What pieces mean together. -/
def meaning (pieces : List FieldPiece) : Except TypeFault Text :=
  let joined := (pieces.mergeSort precedes).flatMap text
  if pieces.any (·.extended) then extendedMeaning joined else .ok (TypeField.unquote joined)

/-- Pieces with and without a number cannot be put in order. -/
def checkOrder : List FieldPiece → Except TypeFault Unit
  | [] => .ok ()
  | first :: rest =>
    if rest.any fun piece => piece.number.isSome != first.number.isSome then
      .error (.mixedPieces first.number.isSome)
    else .ok ()

end FieldPiece

namespace TypeField

/-- The values that fields state in pieces, by name in the order in which they first come. -/
def pieces (fields : List TypeField) : Except TypeFault (Table (List FieldPiece)) :=
  fields.foldlM
    (fun known field => do
      match ← field.piece? with
      | none => return known
      | some (name, piece) => return known.insert name ((known.find? name).getD [] ++ [piece]))
    []

/-- The boundary that fields state, without the blanks at its end. What stands before the first
semicolon states nothing in pieces. -/
def boundary? (fields : List TypeField) : Except TypeFault (Option Text) := do
  let found ← pieces (fields.drop 1)
  found.forM fun (_, pieces) => FieldPiece.checkOrder pieces
  match fields.find? fun field => isBoundaryName field.name with
  | some field => return some (Text.dropEndWhile isBlank (unquote (unquote field.value)))
  | none =>
    match List.find? (fun entry => isBoundaryName entry.1) found with
    | some (_, pieces) => return some (Text.dropEndWhile isBlank (← FieldPiece.meaning pieces))
    | none => return none

end TypeField
end MailScreen
