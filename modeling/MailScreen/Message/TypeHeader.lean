import MailScreen.Message.TypeField

/-!
# The type of a part

The type of a part says whether it has parts of its own and what stands between them. The header is
first written out again with its parameters in order and in quotation marks; what stands before the
first semicolon of that is the type, and the boundary is looked for among the rest. A header that
has not one slash in its type counts as plain text.
-/
namespace MailScreen

open Lexeme TypeParameter

/-- What the type of a part says about its structure. -/
structure PartType where
  /-- The type and subtype, with a slash between them. -/
  name : Text
  /-- What separates the parts, if it is stated. -/
  boundary : Option Text
  deriving DecidableEq, Repr

namespace PartType

/-- The name of the type of plain text. -/
def plainName : Text := "text/plain".toList

/-- The type of a part without a type header. -/
def plain : PartType := ⟨plainName, none⟩

/-- The type of a part without a type header in a digest. -/
def message : PartType := ⟨"message/rfc822".toList, none⟩

/-- Shows what follows the type: text up to a semicolon and then parameters. -/
def showRest (t : Text) : Except TypeFault Text :=
  let (shown, left) := junk t
  match left with
  | [] => .ok shown
  | _ :: left => do
    let parameters ← readAll left
    return shown ++ ';' :: (← showAll parameters)

/-- A type header as it is shown. -/
def showHeader (t : Text) : Except TypeFault Text :=
  match token? t with
  | none => showRest t
  | some (kind, t) =>
    match t with
    | '/' :: t =>
      match token? t with
      | none => do return kind ++ '/' :: (← showRest t)
      | some (subtype, t) => do return kind ++ '/' :: subtype ++ (← showRest t)
    | _ => do return kind ++ (← showRest t)

/-- What stands before the slash of a type. -/
def kindOf (name : Text) : Text := name.takeWhile (· ≠ '/')

/-- The type that a header as it is shown states. The boundary is looked for if the type is that of
a message with several parts. -/
def ofShown (shown : Text) : Except TypeFault PartType := do
  let stated := Text.lower (Text.trim (shown.takeWhile (· ≠ ';')))
  let name := if stated.count '/' = 1 then stated else plainName
  if kindOf name = "multipart".toList then
    return ⟨name, ← TypeField.boundary? (TypeField.allIn shown)⟩
  else return ⟨name, none⟩

/-- The type that the value of a header states. -/
def ofValue (value : Text) : Except TypeFault PartType := do
  let shown ← showHeader (value.filter fun c => c ≠ '\r' && c ≠ '\n')
  ofShown (Held.settle shown)

/-- The type that the headers of a part state; in a digest a part without a type is a message. -/
def ofHeaders (inDigest : Bool) (headers : List (Text × Text)) : Except TypeFault PartType :=
  match headers.find? fun header => Text.lower header.1 = "content-type".toList with
  | some header => ofValue header.2
  | none => .ok (if inDigest then message else plain)

/-- What stands before the slash. -/
def kind (type : PartType) : Text := kindOf type.name

end PartType
end MailScreen
