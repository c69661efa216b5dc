import MailScreen.Text.Quoted

/-!
# JSON documents

The values that reports are made of and the one way in which they are written: each item on a line
of its own, two blanks further in than what holds it, members in the order given, and ASCII
characters only.
-/
namespace MailScreen

/-- A JSON value. -/
inductive JsonValue where
  /-- A truth value. -/
  | bool (value : Bool)
  /-- An integer. -/
  | integer (value : Int)
  /-- A number that is not negative, in tenths. -/
  | tenths (value : Nat)
  /-- A string. -/
  | string (value : Text)
  /-- A list of values. -/
  | array (items : List JsonValue)
  /-- Named values in order. -/
  | object (members : List (Text × JsonValue))
  deriving Repr

namespace JsonValue

/-- The string value of a string constant. -/
def ofString (s : String) : JsonValue := string s.toList

/-- The object of members whose names are constants. -/
def ofMembers (members : List (String × JsonValue)) : JsonValue :=
  object (members.map fun (name, value) => (name.toList, value))

/-- The escape of a code unit of 16 bits by its four hexadecimal digits. -/
def escapeUnit (unit : Nat) : Text := '\\' :: 'u' :: hexDigits 4 unit

/-- The escape of a character: by one code unit, or by two if its code point needs more bits. -/
def escapeByUnits (c : Char) : Text :=
  let n := c.toNat
  if n < 0x10000 then escapeUnit n
  else
    escapeUnit (0xD800 + (n - 0x10000) / 0x400) ++ escapeUnit (0xDC00 + (n - 0x10000) % 0x400)

/-- A character inside a string. -/
def writeChar (c : Char) : Text :=
  if c = '"' || c = '\\' then ['\\', c]
  else if c = '\n' then ['\\', 'n']
  else if c = '\r' then ['\\', 'r']
  else if c = '\t' then ['\\', 't']
  else if c.toNat = 0x08 then ['\\', 'b']
  else if c.toNat = 0x0C then ['\\', 'f']
  else if 0x20 ≤ c.toNat && c.toNat ≤ 0x7E then [c]
  else escapeByUnits c

/-- A string in its quotation marks. -/
def writeString (t : Text) : Text := '"' :: t.flatMap writeChar ++ ['"']

/-- A new line at a depth. -/
def newLine (depth : Nat) : Text := '\n' :: List.replicate (2 * depth) ' '

/-- Items between an opening and a closing mark, each on a line of its own. -/
def writeBlock (depth : Nat) (opening closing : Char) (items : List Text) : Text :=
  if items.isEmpty then [opening, closing]
  else
    opening :: newLine (depth + 1) ++ List.intercalate (',' :: newLine (depth + 1)) items ++
      newLine depth ++ [closing]

mutual

/-- A value as it is written at a depth. -/
def write (depth : Nat) : JsonValue → Text
  | bool value => if value then "true".toList else "false".toList
  | integer value => (toString value).toList
  | tenths value => s!"{value / 10}.{value % 10}".toList
  | string value => writeString value
  | array items => writeBlock depth '[' ']' (writeItems (depth + 1) items)
  | object members => writeBlock depth '\x7b' '\x7d' (writeMembers (depth + 1) members)

/-- The items of an array as they are written at a depth. -/
def writeItems (depth : Nat) : List JsonValue → List Text
  | [] => []
  | item :: rest => write depth item :: writeItems depth rest

/-- The members of an object as they are written at a depth. -/
def writeMembers (depth : Nat) : List (Text × JsonValue) → List Text
  | [] => []
  | (name, value) :: rest =>
    (writeString name ++ ": ".toList ++ write depth value) :: writeMembers depth rest

end

/-- The text of a document. -/
def document (value : JsonValue) : Text := write 0 value

end JsonValue
end MailScreen
