import MailScreen.Text.Basic

/-!
# Tables

A table maps names to values and remembers the order in which the names came in. Writing under a
name that is there already keeps the name's place.
-/
namespace MailScreen

/-- A list of named values, in the order in which the names came in. -/
abbrev Table (α : Type) := List (Text × α)

namespace Table

variable {α : Type}

/-- The value under a name. -/
def find? (table : Table α) (name : Text) : Option α :=
  (List.find? (fun entry => entry.1 == name) table).map (·.2)

/-- Whether a name is in a table. -/
def has (table : Table α) (name : Text) : Bool := table.any fun entry => entry.1 == name

/-- The names of a table in order. -/
def names (table : Table α) : List Text := table.map (·.1)

/-- A table with a value written under a name: in the name's place, or else at the end. -/
def insert (table : Table α) (name : Text) (value : α) : Table α :=
  match table with
  | [] => [(name, value)]
  | (other, old) :: rest =>
    if other == name then (name, value) :: rest else (other, old) :: insert rest name value

/-- A table without a name. -/
def erase (table : Table α) (name : Text) : Table α := table.filter fun entry => entry.1 != name

/-- A table with all values of another one written into it in order. -/
def insertAll (table other : Table α) : Table α :=
  other.foldl (fun table (name, value) => table.insert name value) table

/-- The table of a list of named values, of which the last under a name counts. -/
def ofList (entries : List (Text × α)) : Table α := insertAll [] entries

end Table
end MailScreen
