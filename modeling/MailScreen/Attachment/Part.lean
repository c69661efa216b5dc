import MailScreen.Table
import MailScreen.Text.Case

/-!
# Parts

A part of a message as far as attachments are concerned: its headers, by name in lower case.
-/
namespace MailScreen

/-- A part of a message. -/
structure Part where
  /-- The header values by name in lower case. A header may be on record as absent. -/
  headers : Table (Option Text)
  deriving DecidableEq, Repr

namespace Part

/-- The value of a header. -/
def header? (part : Part) (name : Text) : Option Text :=
  (part.headers.find? (Text.lower name)).join

/-- The part that a list of headers makes. Of headers with one name the first counts. -/
def ofHeaders (headers : List (Text × Text)) : Part where
  headers := headers.foldl
    (fun (table : Table (Option Text)) (name, value) =>
      let key := Text.lower name
      if table.has key then table else table.insert key (some value))
    []

/-- The part that a mapping of names to values makes. A name that comes twice keeps its place and
has its last value; of the names that are one but for case the last counts. -/
def ofMapping (entries : List (Text × Option Text)) : Part where
  headers := Table.ofList ((Table.ofList entries).map fun (name, value) => (Text.lower name, value))

end Part
end MailScreen
