import MailScreen.Message.Format

/-!
# Readers of messages

A reader of messages says whether it may read data and how sure it is of that, and it reads. Of
several readers the surest one counts, the first of them if there are more, and one that is not sure
at all does not count. There may be readers of any formats, and they may measure how sure they are
in any way in which more can be told from less.
-/
namespace MailScreen

/-- A reader of messages, with `φ` what formats are called, `κ` how sure readers can be, and `ε`
what may go wrong in reading. -/
structure MessageReader (φ κ ε : Type) where
  /-- The format that it reads. -/
  format : φ
  /-- The name by which messages refer to it. -/
  name : String
  /-- Whether it reads Outlook messages, which takes more than a reader. -/
  readsOutlook : Bool := false
  /-- Whether it may read data with a file name, and how sure that is. -/
  judge : Octets → Option Text → Bool × κ
  /-- The parts of a message, or nothing if it cannot be read. -/
  read : Octets → Option Text → Noted ε (Option (List Part))

namespace MessageReader

variable {φ κ ε : Type}

section

variable [OfNat κ 0] [LT κ] [DecidableLT κ]

/-- The better of the best reader so far and one more, which has to be surer to be better. -/
def better (data : Octets) (fileName : Option Text) (best : Option (MessageReader φ κ ε × κ))
    (reader : MessageReader φ κ ε) : Option (MessageReader φ κ ε × κ) :=
  let (may, confidence) := reader.judge data fileName
  let least := (best.map (·.2)).getD 0
  if may && least < confidence then some (reader, confidence) else best

/-- The reader among some that is surest of data, the first of them if there are several, and how
sure it is. -/
def surest (readers : List (MessageReader φ κ ε)) (data : Octets) (fileName : Option Text) :
    Option (MessageReader φ κ ε × κ) :=
  readers.foldl (better data fileName) none

end

/-- The reader of one of the known formats. -/
def ofFormat (outlook : Option OutlookReader) (format : MailFormat) :
    MessageReader MailFormat Confidence ε where
  format := format
  name := format.readerName
  readsOutlook := format = .msg
  judge := format.judge
  read data _ := Message.read outlook format data

end MessageReader
end MailScreen
