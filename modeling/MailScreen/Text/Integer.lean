import MailScreen.Text.Blank
import MailScreen.Text.Letter
import MailScreen.Text.Quoted

/-!
# Integers in text

An integer is written in decimal with an optional sign, blanks around it, digits of any script, and
single low lines between digits. The information separators do not count as blanks here. A number
of more than 4300 digits is refused, so that reading takes bounded time.
-/
namespace MailScreen

/-- Why a text is not read as an integer. -/
inductive IntegerFault where
  /-- The text has not the form of an integer. -/
  | malformed (text : Text)
  /-- The text has more than `maxIntegerDigits` digits. -/
  | tooLong (digits : Nat)
  deriving DecidableEq, Repr

/-- The greatest number of digits that is read. -/
def maxIntegerDigits : Nat := 4300

/-- The wording of an integer fault. A refused text is shown up to 200 characters. -/
def IntegerFault.message : IntegerFault → String
  | malformed text =>
    s!"invalid literal for int() with base 10: {String.ofList ((Text.quoted text).take 200)}"
  | tooLong digits =>
    s!"Exceeds the limit ({maxIntegerDigits} digits) for integer string conversion: value has " ++
      s!"{digits} digits; use sys.set_int_max_str_digits() to increase the limit"

/-- The blanks that may stand around a number: all but the information separators. -/
def isNumberBlank (c : Char) : Bool := isBlank c && !(0x1C ≤ c.toNat && c.toNat ≤ 0x1F)

/-- Reads digits with single low lines between them: how many there are, their value and the rest.
`afterDigit` says that a low line may come next. `none` stands for a low line out of place. -/
def readDigits (afterDigit : Bool) (count value : Nat) : Text → Option (Nat × Nat × Text)
  | [] => if afterDigit || count = 0 then some (count, value, []) else none
  | c :: rest =>
    if c = '_' then
      if afterDigit then readDigits false count value rest else none
    else
      match digitValue? c with
      | some d => readDigits true (count + 1) (value * 10 + d) rest
      | none => if afterDigit || count = 0 then some (count, value, c :: rest) else none

/-- The value of a run of decimal digits. -/
def digitsValue? (digits : Text) : Except IntegerFault Nat :=
  if digits.length > maxIntegerDigits then .error (.tooLong digits.length)
  else .ok (digits.foldl (fun value c => value * 10 + (digitValue? c).getD 0) 0)

/-- The integer that a text writes. -/
def readInteger (t : Text) : Except IntegerFault Int :=
  let body := t.dropWhile isNumberBlank
  let (negative, digits) :=
    match body with
    | '-' :: rest => (true, rest)
    | '+' :: rest => (false, rest)
    | _ => (false, body)
  match readDigits false 0 0 digits with
  | none => .error (.malformed t)
  | some (count, value, rest) =>
    if count > maxIntegerDigits then .error (.tooLong count)
    else if count = 0 || !rest.all isNumberBlank then .error (.malformed t)
    else .ok (if negative then -(value : Int) else value)

end MailScreen
