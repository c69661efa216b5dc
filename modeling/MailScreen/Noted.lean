/-!
# Noted results

A computation that may fail and that notes what it does as it goes. What was noted before a failure
stays noted, so the log is a list beside the result and not part of it. The two projections are
homomorphisms: the result of a sequence is the sequence of the results, and its log is the first
log followed by that of what was still run.
-/
namespace MailScreen

/-- How much attention a log entry asks for, least first. -/
inductive Severity where
  | debug
  | info
  | warning
  | error
  deriving DecidableEq, Repr

/-- The name that a log shows for a severity. -/
def Severity.label : Severity → String
  | debug => "DEBUG"
  | info => "INFO"
  | warning => "WARNING"
  | error => "ERROR"

/-- The rank of a severity: a higher rank asks for more attention. -/
def Severity.rank : Severity → Nat
  | debug => 0
  | info => 1
  | warning => 2
  | error => 3

/-- One line of a log. -/
structure LogEntry where
  /-- How much attention the entry asks for. -/
  severity : Severity
  /-- What the entry says. -/
  message : String
  deriving DecidableEq, Repr

/-- A result of type `α`, or a failure of type `ε`, with what was noted on the way to it. -/
structure Noted (ε α : Type) where
  /-- What was noted, in order. -/
  log : List LogEntry
  /-- The value, or the failure that ended the computation. -/
  result : Except ε α

namespace Noted

variable {ε ε' α β : Type}

/-- A value with nothing noted. -/
def ok (a : α) : Noted ε α := ⟨[], .ok a⟩

/-- A failure with nothing noted. -/
def fail (e : ε) : Noted ε α := ⟨[], .error e⟩

/-- One noted entry. -/
def note (severity : Severity) (message : String) : Noted ε Unit :=
  ⟨[⟨severity, message⟩], .ok ()⟩

/-- Notes what a developer may want to know. -/
def debug (message : String) : Noted ε Unit := note .debug message

/-- Notes the ordinary course of things. -/
def info (message : String) : Noted ε Unit := note .info message

/-- Notes what the user may have meant otherwise. -/
def warning (message : String) : Noted ε Unit := note .warning message

/-- Notes what went wrong. -/
def error (message : String) : Noted ε Unit := note .error message

/-- A result that notes nothing. -/
def ofExcept (r : Except ε α) : Noted ε α := ⟨[], r⟩

/-- First `x`, then what `f` makes of its value. -/
def andThen (x : Noted ε α) (f : α → Noted ε β) : Noted ε β :=
  match x.result with
  | .error e => ⟨x.log, .error e⟩
  | .ok a => ⟨x.log ++ (f a).log, (f a).result⟩

instance : Monad (Noted ε) where
  pure := ok
  bind := andThen

/-- Makes a failure part of the value, so that what follows runs in either case. -/
def attempt (x : Noted ε α) : Noted ε' (Except ε α) := ⟨x.log, .ok x.result⟩

/-- Renames failures. -/
def mapFailure (f : ε → ε') (x : Noted ε α) : Noted ε' α := ⟨x.log, x.result.mapError f⟩

@[simp] theorem result_pure (a : α) : (pure a : Noted ε α).result = .ok a := rfl

@[simp] theorem log_pure (a : α) : (pure a : Noted ε α).log = [] := rfl

@[simp] theorem result_note (s : Severity) (m : String) :
    (note s m : Noted ε Unit).result = .ok () := rfl

@[simp] theorem result_ofExcept (r : Except ε α) : (ofExcept r).result = r := rfl

@[simp] theorem result_fail (e : ε) : (fail e : Noted ε α).result = .error e := rfl

@[simp] theorem result_bind (x : Noted ε α) (f : α → Noted ε β) :
    (x >>= f).result = x.result >>= fun a => (f a).result := by
  show (andThen x f).result = _
  unfold andThen
  split <;> simp_all [bind, Except.bind]

@[simp] theorem result_attempt (x : Noted ε α) :
    (attempt x : Noted ε' (Except ε α)).result = .ok x.result := rfl

end Noted
end MailScreen
