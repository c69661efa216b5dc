import MailScreen.Text.Blank

/-!
# Tokens

A token is a run of characters that are neither blanks of ASCII nor control characters of ASCII nor
one of the special characters of a structured header. Characters outside ASCII may be in a token.
-/
namespace MailScreen.Header

/-- The special characters of a structured header. -/
def specials : List Char :=
  ['(', ')', '<', '>', '@', ',', ';', ':', '\\', '"', '/', '[', ']', '?', '=']

/-- The characters of a token. -/
def isTokenChar (c : Char) : Bool := 0x20 < c.toNat && c.toNat ≠ 0x7F && !specials.contains c

/-- The token that a text starts with, and what is left after it. -/
def takeToken? (t : Text) : Option (Text × Text) :=
  match t.takeWhile isTokenChar with
  | [] => none
  | c :: rest => some (c :: rest, t.dropWhile isTokenChar)

/-- A text without the spaces and tabs it starts with. -/
def dropSpaces (t : Text) : Text := t.dropWhile isSpaceOrTab

/-- The token that a text starts with if an equals sign comes next, and what is left after the sign
and the spaces around it. -/
def takeName? (t : Text) : Option (Text × Text) :=
  match takeToken? t with
  | none => none
  | some (name, rest) =>
    match dropSpaces rest with
    | '=' :: rest => some (name, dropSpaces rest)
    | _ => none

theorem length_dropSpaces_le (t : Text) : (dropSpaces t).length ≤ t.length :=
  (List.dropWhile_sublist _).length_le

/-- A name takes its equals sign and at least one character with it. -/
theorem length_takeName?_lt {t name rest : Text} (h : takeName? t = some (name, rest)) :
    rest.length < t.length := by
  unfold takeName? takeToken? at h
  split at h
  · simp at h
  · rename_i name' rest' h'
    split at h'
    · simp at h'
    · split at h
      · rename_i rest'' hr
        simp only [Option.some.injEq, Prod.mk.injEq] at h h'
        have h1 := length_dropSpaces_le rest''
        have h2 := length_dropSpaces_le rest'
        have h3 : (t.dropWhile isTokenChar).length ≤ t.length :=
          (List.dropWhile_sublist _).length_le
        rw [hr] at h2
        rw [← h.2]
        rw [h'.2] at h3
        simp only [List.length_cons] at h2
        omega
      · simp at h

end MailScreen.Header
