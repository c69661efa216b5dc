import MailScreen.Text.Basic

/-!
# Paths

A path in normal form: a root and parts, of which none is empty or a single dot. Two paths that are
spelled differently but have the same normal form are the same path. Parts that lead upwards are
kept, since what they cancel is for the file system to say.
-/
namespace MailScreen

/-- A path. -/
structure Path where
  /-- What the path starts at: nothing, one slash or two. -/
  root : Text
  /-- The parts. -/
  parts : List Text
  deriving DecidableEq, Repr

namespace Path

/-- The part that leads upwards. -/
def up : Text := ['.', '.']

/-- Whether a piece between slashes is a part of a normal form. -/
def isPart (piece : Text) : Bool := !piece.isEmpty && piece != ['.']

/-- The root of a path by how many slashes it starts with. Two mean something of their own. -/
def rootOf (slashes : Nat) : Text :=
  if slashes = 0 then [] else if slashes = 2 then ['/', '/'] else ['/']

/-- The path that a text spells. -/
def ofText (t : Text) : Path where
  root := rootOf (t.takeWhile (· = '/')).length
  parts := (List.splitOn '/' t).filter isPart

/-- The spelling of a path. The path without root and parts is a single dot. -/
def text (path : Path) : Text :=
  if path.root.isEmpty && path.parts.isEmpty then ['.']
  else path.root ++ List.intercalate ['/'] path.parts

/-- The last part of a path, if it has any. -/
def name (path : Path) : Text := path.parts.getLastD []

end Path
end MailScreen
