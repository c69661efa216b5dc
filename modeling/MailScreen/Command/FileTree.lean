import MailScreen.Charset.Utf8
import MailScreen.Command.Path
import MailScreen.Text.Quoted

/-!
# File trees

What a run of the command needs of a file system, the ways in which that fails, and files held in
memory that serve for one. Of what lies outside a tree it is only known that there are directories
above it.
-/
namespace MailScreen

/-- Why a file cannot be opened. -/
inductive FileProblem where
  /-- There is no such file. -/
  | missing
  /-- It is a directory. -/
  | isDirectory
  /-- A part of the path that should be a directory is a file. -/
  | notDirectory
  /-- It may not be opened. -/
  | denied
  /-- A name in the path is too long. -/
  | nameTooLong
  /-- The path holds a null character. -/
  | nullCharacter
  /-- A system error that has no name here. -/
  | other (number : Nat) (wording : Text)
  deriving DecidableEq, Repr

/-- The number and the wording of a system error; a path with a null character never gets to the
system. -/
def FileProblem.systemError : FileProblem → Option (Nat × Text)
  | missing => some (2, "No such file or directory".toList)
  | isDirectory => some (21, "Is a directory".toList)
  | notDirectory => some (20, "Not a directory".toList)
  | denied => some (13, "Permission denied".toList)
  | nameTooLong => some (36, "File name too long".toList)
  | nullCharacter => none
  | other number wording => some (number, wording)

/-- A file that cannot be opened. -/
structure FileFault where
  /-- Why not. -/
  problem : FileProblem
  /-- Its path. -/
  path : Path
  deriving DecidableEq, Repr

/-- The wording of a file fault. -/
def FileFault.message (fault : FileFault) : Text :=
  match fault.problem.systemError with
  | none => "embedded null byte".toList
  | some (number, wording) =>
    s!"[Errno {number}] ".toList ++ wording ++ ": ".toList ++ Text.quoted fault.path.text

/-- What a run of the command may do with files. -/
structure FileAccess where
  /-- The content of a file. -/
  read : Path → Except FileFault Octets
  /-- Why a file cannot be written, if it cannot. -/
  writeFault : Path → Option FileFault

/-- Files in directories, by the names that lead to them. -/
structure FileTree where
  /-- The files. -/
  files : List (List Text × Octets) := []
  deriving DecidableEq, Repr

/-- What stands at a place. -/
inductive FileEntry where
  /-- A file. -/
  | file (content : Octets)
  /-- A directory. -/
  | directory
  deriving DecidableEq, Repr

namespace FileTree

/-- A place: the names that lead there from the root of the tree, or nothing if it is outside. -/
abbrev Place := Option (List Text)

/-- The greatest length of a name in octets. -/
def maxNameLength : Nat := 255

/-- What stands at a place, if anything does. -/
def entryAt? (tree : FileTree) : Place → Option FileEntry
  | none => some .directory
  | some names =>
    match tree.files.find? (·.1 = names) with
    | some (_, content) => some (.file content)
    | none =>
      if names.isEmpty || tree.files.any (names.isPrefixOf ·.1) then some .directory else none

/-- The place that one part of a path leads to. -/
def enter (place : Place) (part : Text) : Except FileProblem Place :=
  if part = Path.up then
    match place with
    | none | some [] => .ok none
    | some names => .ok (some names.dropLast)
  else if (Utf8.encode part).length > maxNameLength then .error .nameTooLong
  else
    match place with
    | none => .error .missing
    | some names => .ok (some (names ++ [part]))

/-- The place that parts of a path lead to. All but the last have to lead to directories. -/
def walk (tree : FileTree) (place : Place) : List Text → Except FileProblem Place
  | [] => .ok place
  | part :: rest =>
    match tree.entryAt? place with
    | none => .error .missing
    | some (.file _) => .error .notDirectory
    | some .directory => do
      let next ← enter place part
      walk tree next rest

/-- The place of a path. -/
def placeOf (tree : FileTree) (path : Path) : Except FileProblem Place :=
  if path.text.any (·.toNat = 0) then .error .nullCharacter
  else tree.walk (if path.root.isEmpty then some [] else none) path.parts

/-- The content of a file. -/
def read (tree : FileTree) (path : Path) : Except FileFault Octets :=
  match tree.placeOf path with
  | .error problem => .error ⟨problem, path⟩
  | .ok place =>
    match tree.entryAt? place with
    | none => .error ⟨.missing, path⟩
    | some .directory => .error ⟨.isDirectory, path⟩
    | some (.file content) => .ok content

/-- Why a file cannot be written, if it cannot. -/
def writeFault (tree : FileTree) (path : Path) : Option FileFault :=
  match tree.placeOf path with
  | .error problem => some ⟨problem, path⟩
  | .ok place =>
    match tree.entryAt? place with
    | some .directory => some ⟨.isDirectory, path⟩
    | _ => none

/-- A tree with a file written, if its path leads into the tree. -/
def write (tree : FileTree) (path : Path) (content : Octets) : FileTree :=
  match tree.placeOf path with
  | .ok (some names) => ⟨tree.files.filter (·.1 ≠ names) ++ [(names, content)]⟩
  | _ => tree

/-- A tree with a file at a place of its own, with the directories that lead there. -/
def add (tree : FileTree) (path : Path) (content : Octets) : FileTree :=
  ⟨tree.files.filter (·.1 ≠ path.parts) ++ [(path.parts, content)]⟩

/-- A tree as a file system. -/
def access (tree : FileTree) : FileAccess := ⟨tree.read, tree.writeFault⟩

end FileTree
end MailScreen
