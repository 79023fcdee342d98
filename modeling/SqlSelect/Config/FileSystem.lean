import SqlSelect.Text.Segment

/-!
# `SqlSelect.Config.FileSystem`: files and paths

Files are the leaves of a tree of directories. A path names one of them by the names that lead to
it, from the root if the path starts with `/` and from the current directory otherwise. Only a
directory can be left, so a name behind a file leads nowhere, and so does the empty name behind
a last `/`; in a directory the empty name and `.` stay, and `..` leads back. `FileSystem.read` is
the text of the file that a path names, or the reason why there is none.
-/

set_option autoImplicit false

namespace SqlSelect

/-- A file with its text, or a directory with what stands in it under names. -/
inductive FileTree where
  | file (text : String)
  | directory (entries : List (String × FileTree))

/-- Why a path names no file that can be read. -/
inductive PathFault where
  | nullCharacter
  | tooLong
  | notFound
  | notDirectory
  | isDirectory
  deriving DecidableEq, Repr

/-- The fault in words. -/
def PathFault.message : PathFault → String
  | nullCharacter => "file name contained an unexpected NUL byte"
  | tooLong => "File name too long (os error 36)"
  | notFound => "No such file or directory (os error 2)"
  | notDirectory => "Not a directory (os error 20)"
  | isDirectory => "Is a directory (os error 21)"

/-- A place in a tree: what stands there, and the directories above it from the nearest on. -/
structure Place where
  here : FileTree
  above : List FileTree

/-- The largest number of bytes in a name, and in a whole path. -/
def maxNameBytes : Nat := 255

@[inherit_doc maxNameBytes]
def maxPathBytes : Nat := 4095

/-- Follows one name. Above the root there is only the root. -/
def Place.follow (place : Place) (name : String) : Except PathFault Place :=
  match place.here with
  | .file _ => .error .notDirectory
  | .directory entries =>
    if name = "" ∨ name = "." then .ok place
    else if name = ".." then
      match place.above with
      | parent :: above => .ok ⟨parent, above⟩
      | [] => .ok place
    else if maxNameBytes < name.utf8ByteSize then .error .tooLong
    else
      match entries.lookup name with
      | some tree => .ok ⟨tree, place.here :: place.above⟩
      | none => .error .notFound

/-- A tree of files, and the names that lead from its root to the current directory. -/
structure FileSystem where
  root : FileTree
  current : List String

namespace FileSystem

/-- The names that a path puts together, from the root on. -/
def names (files : FileSystem) (path : String) : List String :=
  let written := (Text.segments '/' path.toList).map String.ofList
  if path.toList.head? = some '/' then written else files.current ++ written

/-- The place that a path leads to. -/
def place (files : FileSystem) (path : String) : Except PathFault Place :=
  if path.toList.contains '\x00' then .error .nullCharacter
  else if path = "" then .error .notFound
  else if maxPathBytes < path.utf8ByteSize then .error .tooLong
  else (files.names path).foldlM Place.follow ⟨files.root, []⟩

/-- The text of the file that a path names. -/
def read (files : FileSystem) (path : String) : Except PathFault String :=
  (files.place path).bind fun place =>
    match place.here with
    | .file text => .ok text
    | .directory _ => .error .isDirectory

end FileSystem

end SqlSelect
