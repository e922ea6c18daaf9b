import Uiml.Asset.Path
import Uiml.Table

/-!
# Files

A tree of files and directories, each given by the names that lead to it from the topmost directory,
and the directory in it that paths start from. What is above a file or a directory is a directory.
Nothing leads to another place than its name says.

## Main definitions

* `Files` — the files by the names that lead to them
* `Files.walk`, `Files.resolve` — what a path leads to
* `Files.read`, `Files.readText` — the content of a file, or why there is none
-/

namespace Uiml

/-- Why a file cannot be read. -/
inductive ReadFault where
  | notFound
  | notADirectory
  | isADirectory
  | nameTooLong
  | nulByte
  | notText
  deriving DecidableEq, Repr

/-- The wording of a fault. -/
def ReadFault.message : ReadFault → String
  | .notFound => "No such file or directory (os error 2)"
  | .notADirectory => "Not a directory (os error 20)"
  | .isADirectory => "Is a directory (os error 21)"
  | .nameTooLong => "File name too long (os error 36)"
  | .nulByte => "file name contained an unexpected NUL byte"
  | .notText => "stream did not contain valid UTF-8"

/-- Where paths start from unless something else is said: below the topmost directory, so that two
dots lead out of there. -/
def Files.usualStart : List String := ["start"]

/-- The bytes of files by the names that lead to them from the topmost directory. -/
structure Files where
  /-- The names that lead to the directory that paths start from. -/
  start : List String := Files.usualStart
  /-- The names that lead to directories, of which some may have no file below them. -/
  directories : List (List String) := []
  contents : Table (List String) (List UInt8) := {}
  deriving Inhabited

namespace Files

/-- The files of the given paths and bytes, with the directories that the paths lead through. -/
def ofList (files : List (String × List UInt8)) (start : List String := usualStart) : Files where
  start
  directories := files.flatMap fun file => Path.through start file.1
  contents := .ofList (files.map fun file => (Path.place start file.1, file.2))

/-- What a path can lead to. -/
inductive Entry where
  | file (bytes : List UInt8)
  | directory
  deriving DecidableEq, Repr

/-- What names lead to, none of them being dots. -/
def entry? (files : Files) (names : List String) : Option Entry :=
  if (files.start :: files.directories).any names.isPrefixOf then some .directory
  else
    match files.contents.get? names with
    | some bytes => some (.file bytes)
    | none =>
      if files.contents.entries.any fun file => names.isPrefixOf file.1 then some .directory
      else none

/-- The most bytes of a name. -/
def maxNameBytes : Nat := 255

/-- The most bytes of a path. -/
def maxPathBytes : Nat := 4095

/-- Follows the parts of a path from a directory. -/
def walk (files : Files) (here : List String) : List String → Except ReadFault (List String)
  | [] => .ok here
  | name :: rest =>
    match files.entry? here with
    | none => .error .notFound
    | some (.file _) => .error .notADirectory
    | some .directory =>
      if name = "" || name = "." then walk files here rest
      else if maxNameBytes < name.utf8ByteSize then .error .nameTooLong
      else walk files (Path.enter here name) rest

/-- What a path leads to. -/
def resolve (files : Files) (path : String) : Except ReadFault Entry :=
  if path.toList.contains '\x00' then .error .nulByte
  else if path = "" then .error .notFound
  else if maxPathBytes < path.utf8ByteSize then .error .nameTooLong
  else
    match files.walk (Path.origin files.start path)
        ((path.toList.splitOn '/').map String.ofList) with
    | .error fault => .error fault
    | .ok names =>
      match files.entry? names with
      | some entry => .ok entry
      | none => .error .notFound

/-- The bytes of the file that a path leads to. -/
def read (files : Files) (path : String) : Except ReadFault (List UInt8) :=
  match files.resolve path with
  | .error fault => .error fault
  | .ok .directory => .error .isADirectory
  | .ok (.file bytes) => .ok bytes

/-- Whether a path leads to a file. -/
def isFile (files : Files) (path : String) : Bool :=
  match files.resolve path with
  | .ok (.file _) => true
  | _ => false

/-- The text of the file that a path leads to. -/
def readText (files : Files) (path : String) : Except ReadFault String :=
  match files.read path with
  | .error fault => .error fault
  | .ok bytes =>
    match String.fromUTF8? (ByteArray.mk bytes.toArray) with
    | some text => .ok text
    | none => .error .notText

end Files

end Uiml
