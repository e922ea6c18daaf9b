/-!
# Paths

A path is a text of names between slashes. Empty names and single dots lead nowhere, two dots lead
up. Where a path is extended or given another extension only its text is changed; what it leads to
is for the files to say.

## Main definitions

* `Path.components` — the names of a path
* `Path.place` — where a path leads, as far as its names tell
* `Path.join` — a path below another
* `Path.extension?`, `Path.withExtension` — what follows the last dot of the last name
-/

namespace Uiml.Path

/-- The names of a path that lead somewhere. -/
def components (path : String) : List String :=
  ((path.toList.splitOn '/').map String.ofList).filter fun name => name ≠ "" && name ≠ "."

/-- Where a name leads from a directory, both given by the names that lead there from the topmost
one. Two dots lead up; the topmost directory is in itself. -/
def enter (here : List String) (name : String) : List String :=
  if name = ".." then here.dropLast else here ++ [name]

/-- The directory that a path leads from: the given one, or the topmost one if the path has a slash
at its start. -/
def origin (start : List String) (path : String) : List String :=
  if path.toList.head? = some '/' then [] else start

/-- Where a path leads, given where paths start from. -/
def place (start : List String) (path : String) : List String :=
  (components path).foldl enter (origin start path)

/-- The directories that a path leads through on its way, given where paths start from. -/
def through (start : List String) (path : String) : List (List String) :=
  (components path).dropLast.scanl enter (origin start path)

/-- The last name of a path, unless it leads up. -/
def fileName? (path : String) : Option String :=
  match (components path).getLast? with
  | some ".." => none
  | name => name

/-- A relative path below another path. -/
def join (base path : String) : String :=
  if base = "" || base.toList.getLast? = some '/' then base ++ path else base ++ "/" ++ path

/-- A path without the slashes at its start. -/
def relative (path : String) : String := String.ofList (path.toList.dropWhile (· == '/'))

/-- A name cut at its last dot, which is not its first character. -/
def cutName (name : String) : String × Option String :=
  let cs := name.toList.reverse
  let extension := (cs.takeWhile (· ≠ '.')).reverse
  match cs.dropWhile (· ≠ '.') with
  | [] | [_] => (name, none)
  | _ :: stem => (String.ofList stem.reverse, some (String.ofList extension))

/-- What follows the last dot of the last name, if the dot is not the name's first character. -/
def extension? (path : String) : Option String := (fileName? path).bind fun name => (cutName name).2

/-- The text of a path up to the end of its last name, given in reverse. -/
def dropTail : List Char → List Char
  | [] => []
  | '/' :: rest => dropTail rest
  | '.' :: '/' :: rest => dropTail rest
  | cs => cs

/-- The path with another extension of its last name. Without a last name it stays as it is. -/
def withExtension (path extension : String) : String :=
  match fileName? path with
  | none => path
  | some name =>
    let upToName := dropTail path.toList.reverse
    let before := (upToName.drop name.length).reverse
    String.ofList before ++ (cutName name).1 ++ "." ++ extension

end Uiml.Path
