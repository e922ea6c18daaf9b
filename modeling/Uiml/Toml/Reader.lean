/-!
# Readers

A reader takes a value off the front of the characters that are left, or fails. A failed reader
leaves no trace: the next alternative starts where it started.

## Main definitions

* `Reader` — what takes a value off the front of a text
* `Reader.many`, `Reader.separated` — lists of values
-/

namespace Uiml

/-- Takes a value off the front of the characters that are left. -/
abbrev Reader (α : Type) := StateT (List Char) Option α

namespace Reader

variable {α : Type}

/-- Takes the given character. -/
def char (c : Char) : Reader Unit
  | [] => none
  | d :: rest => if d = c then some ((), rest) else none

/-- Takes the given characters. -/
def chars (lead : List Char) : Reader Unit := fun cs =>
  if lead.isPrefixOf cs then some ((), cs.drop lead.length) else none

/-- Takes one character of a class. -/
def satisfying (p : Char → Bool) : Reader Char
  | [] => none
  | c :: rest => if p c then some (c, rest) else none

/-- Takes the leading characters of a class. -/
def leading (p : Char → Bool) : Reader (List Char) := fun cs =>
  some (cs.takeWhile p, cs.dropWhile p)

/-- Takes nothing, if nothing is left. -/
def atEnd : Reader Unit := fun cs => if cs.isEmpty then some ((), cs) else none

/-- Takes a value if there is one. -/
def optional (reader : Reader α) : Reader (Option α) := fun cs =>
  match reader cs with
  | some (a, rest) => some (some a, rest)
  | none => some (none, cs)

/-- Takes values, each of at least one character, as long as there are any. -/
def many (reader : Reader α) (cs : List Char) : Option (List α × List Char) :=
  match reader cs with
  | none => some ([], cs)
  | some (a, rest) =>
    if rest.length < cs.length then
      (many reader rest).map fun (as, fin) => (a :: as, fin)
    else some ([], cs)
termination_by cs.length

/-- Takes at least one value, with a separator between each and the next. -/
def separated (separator : Char) (reader : Reader α) : Reader (List α) := do
  let first ← reader
  let others ← many do
    char separator
    reader
  return first :: others

/-- The value of a whole text. -/
def readAll (reader : Reader α) (s : String) : Option α :=
  match reader s.toList with
  | some (a, []) => some a
  | _ => none

end Reader

end Uiml
