import Uiml.Toml.Quoted
import Uiml.Toml.Value

/-!
# TOML documents

A document is a list of statements, one a line: a key gets a value, or a header opens the table, or
the next table of a list, that the keys after it belong to. Keys are cut at their dots. Which
statements may stand together is not decided here.

## Main definitions

* `Toml.value` — takes a value
* `Toml.Statement`, `Toml.Document` — what a document is made of
* `Toml.read?` — reads a document
-/

namespace Uiml.Toml

/-! ### Blanks and comments -/

/-- Takes the blanks that come next on a line. -/
def blanks : Reader Unit := (fun _ => ()) <$> Reader.leading isLineBlank

/-- Takes a comment, up to the end of its line. -/
def comment : Reader Unit := do
  Reader.char '#'
  let _ ← Reader.leading isTextChar

/-- Takes what may stand between the items of an array: blanks, ends of lines, and comments. -/
def gap : Reader Unit := do
  let _ ← Reader.many <|
    newline <|> ((fun _ => ()) <$> Reader.satisfying isLineBlank) <|> do
      comment
      newline

/-- Takes the end of a line, before which a comment may stand. -/
def lineEnd : Reader Unit := do
  blanks
  let _ ← Reader.optional comment
  newline <|> Reader.atEnd

/-! ### Keys -/

/-- A character of a key without quotes. -/
def isBareChar (c : Char) : Bool := c.isAlphanum || c = '_' || c = '-'

/-- Takes a key without quotes. -/
def bareKey : Reader String := do
  let cs ← Reader.leading isBareChar
  if cs.isEmpty then failure else return String.ofList cs

/-- Takes one part of a key. -/
def keyPart : Reader String := do
  blanks
  let part ← bareKey <|> simpleString
  blanks
  return part

/-- The most parts of a key. -/
def maxKeyParts : Nat := 79

/-- Takes a key, cut at its dots. -/
def key : Reader (List String) := do
  let parts ← Reader.separated '.' keyPart
  if maxKeyParts < parts.length then failure else return parts

/-! ### Values -/

/-- Whether a character ends a word. -/
def endsWord (c : Char) : Bool :=
  isLineBlank c || c = '\n' || c = '\r' || c = ',' || c = ']' || c = '}' || c = '#'

/-- Takes a word. -/
def word : Reader (List Char) := Reader.leading fun c => !endsWord c

/-- Takes the time of day that may follow a date after a space. -/
def timeAfterDate : Reader (List Char) := do
  Reader.char ' '
  let time ← word
  liftM (placedTime? time)

/-- Takes a value that is written as a word, or as a date and a time. -/
def wordValue : Reader Value := do
  let cs ← word
  match date? cs with
  | none => liftM (Value.ofWord? cs)
  | some date =>
    let time ← Reader.optional timeAfterDate
    return .moment (String.ofList ((time.map (joinMoment date)).getD date))

/-- Takes an array. A comma may follow its last item. -/
def array (item : Reader Value) : Reader Value := do
  Reader.char '['
  let items ← Reader.optional <| Reader.separated ',' do
    gap
    let v ← item
    gap
    return v
  if items.isSome then
    let _ ← Reader.optional (Reader.char ',')
  gap
  Reader.char ']'
  return .array (items.getD [])

/-- Whether no path is the start of another one, or the same. -/
def independent : List (List String) → Bool
  | [] => true
  | path :: paths =>
    paths.all (fun other => !path.isPrefixOf other && !other.isPrefixOf path) && independent paths

/-- Takes a table on one line, of which no key may redefine another. -/
def inlineTable (item : Reader Value) : Reader Value := do
  Reader.char '\x7b'
  let entries ← Reader.optional <| Reader.separated ',' do
    let path ← key
    Reader.char '='
    blanks
    let v ← item
    blanks
    return (path, v)
  blanks
  Reader.char '\x7d'
  let entries := entries.getD []
  if independent (entries.map Prod.fst) then return .table entries else failure

/-- Takes a value in which arrays and tables are nested at most `depth` deep. -/
def valueUpTo : Nat → Reader Value
  | 0 => .string <$> anyString <|> wordValue
  | depth + 1 =>
    .string <$> anyString <|> array (valueUpTo depth) <|> inlineTable (valueUpTo depth) <|>
      wordValue

/-- How deep arrays and tables may be nested. -/
def maxDepth : Nat := 79

/-- Takes a value. -/
def value : Reader Value := valueUpTo maxDepth

/-! ### Documents -/

/-- What a line of a document says. -/
inductive Statement where
  /-- A key gets a value. -/
  | entry (path : List String) (value : Value)
  /-- What follows belongs to a table. -/
  | table (path : List String)
  /-- What follows belongs to a new table at the end of a list. -/
  | element (path : List String)
  deriving Inhabited

/-- The key and the value of an entry. -/
def Statement.entry? : Statement → Option (List String × Value)
  | .entry path v => some (path, v)
  | _ => none

/-- What the lines of a document say, in their order. -/
abbrev Document := List Statement

/-- Takes a key and its value. -/
def entry : Reader Statement := do
  let path ← key
  Reader.char '='
  blanks
  return .entry path (← value)

/-- Takes a header. -/
def header : Reader Statement := do
  Reader.char '['
  match ← Reader.optional (Reader.char '[') with
  | none =>
    let path ← key
    Reader.char ']'
    return .table path
  | some _ =>
    let path ← key
    Reader.chars [']', ']']
    return .element path

/-- Takes a line; many of them say nothing. -/
def line : Reader (Option Statement) := do
  blanks
  let statement ← Reader.optional (header <|> entry)
  lineEnd
  return statement

/-- The character that may mark the start of a text. -/
def byteOrderMark : Char := '\uFEFF'

/-- Takes a document. -/
def document : Reader Document := do
  let _ ← Reader.optional (Reader.char byteOrderMark)
  let lines ← Reader.many line
  return lines.filterMap id

/-- Reads a document. -/
def read? (s : String) : Option Document := Reader.readAll document s

end Uiml.Toml
