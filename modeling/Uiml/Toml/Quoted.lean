import Uiml.Number.Integer
import Uiml.Toml.Reader

/-!
# TOML strings

A string stands between two quotes or two apostrophes, on one line, or between three and three, on
any number of lines. Between quotes a backslash starts an escape; between apostrophes every
character is itself.

## Main definitions

* `Toml.escape` — the character of an escape
* `Toml.simpleString`, `Toml.anyString` — strings on one line, and on any number of lines
-/

namespace Uiml.Toml

/-- A character that a comment or a string may hold: a tab, or any that is no control of ASCII. -/
def isTextChar (c : Char) : Bool := c = '\t' || (0x20 ≤ c.toNat && c.toNat ≠ 0x7F)

/-- A blank within a line. -/
def isLineBlank (c : Char) : Bool := c = ' ' || c = '\t'

/-- Takes the end of a line. -/
def newline : Reader Unit := Reader.chars ['\n'] <|> Reader.chars ['\r', '\n']

/-- Takes a number of hexadecimal digits and gives the character of that code. -/
def hexChar (width : Nat) : Reader Char := fun cs =>
  let digits := cs.take width
  match digits.mapM (Integer.digit? 16) with
  | none => none
  | some values =>
    let n := values.foldl (fun n d => 16 * n + d) 0
    if h : digits.length = width ∧ n.isValidChar then
      some (Char.ofNatAux n h.2, cs.drop width)
    else none

/-- The characters that stand for another one after a backslash. -/
def escapes : List (Char × Char) :=
  [('b', '\x08'), ('t', '\t'), ('n', '\n'), ('f', '\x0c'), ('r', '\r'), ('"', '"'), ('\\', '\\')]

/-- Takes an escape. -/
def escape : Reader Char := do
  Reader.char '\\'
  let c ← Reader.satisfying fun _ => true
  if c = 'u' then hexChar 4
  else if c = 'U' then hexChar 8
  else liftM (escapes.lookup c)

/-- Takes a character of a string that ends at the given quote. -/
def plainChar (quote : Char) : Reader Char :=
  Reader.satisfying fun c => isTextChar c && c ≠ quote && (quote = '\'' || c ≠ '\\')

/-- Takes a string on one line between quotes of a kind. -/
def lineString (quote : Char) (item : Reader Char) : Reader String := do
  Reader.char quote
  let cs ← Reader.many item
  Reader.char quote
  return String.ofList cs

/-- Takes a character of a string between quotes. -/
def basicChar : Reader Char := plainChar '"' <|> escape

/-- Takes a string on one line. -/
def simpleString : Reader String :=
  lineString '"' basicChar <|> lineString '\'' (plainChar '\'')

/-- Takes a backslash at the end of a line, and all blanks and ends of lines up to the next
character. -/
def joinLines : Reader Unit := do
  Reader.char '\\'
  let _ ← Reader.leading isLineBlank
  newline
  let _ ← Reader.many (newline <|> (fun _ => ()) <$> Reader.satisfying isLineBlank)

/-- Takes one or two quotes that do not end a string. -/
def innerQuotes (quote : Char) : Reader (List Char) := fun cs =>
  let run := cs.takeWhile (· = quote)
  if run.length = 1 ∨ run.length = 2 then some (run, cs.dropWhile (· = quote)) else none

/-- Takes the end of a string on any number of lines, before which two quotes may stand. -/
def closeLines (quote : Char) : Reader (List Char) := fun cs =>
  let run := cs.takeWhile (· = quote)
  if 3 ≤ run.length ∧ run.length ≤ 5 then some (run.drop 3, cs.dropWhile (· = quote)) else none

/-- Takes a piece of a string on any number of lines. -/
def linesPiece (quote : Char) (item : Reader Char) : Reader (List Char) :=
  (fun c => [c]) <$> item <|> (fun _ => ['\n']) <$> newline <|> innerQuotes quote

/-- Takes a string on any number of lines. An end of line right after its start is not part of
it. -/
def linesString (quote : Char) (piece : Reader (List Char)) : Reader String := do
  Reader.chars [quote, quote, quote]
  let _ ← Reader.optional newline
  let pieces ← Reader.many piece
  let last ← closeLines quote
  return String.ofList (pieces.flatten ++ last)

/-- Takes a string. -/
def anyString : Reader String :=
  linesString '"' ((fun _ => []) <$> joinLines <|> linesPiece '"' basicChar) <|>
    linesString '\'' (linesPiece '\'' (plainChar '\'')) <|> simpleString

end Uiml.Toml
