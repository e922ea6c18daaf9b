import Uiml.Number.Integer
import Uiml.Pattern.Cursor

/-!
# Single characters of patterns

A character stands for itself, or for a class of characters, or asks something of its place. After a
backslash other characters have such meanings than without one.

## Main definitions

* `Pattern.Part` — what a single character, or one after a backslash, can be
* `Pattern.readEscape`, `Pattern.readPart` — read one
-/

namespace Uiml.Pattern

/-- What a single character, or one after a backslash, can be. -/
inductive Part where
  | literal (l : Literal)
  | letter (l : Letter) (isNegated : Bool) (span : Span)
  | property (span : Span)
  | dot (span : Span)
  | assertion (a : Assertion) (span : Span)
  deriving Repr

/-- Where a part is. -/
def Part.span : Part → Span
  | .literal l => l.span
  | .letter _ _ span | .property span | .dot span | .assertion _ span => span

/-- The pattern that is a single part. -/
def Part.tree : Part → Tree
  | .literal l => .literal l
  | .letter l isNegated span => .letter l isNegated span
  | .property span => .property span
  | .dot span => .dot span
  | .assertion a _ => .assertion a

/-- Whether a character has a meaning of its own in some place. -/
def isMeta (c : Char) : Bool := "\\.+*?()|[]\x7b\x7d^$#&-~".toList.contains c

/-- Whether a backslash before a character changes nothing. -/
def isEscapable (c : Char) : Bool :=
  isMeta c || (c.toNat < 0x80 && !c.isAlphanum && c ≠ '<' && c ≠ '>')

/-- The characters that letters after a backslash stand for. -/
def specials : List (Char × Char) :=
  [('a', '\x07'), ('f', '\x0c'), ('t', '\t'), ('n', '\n'), ('r', '\r'), ('v', '\x0b')]

/-- What letters after a backslash ask of a place. -/
def assertions : List (Char × Assertion) :=
  [('A', .textStart), ('z', .textEnd), ('B', .word .noWordEdge), ('<', .word .wordStart),
    ('>', .word .wordEnd)]

/-- The classes that letters after a backslash name; the capital letter names the other characters.
-/
def letters : List (Char × Letter) := [('d', .digit), ('s', .blank), ('w', .word)]

/-- The kinds of edges of words that have a name. -/
def edges : List (String × Place) :=
  [("start", .wordStart), ("end", .wordEnd), ("start-half", .wordStartHalf),
    ("end-half", .wordEndHalf)]

/-- The character of a code in hexadecimal digits. -/
def charOfDigits? (digits : List Char) : Option Char :=
  match digits.mapM (Integer.digit? 16) with
  | none => none
  | some values =>
    let n := values.foldl (fun n d => 16 * n + d) 0
    if h : n.isValidChar then some (Char.ofNatAux n h) else none

/-- Whether a character is a hexadecimal digit. -/
def isHexDigit (c : Char) : Bool := (Integer.digit? 16 c).isSome

/-- Reads so many hexadecimal digits. -/
def readDigits : Nat → Cursor → Except Fault (List Char × Cursor)
  | 0, c => .ok ([], c)
  | count + 1, c =>
    match c.char? with
    | none => wrong .escapeCut c.here
    | some ch => do
      if !isHexDigit ch then wrong .codeDigit c.charSpan
      let (digits, c) ← readDigits count c.step
      return (ch :: digits, c)

/-- Reads the code of a character after the letter that says how many digits it has; between braces
it has any number of them. -/
def readCode (start : Nat) (letter : Char) (c : Cursor) : Except Fault (Part × Cursor) := do
  if c.isAtEnd then wrong .escapeCut c.here
  if c.char? = some '\x7b' then
    let brace := c.place
    let (digits, fin) := Cursor.leading isHexDigit c.rest.length c.step
    match fin.char? with
    | none => wrong .escapeCut (fin.since brace)
    | some '\x7d' =>
      let after := fin.step
      if digits.isEmpty then wrong .codeMissing (after.since brace)
      match charOfDigits? digits with
      | none => wrong .codeOfNoCharacter (fin.since (brace + 1))
      | some char => return (.literal { char, span := after.since start }, after)
    | some _ => wrong .codeDigit fin.charSpan
  else
    let count := if letter = 'x' then 2 else if letter = 'u' then 4 else 8
    let (digits, fin) ← readDigits count c
    match charOfDigits? digits with
    | none => wrong .codeOfNoCharacter (fin.since c.place)
    | some char => return (.literal { char, isByte := letter = 'x', span := fin.since start }, fin)

/-- Reads a property of characters: a letter, or a name between braces. -/
def readProperty (start : Nat) (c : Cursor) : Except Fault (Part × Cursor) := do
  match c.char? with
  | none => wrong .escapeCut c.here
  | some '\x7b' =>
    let (_, fin) := Cursor.leading (· ≠ '\x7d') c.rest.length c.step
    if fin.isAtEnd then wrong .escapeCut fin.here
    let after := fin.next
    return (.property (after.since start), after)
  | some '\\' => wrong .property c.charSpan
  | some _ => return (.property (c.step.since start), c.step)

/-- Reads the kind of an edge of a word, between braces. What does not start like one is not read.
-/
def readEdge (start : Nat) (c : Cursor) : Except Fault (Part × Cursor) := do
  let isNameChar (ch : Char) : Bool := ch.isAlpha || ch = '-'
  let plain : Part := .assertion (.word .wordEdge) (c.since start)
  if c.char? ≠ some '\x7b' then return (plain, c)
  let first := c.step
  if first.isAtEnd then wrong .edgeCut (first.since start)
  let (name, fin) := Cursor.leading isNameChar c.rest.length first
  if name.isEmpty then return (plain, c)
  else if fin.char? ≠ some '\x7d' then wrong .edgeUnclosed (fin.since c.place)
  else
    match edges.lookup (String.ofList name) with
    | none => wrong .edgeUnknown (fin.since first.place)
    | some edge => return (.assertion (.word edge) (fin.next.since start), fin.next)

/-- Reads a backslash and what follows it. -/
def readEscape (c : Cursor) : Except Fault (Part × Cursor) := do
  let start := c.place
  let c := c.next
  match c.char? with
  | none => wrong .escapeCut (c.since start)
  | some ch =>
    let after := c.next
    let span := after.since start
    if ch.isDigit then wrong .backreference span
    else if ch = 'x' || ch = 'u' || ch = 'U' then readCode start ch c.step
    else if ch = 'p' || ch = 'P' then readProperty start c.step
    else if ch = 'b' then readEdge start after
    else
      match letters.lookup ch.toLower, specials.lookup ch, assertions.lookup ch with
      | some letter, _, _ => return (.letter letter ch.isUpper span, after)
      | _, some char, _ => return (.literal { char, span }, after)
      | _, _, some assertion => return (.assertion assertion span, after)
      | _, _, _ =>
        if isEscapable ch then return (.literal { char := ch, span }, after)
        else wrong .escapeUnknown span

/-- Reads a single character outside classes. -/
def readPart (char : Char) (c : Cursor) : Except Fault (Part × Cursor) :=
  match char with
  | '\\' => readEscape c
  | '.' => .ok (.dot c.charSpan, c.next)
  | '^' => .ok (.assertion .lineStart c.charSpan, c.next)
  | '$' => .ok (.assertion .lineEnd c.charSpan, c.next)
  | char => .ok (.literal { char, span := c.charSpan }, c.next)

end Uiml.Pattern
