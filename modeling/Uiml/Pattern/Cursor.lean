import Uiml.Pattern.Tree
import Uiml.Text.Character

/-!
# Places in the text of a pattern

The reading of a pattern goes from character to character. If the flag is set for it, blanks and
comments between the parts of the pattern are passed over.

## Main definitions

* `Pattern.Cursor` — what is left of a text, and where that is
* `Pattern.Cursor.next`, `Pattern.Cursor.step` — past one character, and past blanks after it
-/

namespace Uiml.Pattern

/-- Where the reading of a pattern is. -/
structure Cursor where
  rest : List Char
  /-- The number of characters read. -/
  place : Nat := 0
  /-- Whether blanks and comments are passed over. -/
  isVerbose : Bool := false
  /-- The names of groups, and where they are. -/
  names : List (String × Span) := []
  deriving Inhabited

namespace Cursor

/-- The next character. -/
def char? (c : Cursor) : Option Char := c.rest.head?

/-- Whether no character is left. -/
def isAtEnd (c : Cursor) : Bool := c.rest.isEmpty

/-- Past so many characters. -/
def jump (c : Cursor) (count : Nat) : Cursor :=
  { c with rest := c.rest.drop count, place := c.place + min count c.rest.length }

/-- Past one character. -/
def next (c : Cursor) : Cursor := c.jump 1

/-- The number of blanks and of characters of comments that come next. -/
def blankLength (inComment : Bool) : List Char → Nat
  | [] => 0
  | ch :: rest =>
    if inComment then 1 + blankLength (ch ≠ '\n') rest
    else if Text.isBlank ch then 1 + blankLength false rest
    else if ch = '#' then 1 + blankLength true rest
    else 0

/-- Past blanks and comments, if they are passed over. -/
def skip (c : Cursor) : Cursor := if c.isVerbose then c.jump (blankLength false c.rest) else c

/-- Past one character, and past blanks and comments. -/
def step (c : Cursor) : Cursor := c.next.skip

/-- Past the given characters, if they come next. -/
def past? (c : Cursor) (lead : String) : Option Cursor :=
  if lead.toList.isPrefixOf c.rest then some (c.jump lead.length) else none

/-- No character, here. -/
def here (c : Cursor) : Span := ⟨c.place, c.place⟩

/-- The next character. -/
def charSpan (c : Cursor) : Span := ⟨c.place, c.place + 1⟩

/-- The characters since a place. -/
def since (c : Cursor) (first : Nat) : Span := ⟨first, c.place⟩

/-- Past the characters of a class, of which blanks may come after each, and these characters. -/
def leading (p : Char → Bool) : Nat → Cursor → List Char × Cursor
  | 0, c => ([], c)
  | most + 1, c =>
    match c.char? with
    | some ch =>
      if p ch then
        let (chars, fin) := leading p most c.step
        (ch :: chars, fin)
      else ([], c)
    | none => ([], c)

end Cursor

/-- The fault of characters. -/
def wrong {α : Type} (cause : Cause) (span : Span) : Except Fault α :=
  .error (.wrong cause span none)

end Uiml.Pattern
