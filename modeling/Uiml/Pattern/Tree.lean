import Uiml.Pattern.Basic
import Uiml.Pattern.Fault

/-!
# Patterns as written

What is read off the text of a pattern, before it is decided what it means: that depends on the
flags that hold where it stands.

## Main definitions

* `Pattern.Flag`, `Pattern.Change` — flags, and what sets or clears them
* `Pattern.Class` — a class of characters in brackets
* `Pattern.Tree` — a pattern
-/

namespace Uiml.Pattern

/-- What changes the meaning of what follows. -/
inductive Flag where
  | caseless
  | multiLine
  | dotAll
  | lazy
  | unicode
  | returns
  | verbose
  deriving DecidableEq, Repr

/-- The flag of a letter. -/
def Flag.ofChar? : Char → Option Flag
  | 'i' => some .caseless
  | 'm' => some .multiLine
  | 's' => some .dotAll
  | 'U' => some .lazy
  | 'u' => some .unicode
  | 'R' => some .returns
  | 'x' => some .verbose
  | _ => none

/-- Flags that are set, or cleared. -/
abbrev Change := List (Flag × Bool)

/-- What a change says about a flag. -/
def Change.state? (change : Change) (flag : Flag) : Option Bool := change.lookup flag

/-- The classes that a letter after a backslash names. -/
inductive Letter where
  | digit
  | blank
  | word
  deriving DecidableEq, Repr

/-- The codes of the ASCII characters in a class. -/
def Letter.ranges : Letter → List (Nat × Nat)
  | .digit => [(0x30, 0x39)]
  | .blank => [(0x09, 0x0D), (0x20, 0x20)]
  | .word => [(0x30, 0x39), (0x41, 0x5A), (0x5F, 0x5F), (0x61, 0x7A)]

/-- The classes of ASCII characters that have a name, and the codes in them. -/
def namedClasses : List (String × List (Nat × Nat)) :=
  [("alnum", [(0x30, 0x39), (0x41, 0x5A), (0x61, 0x7A)]), ("alpha", [(0x41, 0x5A), (0x61, 0x7A)]),
    ("ascii", [(0x00, 0x7F)]), ("blank", [(0x09, 0x09), (0x20, 0x20)]),
    ("cntrl", [(0x00, 0x1F), (0x7F, 0x7F)]), ("digit", [(0x30, 0x39)]), ("graph", [(0x21, 0x7E)]),
    ("lower", [(0x61, 0x7A)]), ("print", [(0x20, 0x7E)]),
    ("punct", [(0x21, 0x2F), (0x3A, 0x40), (0x5B, 0x60), (0x7B, 0x7E)]),
    ("space", [(0x09, 0x0D), (0x20, 0x20)]), ("upper", [(0x41, 0x5A)]),
    ("word", [(0x30, 0x39), (0x41, 0x5A), (0x5F, 0x5F), (0x61, 0x7A)]),
    ("xdigit", [(0x30, 0x39), (0x41, 0x46), (0x61, 0x66)])]

/-- A character that stands for itself. -/
structure Literal where
  char : Char
  /-- Whether it is written as the code of a byte. -/
  isByte : Bool := false
  span : Span
  deriving DecidableEq, Repr

/-- How two classes are put together. -/
inductive Operation where
  | intersection
  | difference
  | exclusion
  deriving DecidableEq, Repr

/-- A class of characters in brackets. -/
inductive Class where
  | none
  | literal (l : Literal)
  | range (first last : Literal)
  | named (ranges : List (Nat × Nat)) (isNegated : Bool) (span : Span)
  | letter (l : Letter) (isNegated : Bool) (span : Span)
  | property (span : Span)
  | union (first second : Class)
  | operation (o : Operation) (first second : Class) (firstSpan secondSpan : Span)
  | bracket (body : Class) (isNegated : Bool) (span : Span)
  deriving DecidableEq, Repr

/-- What a pattern asks of a place, as written. -/
inductive Assertion where
  | lineStart
  | lineEnd
  | textStart
  | textEnd
  /-- An edge of a word, of which there are several kinds. -/
  | word (edge : Place)
  deriving Repr

/-- A pattern as written. -/
inductive Tree where
  | literal (l : Literal)
  | dot (span : Span)
  | assertion (a : Assertion)
  | letter (l : Letter) (isNegated : Bool) (span : Span)
  | property (span : Span)
  | bracket (c : Class)
  | flags (change : Change)
  | times (least : Nat) (most : Option Nat) (t : Tree)
  | group (change : Change) (t : Tree)
  | sequence (ts : List Tree)
  | alternatives (ts : List Tree)
  deriving Repr, Inhabited

end Uiml.Pattern
