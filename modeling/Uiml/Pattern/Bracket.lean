import Uiml.Pattern.Escape

/-!
# Classes in brackets

A class in brackets lists characters, ranges of them and other classes, also such in brackets of
their own. Between two lists there may be an operation; all operations bind alike, from the left.

## Main definitions

* `Pattern.Listing` — the items of a list
* `Pattern.readOpening`, `Pattern.readRange`, `Pattern.namedClass?` — parts of a class
* `Pattern.readBracket` — reads a class
-/

namespace Uiml.Pattern

/-- The items of a list, put together, and where they are. -/
structure Listing where
  items : Class := .none
  span : Span
  deriving Repr

/-- The list with one more item. -/
def Listing.add (l : Listing) (item : Class) (span : Span) : Listing :=
  match l.items with
  | .none => ⟨item, span⟩
  | items => ⟨.union items item, ⟨l.span.first, span.past⟩⟩

/-- What waits for the end of a list. -/
inductive Waiting where
  /-- A class in brackets, inside the list before it. -/
  | bracket (before : Listing) (isNegated : Bool) (span : Span)
  /-- An operation with what is to its left. -/
  | operation (o : Operation) (left : Listing)
  deriving Repr

/-- The list with the operation that waits for it, and what else waits. -/
def Listing.operate (right : Listing) : List Waiting → Listing × List Waiting
  | .operation o left :: rest =>
    (⟨.operation o left.items right.items left.span right.span,
      ⟨left.span.first, right.span.past⟩⟩, rest)
  | waiting => (right, waiting)

/-- The fault of a class that does not end: that of the innermost one. -/
def unclosed {α : Type} : List Waiting → Except Fault α
  | .bracket _ _ span :: _ => wrong .classUnclosed span
  | .operation _ _ :: rest => unclosed rest
  | [] => wrong .classUnclosed ⟨0, 0⟩

/-- Reads hyphens at the start of a list. -/
def readHyphens (start : Nat) : Nat → Listing → Cursor → Except Fault (Listing × Cursor)
  | 0, l, c => .ok (l, c)
  | most + 1, l, c =>
    if c.char? = some '-' then
      let l := l.add (.literal { char := '-', span := c.charSpan }) c.charSpan
      if c.step.isAtEnd then wrong .classUnclosed ⟨start, start⟩
      else readHyphens start most l c.step
    else .ok (l, c)

/-- Reads the start of a class up to the first item that is no hyphen. A closing bracket is an item
if it is the first one. -/
def readOpening (c : Cursor) : Except Fault ((Bool × Span × Listing) × Cursor) := do
  let start := c.place
  let c := c.step
  if c.isAtEnd then wrong .classUnclosed (c.since start)
  let isNegated := c.char? = some '^'
  let c := if isNegated then c.step else c
  if c.isAtEnd then wrong .classUnclosed (c.since start)
  let (l, c) ← readHyphens start c.rest.length { span := c.here } c
  match l.items, c.char? with
  | .none, some ']' =>
    let l := l.add (.literal { char := ']', span := c.charSpan }) c.charSpan
    let c := c.step
    if c.isAtEnd then wrong .classUnclosed (c.since start)
    return ((isNegated, c.since start, l), c)
  | _, _ => return ((isNegated, c.since start, l), c)

/-- The class of ASCII characters that comes next between brackets and colons, and the number of its
characters. -/
def namedClass? (cs : List Char) : Option (List (Nat × Nat) × Bool × Nat) :=
  match cs with
  | '[' :: ':' :: rest =>
    let isNegated := rest.head? = some '^'
    let rest := if isNegated then rest.tail else rest
    let name := rest.takeWhile (· ≠ ':')
    if [':', ']'].isPrefixOf (rest.drop name.length) then
      (namedClasses.lookup (String.ofList name)).map fun ranges =>
        (ranges, isNegated, name.length + if isNegated then 5 else 4)
    else none
  | _ => none

/-- Reads a single character of a class. -/
def readItem (c : Cursor) : Except Fault (Part × Cursor) :=
  match c.char? with
  | some '\\' => readEscape c
  | some char => .ok (.literal { char, span := c.charSpan }, c.next)
  | none => wrong .classUnclosed c.here

/-- The item that is a single part. -/
def Part.item : Part → Except Fault Class
  | .literal l => .ok (.literal l)
  | .letter l isNegated span => .ok (.letter l isNegated span)
  | .property span => .ok (.property span)
  | part => wrong .classEscape part.span

/-- The part that is the end of a range. -/
def Part.rangeEnd : Part → Except Fault Literal
  | .literal l => .ok l
  | part => wrong .classRangeEnd part.span

/-- Reads a single character of a class, or a range. A hyphen before the end of a list, or before
another hyphen, makes no range. -/
def readRange (waiting : List Waiting) (c : Cursor) :
    Except Fault ((Class × Span) × Cursor) := do
  let (first, c) ← readItem c
  let c := c.skip
  if c.isAtEnd then unclosed waiting
  let following := c.step.char?
  if c.char? ≠ some '-' || following = some ']' || following = some '-' then
    return ((← first.item, first.span), c)
  let c := c.step
  if c.isAtEnd then unclosed waiting
  let (last, c) ← readItem c
  let span : Span := ⟨first.span.first, last.span.past⟩
  let low ← first.rangeEnd
  let high ← last.rangeEnd
  if high.char < low.char then wrong .classRange span
  return ((.range low high, span), c)

/-- The operation that comes next. -/
def operation? : List Char → Option Operation
  | '&' :: '&' :: _ => some .intersection
  | '-' :: '-' :: _ => some .difference
  | '~' :: '~' :: _ => some .exclusion
  | _ => none

/-- Reads the items of a class in at most so many steps. -/
def readItems : Nat → List Waiting → Listing → Cursor → Except Fault (Class × Cursor)
  | 0, waiting, _, _ => unclosed waiting
  | most + 1, waiting, l, c => do
    let c := c.skip
    match c.char?, operation? c.rest with
    | none, _ => unclosed waiting
    | some '[', _ =>
      match namedClass? c.rest with
      | some (ranges, isNegated, length) =>
        let after := c.jump length
        let span := after.since c.place
        readItems most waiting (l.add (.named ranges isNegated span) span) after
      | none =>
        let ((isNegated, span, inner), after) ← readOpening c
        readItems most (.bracket l isNegated span :: waiting) inner after
    | some ']', _ =>
      let after := c.next
      match l.operate waiting with
      | (l, .bracket before isNegated opening :: rest) =>
        let span := after.since opening.first
        let whole : Class := .bracket l.items isNegated span
        if rest.isEmpty then return (whole, after)
        else readItems most rest (before.add whole span) after
      | _ => unclosed waiting
    | some _, some o =>
      let (left, rest) := l.operate waiting
      let after := c.jump 2
      readItems most (.operation o left :: rest) { span := after.here } after
    | some _, none =>
      let ((item, span), after) ← readRange waiting c
      readItems most waiting (l.add item span) after

/-- Reads a class in brackets. -/
def readBracket (c : Cursor) : Except Fault (Class × Cursor) := do
  let ((isNegated, span, l), after) ← readOpening c
  readItems (c.rest.length + 1) [.bracket { span := c.here } isNegated span] l after

end Uiml.Pattern
