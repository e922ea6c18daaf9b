import Uiml.Pattern.Bracket

/-!
# Reading patterns

A pattern is read from its start to its end, with a list of the groups that are open. Signs of
repetition belong to what is before them.

## Main definitions

* `Pattern.readGroup`, `Pattern.readFlags`, `Pattern.readCount` — parts of a pattern
* `Pattern.readTree` — reads a pattern
-/

namespace Uiml.Pattern

/-! ### Groups -/

/-- Reads the letters of flags up to the sign after them. -/
def readFlags : Nat → List (Flag × Bool × Span) → Option Span → Option Span → Cursor →
    Except Fault (Change × Cursor)
  | 0, _, _, _, c => wrong .flagCut c.here
  | most + 1, known, negation, dangling, c => do
    let after := c.next
    match c.char? with
    | none => wrong .flagCut c.here
    | some ':' | some ')' =>
      match dangling with
      | some span => wrong .flagNegatesNothing span
      | none => return (known.map fun (flag, isSet, _) => (flag, isSet), c)
    | some '-' =>
      if negation.isSome then throw (.wrong .flagsNegatedTwice c.charSpan negation)
      if after.isAtEnd then wrong .flagCut after.here
      readFlags most known (some c.charSpan) (some c.charSpan) after
    | some letter =>
      match Flag.ofChar? letter with
      | none => wrong .flagUnknown c.charSpan
      | some flag =>
        match known.lookup flag with
        | some (_, span) => throw (.wrong .flagRepeated c.charSpan (some span))
        | none =>
          if after.isAtEnd then wrong .flagCut after.here
          readFlags most (known ++ [(flag, negation.isNone, c.charSpan)]) negation none after

/-- Whether a name of a group may hold a character, and start with it. -/
def isNameChar (isFirst : Bool) (c : Char) : Bool :=
  c = '_' || if isFirst then Text.isAlphabetic c
    else c = '.' || c = '[' || c = ']' || Text.isAlphanumeric c

/-- The number of characters of a name, up to the first that none may hold. -/
def nameLength : Bool → List Char → Nat
  | _, [] => 0
  | isFirst, c :: rest => if isNameChar isFirst c then nameLength false rest + 1 else 0

/-- Reads the name of a group and the sign after it. -/
def readName (c : Cursor) : Except Fault Cursor := do
  let fin := c.jump (nameLength true c.rest)
  match fin.char? with
  | none => wrong .nameUnclosed fin.here
  | some '>' =>
    let name := String.ofList (c.rest.take (fin.place - c.place))
    let span := fin.since c.place
    if name = "" then wrong .nameMissing c.here
    match fin.names.lookup name with
    | some earlier => throw (.wrong .nameRepeated span (some earlier))
    | none => return { fin.next with names := (name, span) :: fin.names }
  | some _ => wrong .nameCharacter fin.charSpan

/-- What an opening parenthesis starts. -/
inductive Opening where
  | flags (change : Change)
  | group (change : Change)

/-- The signs of what is not known here: a look at what is before or after a place. -/
def lookAroundSigns : List String := ["?=", "?!", "?<=", "?<!"]

/-- Reads an opening parenthesis and the signs after it. -/
def readGroup (c : Cursor) : Except Fault (Opening × Cursor) := do
  let opening := c.charSpan
  let c := c.step
  match lookAroundSigns.findSome? c.past? with
  | some after => wrong .lookAround (after.since opening.first)
  | none =>
    match (c.past? "?P<").or (c.past? "?<"), c.past? "?" with
    | some after, _ => return (.group [], ← readName after)
    | none, some after =>
      if after.isAtEnd then wrong .groupUnclosed opening
      let (change, fin) ← readFlags (after.rest.length + 1) [] none none after
      if fin.char? = some ')' then
        if after.place = fin.place then wrong .nothingRepeated c.here
        return (.flags change, fin.next)
      else return (.group change, fin.next)
    | none, none => return (.group [], c)

/-! ### Repetition -/

/-- The largest number of repetitions. -/
def maxCount : Nat := Integer.largest 32

/-- Reads a number. -/
def readNumber (c : Cursor) : Except Fault (Nat × Cursor) := do
  let c := c.jump (c.rest.takeWhile Text.isBlank).length
  let (digits, fin) := Cursor.leading Char.isDigit c.rest.length c
  let after := (Cursor.leading Text.isBlank fin.rest.length fin).2
  let n := digits.foldl (fun n d => 10 * n + (d.toNat - '0'.toNat)) 0
  if digits.isEmpty then wrong .countMissing (fin.since c.place)
  if maxCount < n then wrong .numberTooLarge (fin.since c.place)
  return (n, after)

/-- The place after a number, also after one that is at fault. -/
def pastNumber (c : Cursor) : Cursor :=
  let c := c.jump (c.rest.takeWhile Text.isBlank).length
  let fin := (Cursor.leading Char.isDigit c.rest.length c).2
  (Cursor.leading Text.isBlank fin.rest.length fin).2

/-- Past a question mark, which makes a repetition prefer fewer runs and changes nothing here. -/
def pastLazy (c : Cursor) : Cursor := if c.char? = some '?' then c.next else c

/-- Reads the numbers of repetitions between braces. -/
def readCount (c : Cursor) : Except Fault ((Nat × Option Nat) × Cursor) := do
  let start := c.place
  let c := c.step
  let unclosedAt {α : Type} (c : Cursor) : Except Fault α := wrong .countUnclosed (c.since start)
  if c.isAtEnd then unclosedAt c
  let least := (readNumber c).map Prod.fst
  let past := pastNumber c
  if past.isAtEnd then unclosedAt past
  let (range, fin) ←
    if past.char? = some ',' then do
      let past := past.step
      if past.isAtEnd then unclosedAt past
      else if past.char? = some '\x7d' then
        let least ← least
        pure ((least, none), past)
      else do
        let least ← least
        let (most, fin) ← readNumber past
        pure ((least, some most), fin)
    else do
      let least ← least
      pure ((least, some least), past)
  if fin.char? ≠ some '\x7d' then unclosedAt fin
  let after := pastLazy fin.step
  if range.2.any (· < range.1) then wrong .countRange (after.since start)
  return (range, after)

/-- The repetitions that a single sign asks for. -/
def repetition? : Char → Option (Nat × Option Nat)
  | '?' => some (0, some 1)
  | '*' => some (0, none)
  | '+' => some (1, none)
  | _ => none

/-! ### Patterns -/

/-- A group that is open: what is before it, and how blanks were read there. -/
structure Opened where
  change : Change
  span : Span
  branches : List Tree
  items : List Tree
  isVerbose : Bool

/-- A pattern that is read up to some place: the groups that are open, and of the innermost one the
branches that have ended and the items of the last one, the last of each first. -/
structure Growing where
  opened : List Opened := []
  branches : List Tree := []
  items : List Tree := []

namespace Growing

/-- With one more item. -/
def add (g : Growing) (item : Tree) : Growing := { g with items := item :: g.items }

/-- What is inside the innermost group. -/
def body (g : Growing) : Tree :=
  let last := Tree.sequence g.items.reverse
  if g.branches.isEmpty then last else .alternatives (g.branches.reverse ++ [last])

/-- Repeats the last item, if that is no change of flags. -/
def repeatLast (g : Growing) (range : Nat × Option Nat) : Growing :=
  match g.items with
  | [] => g
  | last :: items => { g with items := .times range.1 range.2 last :: items }

/-- Whether there is something to repeat. -/
def hasLast (g : Growing) : Bool :=
  match g.items with
  | [] | .flags _ :: _ => false
  | _ => true

/-- Opens what a parenthesis starts. -/
def openGroup (g : Growing) (c : Cursor) : Except Fault (Growing × Cursor) := do
  let (opening, after) ← readGroup c
  match opening with
  | .flags change =>
    let isVerbose := (change.state? .verbose).getD after.isVerbose
    return (g.add (.flags change), { after with isVerbose })
  | .group change =>
    let isVerbose := (change.state? .verbose).getD after.isVerbose
    let opened : Opened := ⟨change, c.charSpan, g.branches, g.items, after.isVerbose⟩
    return ({ opened := opened :: g.opened }, { after with isVerbose })

/-- Closes the innermost group. -/
def closeGroup (g : Growing) (c : Cursor) : Except Fault (Growing × Cursor) :=
  match g.opened with
  | [] => wrong .groupUnopened c.charSpan
  | group :: opened =>
    .ok (⟨opened, group.branches, .group group.change g.body :: group.items⟩,
      { c.next with isVerbose := group.isVerbose })

end Growing

/-- Reads a pattern in at most so many steps. -/
def readOn : Nat → Growing → Cursor → Except Fault Tree
  | 0, g, _ => .ok g.body
  | most + 1, g, c => do
    let c := c.skip
    match c.char? with
    | none =>
      match g.opened with
      | [] => return g.body
      | group :: _ => wrong .groupUnclosed group.span
    | some '(' =>
      let (g, c) ← g.openGroup c
      readOn most g c
    | some ')' =>
      let (g, c) ← g.closeGroup c
      readOn most g c
    | some '|' =>
      readOn most { g with branches := .sequence g.items.reverse :: g.branches, items := [] } c.next
    | some '[' =>
      let (bracket, c) ← readBracket c
      readOn most (g.add (.bracket bracket)) c
    | some '\x7b' =>
      if !g.hasLast then wrong .nothingRepeated c.here
      let (range, c) ← readCount c
      readOn most (g.repeatLast range) c
    | some char =>
      match repetition? char with
      | some range =>
        if !g.hasLast then wrong .nothingRepeated c.here
        readOn most (g.repeatLast range) (pastLazy c.next)
      | none =>
        let (part, c) ← readPart char c
        readOn most (g.add part.tree) c

/-- Reads a pattern. -/
def readTree (s : String) : Except Fault Tree :=
  readOn (s.toList.length + 1) {} { rest := s.toList }

end Uiml.Pattern
