/-!
# Patterns

A pattern describes runs of characters. Whether a text holds such a run is found out with sets of
places: from the places where a run may start follow those where it may end. The places of a text of
`n` characters are numbered from `0` to `n`, and a set of them is a list of `n + 1` truth values.

## Main definitions

* `Pattern` — patterns
* `Pattern.ends` — where runs end
* `Pattern.occursIn` — whether a text holds a run
-/

namespace Uiml

/-- What a pattern can ask of a place. -/
inductive Pattern.Place where
  | textStart
  | textEnd
  | lineStart
  | lineEnd
  /-- Starts and ends of lines where carriage returns end lines, too. -/
  | returnStart
  | returnEnd
  /-- Between a character of an ASCII word and one that is none. -/
  | wordEdge
  | noWordEdge
  | wordStart
  | wordEnd
  | wordStartHalf
  | wordEndHalf
  deriving DecidableEq, Repr

/-- A pattern of runs of characters. -/
inductive Pattern where
  | empty
  /-- One character, whose code is in one of the ranges. -/
  | oneOf (ranges : List (Nat × Nat))
  /-- Nothing, at some places only. -/
  | place (p : Pattern.Place)
  | both (first second : Pattern)
  | either (first second : Pattern)
  | times (least : Nat) (most : Option Nat) (p : Pattern)
  deriving DecidableEq, Repr

namespace Pattern

/-- The patterns one after the other. -/
def sequence (ps : List Pattern) : Pattern := ps.foldr both empty

/-- Any of the patterns, of which there is at least one. -/
def alternatives : List Pattern → Pattern
  | [] => oneOf []
  | [p] => p
  | p :: ps => either p (alternatives ps)

/-! ### Places -/

/-- Whether there is a character of an ASCII word. -/
def isWord (c : Option Char) : Bool := c.any fun c => c.isAlphanum || c = '_'

/-- Whether a place between two characters, or at an end of the text, is as asked for. -/
def Place.holds (p : Place) (before after : Option Char) : Bool :=
  match p with
  | .textStart => before.isNone
  | .textEnd => after.isNone
  | .lineStart => before.all (· = '\n')
  | .lineEnd => after.all (· = '\n')
  | .returnStart => before.all fun c => c = '\n' || (c = '\r' && after ≠ some '\n')
  | .returnEnd => after.all fun c => c = '\r' || (c = '\n' && before ≠ some '\r')
  | .wordEdge => isWord before ≠ isWord after
  | .noWordEdge => isWord before = isWord after
  | .wordStart => !isWord before && isWord after
  | .wordEnd => isWord before && !isWord after
  | .wordStartHalf => !isWord before
  | .wordEndHalf => !isWord after

/-- A set of places. -/
abbrev Places := List Bool

/-- The places that are in one of two sets. -/
def union (s t : Places) : Places := s.zipWith (· || ·) t

/-- The places of a text that are as asked for. -/
def placesOf (text : List Char) (p : Place) : Places :=
  (none :: text.map some).zipWith p.holds (text.map some ++ [none])

/-- Whether a code is in one of the ranges. -/
def isIn (ranges : List (Nat × Nat)) (c : Char) : Bool :=
  ranges.any fun range => range.1 ≤ c.toNat && c.toNat ≤ range.2

/-- The set after so many steps, or after fewer if a step changes nothing. -/
def iterate (step : Places → Places) : Nat → Places → Places
  | 0, s => s
  | count + 1, s =>
    let next := step s
    if next = s then s else iterate step count next

/-- Where the runs end that start at one of the places. -/
def ends (text : List Char) : Pattern → Places → Places
  | empty, s => s
  | oneOf ranges, s => false :: s.zipWith (fun isHere c => isHere && isIn ranges c) text
  | place p, s => s.zipWith (· && ·) (placesOf text p)
  | both first second, s => second.ends text (first.ends text s)
  | either first second, s => union (first.ends text s) (second.ends text s)
  | times least most p, s =>
    let atLeast := iterate (p.ends text) least s
    let more := (most.map (· - least)).getD (text.length + 1)
    iterate (fun t => union t (p.ends text t)) more atLeast

/-- Whether a text holds a run. -/
def occursIn (p : Pattern) (text : String) : Bool :=
  (p.ends text.toList (List.replicate (text.toList.length + 1) true)).any id

end Pattern

end Uiml
