import Uiml.Pattern.Basic

/-!
# The room that patterns take

A pattern is put to use with its repetitions written out, so that a short text can ask for very much
room. What a pattern takes is counted in bytes.

## Main definitions

* `Pattern.room` — the bytes that a pattern takes
* `Pattern.isTooLarge` — whether these are too many
-/

namespace Uiml.Pattern

/-- Whether runs have no characters. Repeating them is repeating them once. -/
def isBare : Pattern → Bool
  | empty | place _ => true
  | oneOf _ => false
  | both first second | either first second => first.isBare && second.isBare
  | times _ most p => most = some 0 || p.isBare

/-- The bytes of a step. -/
def stepRoom : Nat := 32

/-- The bytes of a choice between two ways to go on. -/
def choiceRoom : Nat := stepRoom + 8

/-- The bytes of a range of a class. -/
def rangeRoom : Nat := 8

/-- The bytes of a class. A single character takes a step for each byte it is written with, and a
class beyond ASCII steps for all first bytes that there are. -/
def classRoom (ranges : List (Nat × Nat)) : Nat :=
  match ranges with
  | [(first, last)] =>
    if first = last then stepRoom * (Char.ofNat first).utf8Size
    else if last < 0x80 then 2 * stepRoom
    else 9 * stepRoom + 9 * rangeRoom
  | _ =>
    if ranges.all fun range => range.2 < 0x80 then 2 * stepRoom + ranges.length * rangeRoom
    else 9 * stepRoom + (8 + ranges.length) * rangeRoom

/-- The bytes that a pattern takes. -/
def room : Pattern → Nat
  | empty => 0
  | place _ => stepRoom
  | oneOf ranges => classRoom ranges
  | both first second => first.room + second.room
  | either first second => first.room + second.room + choiceRoom + stepRoom
  | times least most p =>
    if most = some 0 then 0
    else
      let copies := if p.isBare then 1 else max 1 (max least (most.getD least))
      let choices := (most.map (min copies · - min copies least)).getD 1
      copies * p.room + choices * choiceRoom

/-- The bytes that are taken besides those of the pattern. -/
def frameRoom : Nat := 5 * stepRoom + 8

/-- The most bytes that may be taken. -/
def maxRoom : Nat := 10 * 1024 * 1024

/-- Whether a pattern takes too many bytes. -/
def isTooLarge (p : Pattern) : Bool := maxRoom < p.room + frameRoom

end Uiml.Pattern
