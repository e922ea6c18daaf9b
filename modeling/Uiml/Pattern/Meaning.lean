import Uiml.Pattern.Reader
import Uiml.Pattern.Room

/-!
# The meaning of patterns

What a pattern as written means depends on the flags that hold where it stands. Of the characters
beyond ASCII nothing is known but their codes, so classes that a letter names, edges of words and
the neglect of case are to be had for ASCII alone, where the flag for more is cleared.

## Main definitions

* `Pattern.Mode` — the flags that hold at a place
* `Pattern.Class.ranges`, `Pattern.Tree.meaning` — what is meant
* `Pattern.read` — the pattern that a text writes
-/

namespace Uiml.Pattern

/-! ### Flags -/

/-- The flags that hold at a place. -/
structure Mode where
  caseless : Bool := false
  multiLine : Bool := false
  dotAll : Bool := false
  unicode : Bool := true
  returns : Bool := false
  deriving DecidableEq, Repr, Inhabited

/-- The flags that hold after a change. -/
def Mode.after (mode : Mode) (change : Change) : Mode :=
  { caseless := (change.state? .caseless).getD mode.caseless
    multiLine := (change.state? .multiLine).getD mode.multiLine
    dotAll := (change.state? .dotAll).getD mode.dotAll
    unicode := (change.state? .unicode).getD mode.unicode
    returns := (change.state? .returns).getD mode.returns }

/-! ### Ranges -/

/-- Ranges of codes. -/
abbrev Ranges := List (Nat × Nat)

/-- The largest code of a character. -/
def maxCode : Nat := 0x10FFFF

/-- The codes from one on, up to the largest, that are in no range of an increasing list. -/
def gapsFrom : Nat → Ranges → Ranges
  | low, [] => if low ≤ maxCode then [(low, maxCode)] else []
  | low, (first, last) :: rest =>
    (if low < first then [(low, first - 1)] else []) ++ gapsFrom (max low (last + 1)) rest

/-- The codes that are in none of the ranges. -/
def complement (ranges : Ranges) : Ranges :=
  gapsFrom 0 (ranges.mergeSort fun a b => a.1 ≤ b.1)

/-- The codes that are in both of two classes. -/
def shared (a b : Ranges) : Ranges :=
  a.flatMap fun (first, last) =>
    (b.map fun (low, high) => (max first low, min last high)).filter fun range =>
      range.1 ≤ range.2

/-- What an operation makes of two classes. -/
def Operation.apply (o : Operation) (a b : Ranges) : Ranges :=
  match o with
  | .intersection => shared a b
  | .difference => shared a (complement b)
  | .exclusion => shared (a ++ b) (complement (shared a b))

/-- The codes of ASCII letters in a class, and those of the same letters in the other case. -/
def withOtherCase (ranges : Ranges) : Ranges :=
  let moved (letters : Nat × Nat) (shift : Nat → Nat) : Ranges :=
    (shared ranges [letters]).map fun (first, last) => (shift first, shift last)
  ranges ++ moved (0x41, 0x5A) (· + 0x20) ++ moved (0x61, 0x7A) (· - 0x20)

/-- The class in a mode that may neglect case. -/
def Mode.fold (mode : Mode) (span : Span) (ranges : Ranges) : Except Fault Ranges :=
  if !mode.caseless || ranges.isEmpty then .ok ranges
  else if mode.unicode then wrong .caseNeedsTables span
  else .ok (withOtherCase ranges)

/-- The class of the other characters, if asked for. Where only bytes are known these are no
characters. -/
def Mode.negate (mode : Mode) (span : Span) (isNegated : Bool) (ranges : Ranges) :
    Except Fault Ranges :=
  let ranges := if isNegated then complement ranges else ranges
  if !mode.unicode && ranges.any fun range => 0x7F < range.2 then wrong .notOfText span
  else .ok ranges

/-! ### Classes -/

/-- The code that a literal stands for. -/
def Literal.code (mode : Mode) (l : Literal) : Except Fault Nat :=
  if !mode.unicode && l.isByte && 0x7F < l.char.toNat then wrong .notOfText l.span
  else .ok l.char.toNat

/-- The code that a literal in a class stands for. -/
def Literal.codeInClass (mode : Mode) (l : Literal) : Except Fault Nat := do
  let code ← l.code mode
  if !mode.unicode && 0x7F < code then wrong .beyondAscii l.span
  return code

/-- The class that a letter names. -/
def Letter.inMode (mode : Mode) (l : Letter) (isNegated : Bool) (span : Span) :
    Except Fault Ranges :=
  if mode.unicode then wrong .classNeedsTables span else mode.negate span isNegated l.ranges

/-- The class of a property. -/
def propertyInMode (mode : Mode) (span : Span) : Except Fault Ranges :=
  wrong (if mode.unicode then .propertyUnknown else .beyondAscii) span

/-- The characters in a class. -/
def Class.ranges (mode : Mode) : Class → Except Fault Ranges
  | .none => .ok []
  | .literal l => do
    let code ← l.codeInClass mode
    return [(code, code)]
  | .range first last => do return [(← first.codeInClass mode, ← last.codeInClass mode)]
  | .named ranges isNegated span => do mode.negate span isNegated (← mode.fold span ranges)
  | .letter l isNegated span => l.inMode mode isNegated span
  | .property span => propertyInMode mode span
  | .union first second => do return (← first.ranges mode) ++ (← second.ranges mode)
  | .operation o first second firstSpan secondSpan => do
    let a ← first.ranges mode
    let b ← second.ranges mode
    let b ← mode.fold secondSpan b
    let a ← mode.fold firstSpan a
    return o.apply a b
  | .bracket body isNegated span => do
    mode.negate span isNegated (← mode.fold span (← body.ranges mode))

/-! ### Patterns -/

/-- What a pattern means. -/
structure Meaning where
  pattern : Pattern
  /-- The flags that hold after it. -/
  mode : Mode
  /-- Whether it asks for edges of words of all writing systems. -/
  needsWords : Bool := false
  deriving Repr

/-- The place that is asked for. -/
def Assertion.place (mode : Mode) : Assertion → Place
  | .textStart => .textStart
  | .textEnd => .textEnd
  | .lineStart =>
    if !mode.multiLine then .textStart else if mode.returns then .returnStart else .lineStart
  | .lineEnd =>
    if !mode.multiLine then .textEnd else if mode.returns then .returnEnd else .lineEnd
  | .word edge => edge

/-- Whether edges of words of all writing systems are asked for. -/
def Assertion.needsWords (mode : Mode) : Assertion → Bool
  | .word _ => mode.unicode
  | _ => false

/-- The characters that a dot stands for. -/
def Mode.dot (mode : Mode) : Ranges :=
  if mode.dotAll then complement []
  else if mode.returns then complement [(0x0A, 0x0A), (0x0D, 0x0D)]
  else complement [(0x0A, 0x0A)]

/-- The characters that a literal stands for. -/
def Literal.ranges (mode : Mode) (l : Literal) : Except Fault Ranges := do
  let code ← l.code mode
  mode.fold l.span [(code, code)]

mutual

/-- What a pattern means. What is repeated no times asks for nothing. -/
def Tree.meaning (mode : Mode) : Tree → Except Fault Meaning
  | .literal l => do return ⟨.oneOf (← l.ranges mode), mode, false⟩
  | .dot span =>
    if mode.unicode then .ok ⟨.oneOf mode.dot, mode, false⟩ else wrong .notOfText span
  | .assertion a => .ok ⟨.place (a.place mode), mode, a.needsWords mode⟩
  | .letter l isNegated span => do return ⟨.oneOf (← l.inMode mode isNegated span), mode, false⟩
  | .property span => do return ⟨.oneOf (← propertyInMode mode span), mode, false⟩
  | .bracket c => do return ⟨.oneOf (← c.ranges mode), mode, false⟩
  | .flags change => .ok ⟨.empty, mode.after change, false⟩
  | .times least most t => do
    let m ← t.meaning mode
    return ⟨.times least most m.pattern, m.mode, m.needsWords && most ≠ some 0⟩
  | .group change t => do
    let m ← t.meaning (mode.after change)
    return { m with mode }
  | .sequence ts => do
    let ms ← Tree.meanings mode ts
    return ⟨Pattern.sequence (ms.map (·.pattern)), (ms.getLast?.map (·.mode)).getD mode,
      ms.any (·.needsWords)⟩
  | .alternatives ts => do
    let ms ← Tree.meanings mode ts
    return ⟨Pattern.alternatives (ms.map (·.pattern)), (ms.getLast?.map (·.mode)).getD mode,
      ms.any (·.needsWords)⟩

/-- What patterns mean, where each is read with the flags that hold after the one before. -/
def Tree.meanings (mode : Mode) : List Tree → Except Fault (List Meaning)
  | [] => .ok []
  | t :: ts => do
    let m ← t.meaning mode
    let ms ← Tree.meanings m.mode ts
    return m :: ms

end

/-- The pattern that a text writes, or what is wrong with the text. -/
def read (s : String) : Except String Pattern :=
  let pattern : Except Fault Pattern := do
    let m ← (← readTree s).meaning {}
    if m.pattern.isTooLarge then throw .tooLarge
    if m.needsWords then throw .wordsUnknown
    return m.pattern
  pattern.mapError (Fault.report s)

end Uiml.Pattern
