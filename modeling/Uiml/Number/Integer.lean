/-!
# Reading whole numbers

A whole number is written as an optional sign and at least one digit, and must fit the range that
its reader asks for. The digits are taken from the left, so the first digit that is none, or that
leaves the range, is the fault reported.

## Main definitions

* `Integer.Fault` — why a text is not a number of the range, with its wording
* `Integer.readNat`, `Integer.readInt` — the readers
-/

namespace Uiml.Integer

/-- Why a text is not a whole number of the range asked for. -/
inductive Fault where
  | empty
  | invalidDigit
  | tooLarge
  | tooSmall
  deriving DecidableEq, Repr

/-- The wording of a fault. -/
def Fault.message : Fault → String
  | .empty => "cannot parse integer from empty string"
  | .invalidDigit => "invalid digit found in string"
  | .tooLarge => "number too large to fit in target type"
  | .tooSmall => "number too small to fit in target type"

/-- The largest natural number of a number of bits. -/
def largest (bits : Nat) : Nat := Nat.pow 2 bits - 1

/-- The value of a digit in a base of at most 16. -/
def digit? (base : Nat) (c : Char) : Option Nat :=
  let n :=
    if '0' ≤ c ∧ c ≤ '9' then c.toNat - '0'.toNat
    else if 'a' ≤ c ∧ c ≤ 'f' then c.toNat - 'a'.toNat + 10
    else if 'A' ≤ c ∧ c ≤ 'F' then c.toNat - 'A'.toNat + 10
    else 16
  if n < base then some n else none

/-- Reads digits after the value read so far, which must stay at or below `most`. -/
def readDigits (base most : Nat) (beyond : Fault) : Nat → List Char → Except Fault Nat
  | value, [] => .ok value
  | value, c :: rest =>
    match digit? base c with
    | none => .error .invalidDigit
    | some d =>
      let next := value * base + d
      if next ≤ most then readDigits base most beyond next rest else .error beyond

/-- Reads a natural number up to `most`; a plus sign may stand before its digits. -/
def readNat (base most : Nat) (cs : List Char) : Except Fault Nat :=
  match cs with
  | [] => .error .empty
  | ['+'] => .error .invalidDigit
  | '+' :: digits => readDigits base most .tooLarge 0 digits
  | digits => readDigits base most .tooLarge 0 digits

/-- Reads a whole number between `-(most + 1)` and `most` in base ten; either sign may stand before
its digits. -/
def readInt (most : Nat) (cs : List Char) : Except Fault Int :=
  match cs with
  | [] => .error .empty
  | ['+'] | ['-'] => .error .invalidDigit
  | '-' :: digits => (readDigits 10 (most + 1) .tooSmall 0 digits).map fun n => -(n : Int)
  | '+' :: digits => (readDigits 10 most .tooLarge 0 digits).map fun n => (n : Int)
  | digits => (readDigits 10 most .tooLarge 0 digits).map fun n => (n : Int)

theorem readDigits_le {base most value n : Nat} {beyond : Fault} {cs : List Char}
    (hvalue : value ≤ most) (h : readDigits base most beyond value cs = .ok n) : n ≤ most := by
  induction cs generalizing value with
  | nil => simp_all [readDigits]
  | cons c rest ih =>
    simp only [readDigits] at h
    split at h
    · contradiction
    · split at h
      · next hnext => exact ih hnext h
      · contradiction

end Uiml.Integer
