/-!
# Exact values of binary floating-point numbers

A floating-point number of finite value is a whole number of units `2 ^ exponent`. This module
takes numbers apart into such values and rounds quotients of natural numbers back to the nearest
number of a format, ties to the even significand.

## Main definitions

* `roundDiv` — the whole number nearest to a quotient, ties to even
* `Binary.Format`, `Binary.Value` — an interchange format and the values it writes
* `Binary.Format.decode`, `Binary.Format.ofRatio` — from bits to values, and back by rounding
-/

namespace Uiml

/-- The whole number nearest to `num / den`; of two equally near it is the even one. -/
def roundDiv (num den : Nat) : Nat :=
  let whole := num / den
  let twice := 2 * (num % den)
  if den < twice ∨ (twice = den ∧ whole % 2 = 1) then whole + 1 else whole

/-- A number of at most the given whole part multiplied by `2 ^ exponent`, as a quotient. -/
def scaleByPower (n : Nat) (exponent : Int) : Nat × Nat :=
  if 0 ≤ exponent then (n * Nat.pow 2 exponent.toNat, 1) else (n, Nat.pow 2 (-exponent).toNat)

namespace Binary

/-- A binary interchange format. -/
structure Format where
  /-- The bits of a significand, its leading one included. -/
  precision : Nat
  exponentBits : Nat

/-- The format of four bytes. -/
def single : Format := ⟨24, 8⟩

/-- The format of eight bytes. -/
def double : Format := ⟨53, 11⟩

/-- What the bits of a number stand for. -/
inductive Value where
  | nan
  | infinite (negative : Bool)
  /-- The number `± significand * 2 ^ exponent`. -/
  | finite (negative : Bool) (significand : Nat) (exponent : Int)
  deriving DecidableEq, Repr

namespace Format

/-- The leading one of a significand of full precision; it is not among the bits of a number. -/
def hiddenBit (format : Format) : Nat := Nat.pow 2 (format.precision - 1)

/-- The exponent of the least positive number. -/
def minExponent (format : Format) : Int :=
  3 - (Nat.pow 2 (format.exponentBits - 1) : Nat) - (format.precision : Int)

/-- The bits of positive infinity, all bits below the sign being a magnitude. -/
def infinityBits (format : Format) : Nat :=
  (Nat.pow 2 format.exponentBits - 1) * format.hiddenBit

/-- The bit that marks negative numbers. -/
def signBit (format : Format) : Nat := Nat.pow 2 (format.exponentBits + format.precision - 1)

/-- The value of a number given by its bits. -/
def decode (format : Format) (bits : Nat) : Value :=
  let negative := format.signBit ≤ bits
  let magnitude := bits % format.signBit
  let fraction := magnitude % format.hiddenBit
  let biased := magnitude / format.hiddenBit
  if magnitude = format.infinityBits then .infinite negative
  else if format.infinityBits < magnitude then .nan
  else if biased = 0 then .finite negative fraction format.minExponent
  else .finite negative (format.hiddenBit + fraction) (format.minExponent + (biased - 1))

/-- The exponent at which the quotient of two positive numbers has a significand of full
precision, or the least exponent if that is larger. -/
def ratioExponent (format : Format) (num den : Nat) : Int :=
  let guess := (num.log2 : Int) - den.log2 - (format.precision - 1)
  let (n, d) :=
    if 0 ≤ guess then (num, den * Nat.pow 2 guess.toNat)
    else (num * Nat.pow 2 (-guess).toNat, den)
  let exponent := if n < d * format.hiddenBit then guess - 1 else guess
  max exponent format.minExponent

/-- The bits of the number nearest to `± num / den`. -/
def ofRatio (format : Format) (negative : Bool) (num den : Nat) : Nat :=
  let exponent := format.ratioExponent num den
  let significand :=
    if 0 ≤ exponent then roundDiv num (den * Nat.pow 2 exponent.toNat)
    else roundDiv (num * Nat.pow 2 (-exponent).toNat) den
  let hidden := format.hiddenBit
  let magnitude :=
    if significand < hidden then significand
    else (exponent - format.minExponent + 1).toNat * hidden + (significand - hidden)
  (if negative then format.signBit else 0) + min magnitude format.infinityBits

end Format

end Binary

end Uiml
