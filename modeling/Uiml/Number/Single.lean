import Uiml.Number.Binary

/-!
# Arithmetic of single-precision numbers

Coordinates, opacities and durations are numbers of single precision, and clocks count in double
precision. Every operation rounds on its own; conversions between the two precisions, and to whole
numbers, go through exact values.
-/

namespace Uiml

namespace Single

/-- The exact value of a number. -/
def value (x : Float32) : Binary.Value := Binary.single.decode x.toBits.toNat

/-- The number nearest to `± num / den`. -/
def ofRatio (negative : Bool) (num den : Nat) : Float32 :=
  .ofBits (.ofNat (Binary.single.ofRatio negative num den))

/-- The number nearest to a natural number. -/
def ofNat (n : Nat) : Float32 := ofRatio false n 1

/-- The number nearest to a whole number. -/
def ofInt (n : Int) : Float32 := ofRatio (n < 0) n.natAbs 1

/-- The number itself if it lies between the bounds, else the bound that it passes. -/
def clamp (lo hi x : Float32) : Float32 :=
  if x < lo then lo else if hi < x then hi else x

/-- The number `t` of the way from one number to another. -/
def lerp (x y t : Float32) : Float32 := x + (y - x) * t

/-- The nearest whole number, a half going away from zero, for a number that is not negative;
none for the others. -/
def roundNat (x : Float32) : Nat :=
  match value x with
  | .finite false significand exponent =>
    let (num, den) := scaleByPower significand exponent
    (2 * num + den) / (2 * den)
  | _ => 0

/-- The greatest whole number that is neither above `most` nor above a number; zero for a negative
number and for what is no number. -/
def floorNat (most : Nat) (x : Float32) : Nat :=
  match value x with
  | .finite false significand exponent =>
    let (num, den) := scaleByPower significand exponent
    min most (num / den)
  | .infinite false => most
  | _ => 0

/-- The least whole number that is not below a number, or `most` if that is less; zero for a
negative number and for what is no number. -/
def ceilNat (most : Nat) (x : Float32) : Nat :=
  match value x with
  | .finite false significand exponent =>
    let (num, den) := scaleByPower significand exponent
    min most ((num + den - 1) / den)
  | .infinite false => most
  | _ => 0

/-- The least and the greatest whole number of 32 bits with a sign. -/
def int32Bounds : Int × Int := (-0x80000000, 0x7FFFFFFF)

/-- The number without its decimals, taken into the range of 32 bits; zero for what is no number. -/
def toInt32 (x : Float32) : Int :=
  let (least, greatest) := int32Bounds
  match value x with
  | .nan => 0
  | .infinite negative => if negative then least else greatest
  | .finite negative significand exponent =>
    let (num, den) := scaleByPower significand exponent
    let whole : Int := (num / den : Nat)
    max least (min greatest (if negative then -whole else whole))

end Single

namespace Double

/-- The exact value of a number. -/
def value (x : Float) : Binary.Value := Binary.double.decode x.toBits.toNat

/-- The number nearest to `± num / den`. -/
def ofRatio (negative : Bool) (num den : Nat) : Float :=
  .ofBits (.ofNat (Binary.double.ofRatio negative num den))

/-- The number nearest to a natural number. -/
def ofNat (n : Nat) : Float := ofRatio false n 1

/-- The same value in double precision. -/
def ofSingle (x : Float32) : Float :=
  match Single.value x with
  | .nan => .ofBits 0x7FF8000000000000
  | .infinite negative => .ofBits (if negative then 0xFFF0000000000000 else 0x7FF0000000000000)
  | .finite negative significand exponent =>
    let (num, den) := scaleByPower significand exponent
    ofRatio negative num den

/-- The nearest number of single precision. -/
def toSingle (x : Float) : Float32 :=
  match value x with
  | .nan => .ofBits 0x7FC00000
  | .infinite negative => .ofBits (if negative then 0xFF800000 else 0x7F800000)
  | .finite negative significand exponent =>
    let (num, den) := scaleByPower significand exponent
    Single.ofRatio negative num den

end Double

end Uiml
