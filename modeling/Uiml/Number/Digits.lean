import Uiml.Number.Single

/-!
# Writing numbers

A number is written without an exponent, either with the fewest digits that read back as the same
number (of those the nearest to it), or with a fixed count of decimals, a tie going to the even
digit.

## Main definitions

* `Digits.shortest` — the fewest digits that lie in the rounding interval of a number
* `Single.text` — the shortest text of a number
* `Single.describe` — the shortest text that shows a number to be one with decimals
* `Single.fixed` — the text with a fixed count of decimals
-/

namespace Uiml

namespace Digits

/-- `n / 10 ^ place`, as a quotient of natural numbers, where `n = num / den`. -/
def scaled (num den : Nat) (place : Int) : Nat × Nat :=
  if 0 ≤ place then (num, den * Nat.pow 10 place.toNat)
  else (num * Nat.pow 10 (-place).toNat, den)

/-- The point of the grid of multiples of `10 ^ place` nearest to `mid` among those of its two
neighbours that lie between `lo` and `hi`, the larger of two equally near; the bounds belong to the
interval if `closed`. All three numbers have the denominator `den`. -/
def onGrid (closed : Bool) (lo mid hi den : Nat) (place : Int) : Option Nat :=
  let (m, d) := scaled mid den place
  let (l, _) := scaled lo den place
  let (h, _) := scaled hi den place
  let inside (n : Nat) : Bool := if closed then l ≤ n * d && n * d ≤ h else l < n * d && n * d < h
  let below := m / d
  match inside below, inside (below + 1) with
  | true, true => some (if 2 * (m % d) < d then below else below + 1)
  | true, false => some below
  | false, true => some (below + 1)
  | false, false => none

/-- The first grid that meets the interval, among those of `fuel` places from `place` down. -/
def firstGrid (closed : Bool) (lo mid hi den : Nat) : Nat → Int → Nat × Int
  | 0, place => (0, place)
  | fuel + 1, place =>
    match onGrid closed lo mid hi den place with
    | some n => (n, place)
    | none => firstGrid closed lo mid hi den fuel (place - 1)

/-- The fewest digits, and the place of the last of them, that read back as the number
`significand * 2 ^ exponent` of the format. -/
def shortest (format : Binary.Format) (significand : Nat) (exponent : Int) : Nat × Int :=
  let onEdge := significand = format.hiddenBit ∧ format.minExponent < exponent
  let (mid, den) := scaleByPower (4 * significand) (exponent - 2)
  let (lo, _) := scaleByPower (4 * significand - if onEdge then 1 else 2) (exponent - 2)
  let (hi, _) := scaleByPower (4 * significand + 2) (exponent - 2)
  let top : Nat := (Nat.toDigits 10 (mid / den)).length
  let places : Nat := top + (-exponent).toNat + 2
  firstGrid (significand % 2 = 0) lo mid hi den places top

/-- A natural number in units of `10 ^ place`, written without an exponent. -/
def positional (n : Nat) (place : Int) : String :=
  let digits := Nat.toDigits 10 n
  if 0 ≤ place then String.ofList (digits ++ List.replicate place.toNat '0')
  else
    let decimals := (-place).toNat
    let padded := List.replicate (decimals + 1 - digits.length) '0' ++ digits
    let whole := padded.take (padded.length - decimals)
    String.ofList (whole ++ '.' :: padded.drop (padded.length - decimals))

end Digits

namespace Single

/-- The shortest text of a number. -/
def text (x : Float32) : String :=
  match value x with
  | .nan => "NaN"
  | .infinite negative => if negative then "-inf" else "inf"
  | .finite negative significand exponent =>
    let magnitude :=
      if significand = 0 then "0"
      else
        let (n, place) := Digits.shortest Binary.single significand exponent
        Digits.positional n place
    if negative then "-" ++ magnitude else magnitude

/-- A natural number in units of `10 ^ place`, written with one digit before the point and an
exponent. -/
def scientific (n : Nat) (place : Int) : String :=
  match Nat.toDigits 10 n with
  | [] => ""
  | first :: rest =>
    let exponent := place + rest.length
    let fraction := if rest.isEmpty then "" else "." ++ String.ofList rest
    String.singleton first ++ fraction ++ "e" ++ toString exponent

/-- The shortest text of a number that shows it to be no whole number: with at least one decimal,
or, for very small and very large numbers, with an exponent. -/
def describe (x : Float32) : String :=
  match value x with
  | .finite negative significand exponent =>
    if significand ≠ 0 ∧ (x.abs < 1e-4 ∨ 1e16 ≤ x.abs) then
      let (n, place) := Digits.shortest Binary.single significand exponent
      (if negative then "-" else "") ++ scientific n place
    else
      let plain := text x
      if plain.toList.any (· == '.') then plain else plain ++ ".0"
  | _ => text x

/-- The text of a number with a fixed count of decimals. -/
def fixed (decimals : Nat) (x : Float32) : String :=
  match value x with
  | .nan => "NaN"
  | .infinite negative => if negative then "-inf" else "inf"
  | .finite negative significand exponent =>
    let (num, den) := scaleByPower significand exponent
    let n := roundDiv (num * Nat.pow 10 decimals) den
    let magnitude := if decimals = 0 then toString n else Digits.positional n (-decimals)
    if negative then "-" ++ magnitude else magnitude

end Single

end Uiml
