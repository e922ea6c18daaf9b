import Uiml.Number.Single
import Uiml.Number.Integer

/-!
# Reading decimal numbers

A decimal number is an optional sign and either a word for a special value, in any case of its
letters, or digits with at most one point among or beside them and an optional exponent. It stands
for the number of the format nearest to it.

## Main definitions

* `Decimal.Fault` — why a text is no number, with its wording
* `Decimal.Literal`, `Decimal.read` — what a text writes
* `Decimal.readSingle` — the number of single precision nearest to it
-/

namespace Uiml.Decimal

/-- Why a text is no decimal number. -/
inductive Fault where
  | empty
  | invalid
  deriving DecidableEq, Repr

/-- The wording of a fault. -/
def Fault.message : Fault → String
  | .empty => "cannot parse float from empty string"
  | .invalid => "invalid float literal"

/-- What a text writes: `± mantissa * 10 ^ exponent` or a special value. -/
inductive Literal where
  | nan
  | infinite (negative : Bool)
  | finite (negative : Bool) (mantissa : Nat) (exponent : Int)
  deriving DecidableEq, Repr

/-- The number that a run of digits writes. -/
def digitsValue (digits : List Char) : Nat :=
  digits.foldl (fun n c => 10 * n + (c.toNat - '0'.toNat)) 0

/-- Takes a sign from the front; `true` is minus. -/
def takeSign : List Char → Bool × List Char
  | '-' :: rest => (true, rest)
  | '+' :: rest => (false, rest)
  | cs => (false, cs)

/-- Reads an exponent: a letter `e`, an optional sign and at least one digit. Nothing at all is the
exponent zero. -/
def readExponent : List Char → Option Int
  | [] => some 0
  | c :: rest =>
    if c.toLower = 'e' then
      let (negative, digits) := takeSign rest
      if digits.isEmpty || !digits.all Char.isDigit then none
      else
        let n : Int := digitsValue digits
        some (if negative then -n else n)
    else none

/-- Reads digits, a point among or beside them, and an exponent. -/
def readUnsigned (cs : List Char) : Option (Nat × Int) :=
  let whole := cs.takeWhile Char.isDigit
  let afterWhole := cs.dropWhile Char.isDigit
  let (fraction, afterFraction) :=
    match afterWhole with
    | '.' :: rest => (rest.takeWhile Char.isDigit, rest.dropWhile Char.isDigit)
    | rest => ([], rest)
  if whole.isEmpty && fraction.isEmpty then none
  else
    (readExponent afterFraction).map fun exponent =>
      (digitsValue (whole ++ fraction), exponent - fraction.length)

/-- What a text writes. -/
def read (cs : List Char) : Except Fault Literal :=
  if cs.isEmpty then .error .empty
  else
    let (negative, rest) := takeSign cs
    let word := String.ofList (rest.map Char.toLower)
    if word = "nan" then .ok .nan
    else if word = "inf" ∨ word = "infinity" then .ok (.infinite negative)
    else
      match readUnsigned rest with
      | some (mantissa, exponent) => .ok (.finite negative mantissa exponent)
      | none => .error .invalid

/-- The most that the exponent of ten of a number can be away from zero for the number to be neither
zero nor infinite in the formats in use. -/
def farExponent : Nat := 400

/-- `mantissa * 10 ^ exponent` as a quotient of natural numbers. Numbers that are too large or too
small for the formats in use are replaced by others of the same kind, so that the quotient stays of
a size with the mantissa. -/
def ratio (mantissa : Nat) (exponent : Int) : Nat × Nat :=
  if 0 ≤ exponent then (mantissa * Nat.pow 10 (min exponent.toNat farExponent), 1)
  else (mantissa, Nat.pow 10 (min exponent.natAbs (farExponent + mantissa.log2)))

/-- The number of single precision nearest to a literal. -/
def Literal.toSingle : Literal → Float32
  | .nan => .ofBits 0x7FC00000
  | .infinite negative => .ofBits (if negative then 0xFF800000 else 0x7F800000)
  | .finite negative mantissa exponent =>
    let (num, den) := ratio mantissa exponent
    Single.ofRatio negative num den

/-- The number of double precision nearest to a literal. -/
def Literal.toDouble : Literal → Float
  | .nan => .ofBits 0x7FF8000000000000
  | .infinite negative => .ofBits (if negative then 0xFFF0000000000000 else 0x7FF0000000000000)
  | .finite negative mantissa exponent =>
    let (num, den) := ratio mantissa exponent
    Double.ofRatio negative num den

/-- The number of single precision that a text writes. -/
def readSingle (s : String) : Except Fault Float32 := (read s.toList).map Literal.toSingle

end Uiml.Decimal
