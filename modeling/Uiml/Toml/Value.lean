import Uiml.Number.Decimal

/-!
# TOML values

The values of a TOML text, and those among them that are written without brackets and quotes:
booleans, whole numbers, floating-point numbers, and moments in time.

## Main definitions

* `Toml.Value` — a value
* `Toml.Value.ofWord?` — the value that a word writes
-/

namespace Uiml.Toml

/-- A value. -/
inductive Value where
  | string (s : String)
  | integer (n : Int)
  | float (x : Float)
  | boolean (b : Bool)
  /-- A date, a time of day or both, in the one form that it has. -/
  | moment (text : String)
  | array (items : List Value)
  /-- A table written in one line, as its keys, cut at their dots, and values. -/
  | table (entries : List (List String × Value))
  deriving Inhabited

/-! ### Numbers -/

/-- The digits of a number, between which single underscores may stand. -/
def joinDigits? (isDigit : Char → Bool) (cs : List Char) : Option (List Char) :=
  let groups := cs.splitOn '_'
  if groups.all fun group => !group.isEmpty && group.all isDigit then some groups.flatten else none

/-- The digits of a decimal number: a zero does not start more than one. -/
def wholeDigits? (cs : List Char) : Option (List Char) :=
  match joinDigits? Char.isDigit cs with
  | some ('0' :: _ :: _) => none
  | digits => digits

/-- The largest whole number. -/
def maxInteger : Nat := Integer.largest 63

/-- The value of digits in a base other than ten. -/
def natOfDigits? (base : Nat) (cs : List Char) : Option Int := do
  let digits ← joinDigits? (fun c => (Integer.digit? base c).isSome) cs
  let n ← (Integer.readNat base maxInteger digits).toOption
  return n

/-- The value of a sign, if there is one, and digits. -/
def signedInteger? (cs : List Char) : Option Int := do
  let (negative, rest) := Decimal.takeSign cs
  let digits ← wholeDigits? rest
  (Integer.readInt maxInteger (if negative then '-' :: digits else digits)).toOption

/-- The whole number that a word writes. -/
def integer? : List Char → Option Int
  | '0' :: 'x' :: digits => natOfDigits? 16 digits
  | '0' :: 'o' :: digits => natOfDigits? 8 digits
  | '0' :: 'b' :: digits => natOfDigits? 2 digits
  | cs => signedInteger? cs

/-- A list up to the first element of a class, and what follows that element if there is one. -/
def cutBefore (p : Char → Bool) (cs : List Char) : List Char × Option (List Char) :=
  (cs.takeWhile fun c => !p c,
    match cs.dropWhile fun c => !p c with
    | [] => none
    | _ :: rest => some rest)

/-- Whether nothing is there, or digits are. -/
def noneOrDigits : Option (List Char) → Bool
  | none => true
  | some cs => (joinDigits? Char.isDigit cs).isSome

/-- Whether a word without its sign has the form of a decimal number with a fraction or an
exponent. -/
def hasFloatForm (cs : List Char) : Bool :=
  let (significand, exponent) := cutBefore (fun c => c = 'e' || c = 'E') cs
  let (whole, fraction) := cutBefore (· = '.') significand
  (wholeDigits? whole).isSome && noneOrDigits fraction &&
    noneOrDigits (exponent.map fun digits => (Decimal.takeSign digits).2) &&
    (fraction.isSome || exponent.isSome)

/-- The bits of positive infinity. -/
def infinityBits : UInt64 := 0x7FF0000000000000

/-- The floating-point number that a word writes. A decimal number must not round to positive
infinity. -/
def float? (cs : List Char) : Option Float :=
  let (negative, rest) := Decimal.takeSign cs
  if rest = ['i', 'n', 'f'] then some (Decimal.Literal.infinite negative).toDouble
  else if rest = ['n', 'a', 'n'] then some Decimal.Literal.nan.toDouble
  else if hasFloatForm rest then
    match Decimal.read (cs.filter (· ≠ '_')) with
    | .error _ => none
    | .ok literal =>
      let x := literal.toDouble
      if x.toBits = infinityBits then none else some x
  else none

/-! ### Moments -/

/-- Takes a number of exactly `width` digits that lies in a range. -/
def takeField? (width least most : Nat) (cs : List Char) : Option (Nat × List Char) :=
  let digits := cs.take width
  let n := Decimal.digitsValue digits
  if digits.length = width && digits.all Char.isDigit && least ≤ n && n ≤ most then
    some (n, cs.drop width)
  else none

/-- Takes the given character. -/
def takeMark? (mark : Char) : List Char → Option (List Char)
  | [] => none
  | c :: rest => if c = mark then some rest else none

/-- The days of a month. -/
def daysOfMonth (year month : Nat) : Nat :=
  if month = 2 then
    if year % 4 = 0 && (year % 100 ≠ 0 || year % 400 = 0) then 29 else 28
  else if [4, 6, 9, 11].contains month then 30
  else 31

/-- Takes a date. -/
def takeDate? (cs : List Char) : Option (List Char × List Char) := do
  let (year, rest) ← takeField? 4 0 9999 cs
  let rest ← takeMark? '-' rest
  let (month, rest) ← takeField? 2 1 12 rest
  let rest ← takeMark? '-' rest
  let (_, rest) ← takeField? 2 1 (daysOfMonth year month) rest
  return (cs.take (cs.length - rest.length), rest)

/-- Takes an hour and a minute. -/
def takeHourMinute? (cs : List Char) : Option (List Char) := do
  let (_, cs) ← takeField? 2 0 23 cs
  let cs ← takeMark? ':' cs
  let (_, cs) ← takeField? 2 0 59 cs
  return cs

/-- The most decimals of a second that count. -/
def maxDecimals : Nat := 9

/-- The decimals of a second as far as they count, without zeros at their end, after a point if any
are left. -/
def decimals (digits : List Char) : List Char :=
  match ((digits.take maxDecimals).reverse.dropWhile (· = '0')).reverse with
  | [] => []
  | counted => '.' :: counted

/-- Takes a time of day, up to a leap second, with decimals or without. -/
def takeTime? (cs : List Char) : Option (List Char × List Char) := do
  let rest ← takeHourMinute? cs
  let rest ← takeMark? ':' rest
  let (_, rest) ← takeField? 2 0 60 rest
  let time := cs.take (cs.length - rest.length)
  match rest with
  | '.' :: rest =>
    let digits := rest.takeWhile Char.isDigit
    if digits.isEmpty then none else some (time ++ decimals digits, rest.dropWhile Char.isDigit)
  | _ => return (time, rest)

/-- The distance of a place's time from that of Greenwich, if any is given. One of nothing has the
sign of more. -/
def offset? : List Char → Option (List Char)
  | [] => some []
  | ['Z'] | ['z'] => some ['Z']
  | sign :: rest =>
    if (sign = '+' || sign = '-') && takeHourMinute? rest = some [] then
      some ((if rest.all fun c => c = '0' || c = ':' then '+' else sign) :: rest)
    else none

/-- The time of day at a place that a word writes. -/
def placedTime? (cs : List Char) : Option (List Char) := do
  let (time, rest) ← takeTime? cs
  return time ++ (← offset? rest)

/-- The date that a word writes. -/
def date? (cs : List Char) : Option (List Char) :=
  match takeDate? cs with
  | some (date, []) => some date
  | _ => none

/-- A date and a time of day at a place. -/
def joinMoment (date time : List Char) : List Char := date ++ 'T' :: time

/-- The date, the time of day, or both, that a word writes. -/
def moment? (cs : List Char) : Option (List Char) :=
  match takeTime? cs with
  | some (time, []) => some time
  | _ =>
    match takeDate? cs with
    | some (date, []) => some date
    | some (date, c :: rest) =>
      if c = 'T' || c = 't' then (placedTime? rest).map (joinMoment date) else none
    | none => none

/-! ### Words -/

/-- The value that a word writes. -/
def Value.ofWord? (cs : List Char) : Option Value :=
  if cs = "true".toList then some (.boolean true)
  else if cs = "false".toList then some (.boolean false)
  else
    match integer? cs with
    | some n => some (.integer n)
    | none =>
      match float? cs with
      | some x => some (.float x)
      | none => (moment? cs).map fun text => .moment (String.ofList text)

end Uiml.Toml
