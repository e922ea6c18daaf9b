import Uiml.Color
import Uiml.Geometry
import Uiml.Number.Decimal
import Uiml.Text.Trim

/-!
# Reading attribute values

The forms in which attributes write truth values, numbers, vectors and colours. A text that has no
such form has no value.

## Main definitions

* `Attribute.readBool`, `Attribute.readFloat`, `Attribute.readInt` — single values
* `Attribute.readVec2`, `Attribute.readVec3`, `Attribute.readVec4` — numbers between commas
* `Attribute.readHexColor`, `Attribute.readCsvColor`, `Attribute.readColor` — colours
-/

namespace Uiml.Attribute

/-- The words for truth values. -/
def boolWords : List (String × Bool) :=
  [("true", true), ("1", true), ("yes", true), ("on", true),
    ("false", false), ("0", false), ("no", false), ("off", false)]

/-- The truth value of a word. -/
def readBool (s : String) : Option Bool := Text.lookup? boolWords (Text.trim s)

/-- The number that a text without blanks at its ends writes. -/
def readTrimmedFloat (s : String) : Option Float32 := (Decimal.readSingle s).toOption

/-- The number that a text writes. -/
def readFloat (s : String) : Option Float32 := readTrimmedFloat (Text.trim s)

/-- The whole number of 32 bits that a text writes. -/
def readInt (s : String) : Option Int :=
  (Integer.readInt (Integer.largest 31) (Text.trimChars s.toList)).toOption

/-- The numbers between the commas of a text, if all its parts are numbers. -/
def readComponents (s : String) : Option (List Float32) := (Text.split ',' s).mapM readFloat

/-- A vector of two numbers. -/
def readVec2 (s : String) : Option Vec2 :=
  match readComponents s with
  | some [x, y] => some ⟨x, y⟩
  | _ => none

/-- A vector of three numbers, or of two with a third component of one. -/
def readVec3 (s : String) : Option Vec3 :=
  match readComponents s with
  | some [x, y, z] => some ⟨x, y, z⟩
  | some [x, y] => some ⟨x, y, 1⟩
  | _ => none

/-- A vector of four numbers. -/
def readVec4 (s : String) : Option Vec4 :=
  match readComponents s with
  | some [x, y, z, w] => some ⟨x, y, z, w⟩
  | _ => none

/-- The byte that two digits write in base 16. -/
def hexByte? (high low : Char) : Option UInt8 :=
  match Integer.digit? 16 high, Integer.digit? 16 low with
  | some h, some l => some (.ofNat (16 * h + l))
  | _, _ => none

/-- The bytes that pairs of digits write in base 16. -/
def hexBytes? : List Char → Option (List UInt8)
  | [] => some []
  | [_] => none
  | high :: low :: rest =>
    match hexByte? high low, hexBytes? rest with
    | some byte, some bytes => some (byte :: bytes)
    | _, _ => none

/-- Every digit twice. -/
def doubled (digits : List Char) : List Char := digits.flatMap fun d => [d, d]

/-- A colour written as `#` and digits of base 16: two for each channel, or one that stands for two
equal ones; without those of the opacity it is full. -/
def readHexColor (s : String) : Option Color :=
  match Text.trimChars s.toList with
  | '#' :: digits =>
    let bytes :=
      match digits.length with
      | 3 | 4 => hexBytes? (doubled digits)
      | 6 | 8 => hexBytes? digits
      | _ => none
    match bytes with
    | some [r, g, b] => some (.ofBytes r g b 255)
    | some [r, g, b, a] => some (.ofBytes r g b a)
    | _ => none
  | _ => none

/-- A colour written as three or four numbers on the scale to 255. -/
def readCsvColor (s : String) : Option Color :=
  match readComponents s with
  | some [r, g, b] => some ⟨r / 255, g / 255, b / 255, 1⟩
  | some [r, g, b, a] => some ⟨r / 255, g / 255, b / 255, a / 255⟩
  | _ => none

/-- The colours that have names. -/
def namedColors : List (String × Color) :=
  [("white", .white), ("black", .black), ("red", .red), ("green", .green), ("blue", .blue),
    ("yellow", .yellow), ("cyan", .cyan), ("magenta", .magenta), ("gray", .gray), ("grey", .gray),
    ("clear", .clear)]

/-- A colour in any of its forms, given without blanks at its ends: a name, digits of base 16, or
numbers between commas. -/
def readColor (s : String) : Option Color :=
  ((Text.lookup? namedColors s).or (readHexColor s)).or (readCsvColor s)

end Uiml.Attribute
