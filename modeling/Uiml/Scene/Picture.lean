/-!
# Pictures

Decoded pictures: four bytes of red, green, blue and opacity for every pixel, row by row from the
top.

## Main definitions

* `Picture` — a decoded picture
* `Decoding` — what comes of the bytes of a file
-/

namespace Uiml

/-- A decoded picture. -/
structure Picture where
  width : Nat
  height : Nat
  bytes : List UInt8
  deriving DecidableEq, Repr, Inhabited

/-- How messages show a picture: its measures and the number of its bytes. -/
def Picture.describe (p : Picture) : String :=
  "ImageContent \x7b width: " ++ toString p.width ++ ", height: " ++ toString p.height ++
    ", bytes: " ++ toString p.bytes.length ++ " \x7d"

/-- What comes of the bytes of a file. -/
inductive Decoding where
  | picture (p : Picture)
  /-- They do not write a picture. -/
  | refused
  /-- Nothing comes of them, not even a refusal. -/
  | stuck
  deriving DecidableEq, Repr

end Uiml
