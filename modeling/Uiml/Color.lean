import Uiml.Number.Single

/-!
# Colours

A colour has three channels and an opacity, none of them premultiplied. Channels written as bytes
are shares of 255.
-/

namespace Uiml

/-- A colour; its channels usually lie in the unit interval. -/
structure Color where
  r : Float32
  g : Float32
  b : Float32
  a : Float32 := 1
  deriving DecidableEq, Inhabited

namespace Color

def white : Color := ⟨1, 1, 1, 1⟩
def black : Color := ⟨0, 0, 0, 1⟩
def red : Color := ⟨1, 0, 0, 1⟩
def green : Color := ⟨0, 1, 0, 1⟩
def blue : Color := ⟨0, 0, 1, 1⟩
def yellow : Color := ⟨1, 0.92, 0.016, 1⟩
def cyan : Color := ⟨0, 1, 1, 1⟩
def magenta : Color := ⟨1, 0, 1, 1⟩
def gray : Color := ⟨0.5, 0.5, 0.5, 1⟩
/-- The colour that shows nothing. -/
def clear : Color := ⟨0, 0, 0, 0⟩

/-- The colour with the given channels in bytes. -/
def ofBytes (r g b a : UInt8) : Color :=
  let share (n : UInt8) : Float32 := Single.ofNat n.toNat / 255
  ⟨share r, share g, share b, share a⟩

/-- The channels rounded to bytes, those out of range to the nearest byte. -/
def toBytes (c : Color) : List UInt8 :=
  let byte (v : Float32) : UInt8 := .ofNat (Single.roundNat (Single.clamp 0 1 v * 255))
  [byte c.r, byte c.g, byte c.b, byte c.a]

/-- The same colour of another opacity. -/
def withAlpha (c : Color) (a : Float32) : Color := { c with a }

/-- The colour `t` of the way to another, `t` being taken into the unit interval. -/
def lerp (c d : Color) (t : Float32) : Color :=
  let t := Single.clamp 0 1 t
  ⟨Single.lerp c.r d.r t, Single.lerp c.g d.g t, Single.lerp c.b d.b t, Single.lerp c.a d.a t⟩

def isFinite (c : Color) : Bool :=
  c.r.isFinite && c.g.isFinite && c.b.isFinite && c.a.isFinite

/-- Whether all channels compare equal: the two zeros do, and what is no number differs even from
itself. -/
def same (c d : Color) : Bool := c.r == d.r && c.g == d.g && c.b == d.b && c.a == d.a

/-- Whether no channel differs by more than `1 / 512`, half a step of a byte. -/
def isNear (c d : Color) : Bool :=
  let near (x y : Float32) : Bool := (x - y).abs ≤ 1 / 512
  near c.r d.r && near c.g d.g && near c.b d.b && near c.a d.a

end Color

end Uiml
