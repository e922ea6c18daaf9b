import Uiml.Number.Single

/-!
# Vectors

Positions, sizes, anchors and pivots are plane vectors; scales have a third component that is
carried along; paddings have four.
-/

namespace Uiml

/-- A vector of the plane, in layout units. -/
structure Vec2 where
  x : Float32
  y : Float32
  deriving DecidableEq, Inhabited

/-- A vector of three components. -/
structure Vec3 where
  x : Float32
  y : Float32
  z : Float32
  deriving DecidableEq, Inhabited

/-- A vector of four components. -/
structure Vec4 where
  x : Float32
  y : Float32
  z : Float32
  w : Float32
  deriving DecidableEq, Inhabited

namespace Vec2

/-- The vector of which both components are the given number. -/
def splat (v : Float32) : Vec2 := ⟨v, v⟩

def zero : Vec2 := splat 0

def one : Vec2 := splat 1

/-- The middle of the unit square. -/
def half : Vec2 := splat 0.5

def isFinite (v : Vec2) : Bool := v.x.isFinite && v.y.isFinite

instance : Add Vec2 := ⟨fun v w => ⟨v.x + w.x, v.y + w.y⟩⟩

instance : Sub Vec2 := ⟨fun v w => ⟨v.x - w.x, v.y - w.y⟩⟩

instance : HMul Vec2 Float32 Vec2 := ⟨fun v t => ⟨v.x * t, v.y * t⟩⟩

instance : HDiv Vec2 Float32 Vec2 := ⟨fun v t => ⟨v.x / t, v.y / t⟩⟩

/-- The vector `t` of the way to another; `t` may lie outside the unit interval. -/
def lerp (v w : Vec2) (t : Float32) : Vec2 := v + (w - v) * t

end Vec2

namespace Vec3

/-- The vector of which all components are the given number. -/
def splat (v : Float32) : Vec3 := ⟨v, v, v⟩

def zero : Vec3 := splat 0

def one : Vec3 := splat 1

instance : Add Vec3 := ⟨fun v w => ⟨v.x + w.x, v.y + w.y, v.z + w.z⟩⟩

instance : Sub Vec3 := ⟨fun v w => ⟨v.x - w.x, v.y - w.y, v.z - w.z⟩⟩

instance : HMul Vec3 Float32 Vec3 := ⟨fun v t => ⟨v.x * t, v.y * t, v.z * t⟩⟩

/-- The vector `t` of the way to another; `t` may lie outside the unit interval. -/
def lerp (v w : Vec3) (t : Float32) : Vec3 := v + (w - v) * t

end Vec3

namespace Vec4

def zero : Vec4 := ⟨0, 0, 0, 0⟩

end Vec4

end Uiml
