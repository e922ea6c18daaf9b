import Uiml.Geometry
import Uiml.Number.Digits

/-!
# Animated properties

What can be animated, and the values that it passes through on the way to its target.
-/

namespace Uiml

/-- A property of a widget that can be animated. -/
inductive Property where
  | alpha
  | position
  | scale
  | progress
  deriving DecidableEq, Repr, Inhabited

/-- The name of a property. -/
def Property.name : Property → String
  | .alpha => "Alpha"
  | .position => "Position"
  | .scale => "Scale"
  | .progress => "Progress"

/-- A value of a property. -/
inductive TweenValue where
  | scalar (v : Float32)
  | vec2 (v : Vec2)
  | vec3 (v : Vec3)
  deriving DecidableEq, Inhabited

namespace TweenValue

/-- The value `t` of the way to another; between values of different shapes there is no way, and the
other one is taken at once. -/
def lerp : TweenValue → TweenValue → Float32 → TweenValue
  | scalar x, scalar y, t => scalar (Single.lerp x y t)
  | vec2 v, vec2 w, t => vec2 (v.lerp w t)
  | vec3 v, vec3 w, t => vec3 (v.lerp w t)
  | _, target, _ => target

/-- How messages show a value. -/
def describe : TweenValue → String
  | scalar v => s!"Scalar({Single.describe v})"
  | vec2 v =>
    "Vec2(Vec2 \x7b x: " ++ Single.describe v.x ++ ", y: " ++ Single.describe v.y ++ " \x7d)"
  | vec3 v =>
    "Vec3(Vec3 \x7b x: " ++ Single.describe v.x ++ ", y: " ++ Single.describe v.y ++ ", z: " ++
      Single.describe v.z ++ " \x7d)"

end TweenValue

end Uiml
