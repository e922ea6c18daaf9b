import Uiml.Scene.Basic
import Uiml.Widget.EventHandler

/-!
# Widgets

A widget is the running state of one element: where its node is, how it looks, what it looked like
at first, what it reacts to, and the parts that its kind gives it. What a widget says about itself
and what its node shows change together.

## Main definitions

* `Handle` — the state of a widget
* `Handle.Parts` — what the kinds of widgets add to it
* `fillAnchors` — where the fill of a progress bar lies
-/

namespace Uiml

/-- The id of a widget; ids count up from zero since the last clearing. -/
structure WidgetId where
  index : Nat
  deriving DecidableEq, Repr, Inhabited

/-- How messages show the id of a widget. -/
def WidgetId.describe (id : WidgetId) : String := s!"w{id.index}"

/-- Where a widget lies and how it is scaled. -/
structure Transform where
  position : Vec2 := .zero
  size : Vec2 := ⟨100, 100⟩
  anchorMin : Vec2 := .half
  anchorMax : Vec2 := .half
  pivot : Vec2 := .half
  scale : Vec3 := .one
  deriving DecidableEq, Inhabited

/-- The state right after creation, to which a widget can be restored. -/
structure Home where
  transform : Transform := {}
  alpha : Float32 := 1
  /-- The declared state of a switch. -/
  toggleOn : Option Bool := none
  deriving DecidableEq, Inhabited

/-- The state of a progress bar. -/
structure ProgressBar where
  fill : NodeId
  min : Float32
  max : Float32
  value : Float32
  direction : SliderDirection
  deriving DecidableEq, Inhabited

/-- What the kinds of widgets add to their common state. -/
inductive Handle.Parts where
  | plain
  | button (label : Option NodeId)
  | scrollArea (viewport content : NodeId)
  | progressBar (bar : ProgressBar)
  | toggle (checkmark : NodeId) (isOn : Bool) (group : Option WidgetId)
  | inputField (text : NodeId)
  | dropdown (label : NodeId) (options : List String) (value : Nat)
  deriving DecidableEq, Inhabited

/-- The anchors of a fill that reaches up to a value already taken into the range. -/
def fillAnchors (min max value : Float32) (direction : SliderDirection) : Vec2 × Vec2 :=
  let t : Float32 := if min < max then Single.clamp 0 1 ((value - min) / (max - min)) else 0
  match direction with
  | .leftToRight => (⟨0, 0⟩, ⟨t, 1⟩)
  | .rightToLeft => (⟨1 - t, 0⟩, ⟨1, 1⟩)
  | .bottomToTop => (⟨0, 0⟩, ⟨1, t⟩)
  | .topToBottom => (⟨0, 1 - t⟩, ⟨1, 1⟩)

namespace ProgressBar

/-- The anchors of the fill. -/
def anchors (bar : ProgressBar) : Vec2 × Vec2 :=
  fillAnchors bar.min bar.max bar.value bar.direction

/-- The bar at another value, which is taken into its range. -/
def withValue (bar : ProgressBar) (value : Float32) : ProgressBar :=
  { bar with value := Single.clamp bar.min bar.max value }

end ProgressBar

/-- The state of one widget. -/
structure Handle where
  name : String
  kind : Element.Kind
  node : NodeId
  transform : Transform := {}
  alpha : Float32 := 1
  interactable : Bool := true
  home : Home := {}
  handlers : List EventHandler := []
  parts : Handle.Parts := .plain
  /-- The slot that the widget is bound to. -/
  slot : Option Nat := none
  /-- The node that shows the widget's text, if it has one. -/
  textSurface : Option NodeId := none
  text : Option String := none
  /-- The node that shows the widget's picture, if it has one. -/
  imageSurface : Option NodeId := none
  image : Option Picture := none
  deriving DecidableEq, Inhabited

namespace Handle

/-- The node under which the widgets of child elements go. -/
def contentNode (h : Handle) : NodeId :=
  match h.parts with
  | .scrollArea _ content => content
  | _ => h.node

/-- The state of a switch. -/
def isOn? (h : Handle) : Option Bool :=
  match h.parts with
  | .toggle _ isOn _ => some isOn
  | _ => none

/-- The value of a progress bar. -/
def progress? (h : Handle) : Option Float32 :=
  match h.parts with
  | .progressBar bar => some bar.value
  | _ => none

/-- The widget with its present state as the one to be restored. -/
def withHome (h : Handle) : Handle :=
  { h with home := ⟨h.transform, h.alpha, h.isOn?⟩ }

end Handle

/-- Gives a node the transform of its widget. -/
def Scene.applyTransform (scene : Scene) (id : NodeId) (t : Transform) : Scene :=
  ((((scene.setAnchors id t.anchorMin t.anchorMax).setPivot id t.pivot).setSize id t.size).setPosition
    id t.position).setScale id t.scale

end Uiml
