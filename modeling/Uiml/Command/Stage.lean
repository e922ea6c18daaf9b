import Uiml.Animation.Animator
import Uiml.Log
import Uiml.Widget.Canvas

/-!
# Stages

A stage is a canvas with the animator that moves its widgets. A property is animated from the value
that its widget has at the time; what has no duration takes its target at once.
-/

namespace Uiml

/-- The value of a property of a widget, if it has the property. -/
def Handle.property? (h : Handle) : Property → Option TweenValue
  | .alpha => some (.scalar h.alpha)
  | .position => some (.vec2 h.transform.position)
  | .scale => some (.vec3 h.transform.scale)
  | .progress => h.progress?.map .scalar

/-- Gives a property of a widget a value, if the value has the shape that the property takes. -/
def Canvas.applyValue (canvas : Canvas) (id : WidgetId) (property : Property)
    (value : TweenValue) : Logged Canvas :=
  match canvas.widget? id with
  | none => pure canvas
  | some h =>
    match property, value with
    | .alpha, .scalar v => pure (canvas.setAlpha id v)
    | .position, .vec2 v => pure (canvas.setPosition id v)
    | .scale, .vec3 v => pure (canvas.setScale id v)
    | .progress, .scalar v => pure (canvas.setProgress id v).2
    | property, value => do
      Logged.say .debug .commands
        s!"ignoring {property.name} value {value.describe} for {id.describe} on '{h.name}'"
      pure canvas

/-- A canvas and its animator. -/
structure Stage where
  canvas : Canvas
  animator : Animator
  deriving Inhabited

namespace Stage

/-- The widget of an id. -/
def widget? (stage : Stage) (id : WidgetId) : Option Handle := stage.canvas.widget? id

/-- Gives a property of a widget a value. -/
def applyValue (stage : Stage) (id : WidgetId) (property : Property) (value : TweenValue) :
    Logged Stage := do
  return { stage with canvas := ← stage.canvas.applyValue id property value }

/-- Animates a property of a widget from its present value, or gives it the target at once if the
duration is none. -/
def animate (stage : Stage) (id : WidgetId) (property : Property) (target : TweenValue)
    (duration : Float32) : Logged Stage :=
  match (stage.widget? id).bind fun h => h.property? property with
  | none => pure stage
  | some source =>
    let (now, animator) := stage.animator.start id property source target duration
    match now with
    | none => pure { stage with animator }
    | some value => ({ stage with animator } : Stage).applyValue id property value

end Stage

end Uiml
