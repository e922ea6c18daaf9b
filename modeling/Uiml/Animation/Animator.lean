import Uiml.Animation.Property
import Uiml.Table
import Uiml.Widget.Handle

/-!
# The animator

The animator keeps the running animations, at most one for every property of a widget, and a queue
of steps to be run later. It changes nothing itself: advancing it tells which values are to be
applied and which steps have come due.

## Main definitions

* `Track`, `Step`, `Animator` — a running animation, a thing to do later, and all of them
* `Animator.start`, `Animator.schedule` — what is added
* `Animator.advance` — what a span of time brings
-/

namespace Uiml

/-- A running animation. -/
structure Track where
  start : TweenValue
  target : TweenValue
  elapsed : Float32
  duration : Float32
  deriving DecidableEq, Inhabited

/-- Whether an animation is at its end. -/
def Track.isFinished (track : Track) : Bool := track.duration ≤ track.elapsed

/-- The value that an animation shows: on the way its share of the way, in the end its target. -/
def Track.value (track : Track) : TweenValue :=
  if track.isFinished then track.target
  else track.start.lerp track.target (track.elapsed / track.duration)

/-- A thing to do later. -/
inductive Step where
  /-- Animates a property from the value that it has then. -/
  | tween (widget : WidgetId) (property : Property) (target : TweenValue) (duration : Float32)
  /-- The second half of a bounce: back to the scale at rest. -/
  | settle (widget : WidgetId) (duration : Float32)
  /-- Runs a command on a named element. -/
  | command (element command : String) (args : List String)
  deriving DecidableEq, Inhabited

/-- The widget that a step is bound to; commands find theirs by name. -/
def Step.widget? : Step → Option WidgetId
  | .tween widget _ _ _ => some widget
  | .settle widget _ => some widget
  | .command _ _ _ => none

/-- A step and when it is due. Steps are numbered in the order in which they are scheduled. -/
structure TimedStep where
  due : Float
  number : Nat
  step : Step
  deriving DecidableEq, Inhabited

/-- Whether a step comes before another: it is due earlier, or at the same time and was scheduled
earlier. -/
def TimedStep.isBefore (a b : TimedStep) : Bool :=
  a.due < b.due || (!(b.due < a.due) && a.number ≤ b.number)

/-- The scale that the bounces of a widget come back to, and how many are still to do so. There is
a step for each of these, in the queue or just come due, so that their number needs more than 32
bits only if there are as many steps at once. -/
structure BounceRest where
  scale : Vec3
  pending : Nat
  deriving DecidableEq, Inhabited

/-- A value that an animation gives to a property. -/
structure TweenUpdate where
  widget : WidgetId
  property : Property
  value : TweenValue
  /-- Whether the animation has reached its target and is gone. -/
  finished : Bool
  deriving DecidableEq, Inhabited

/-- The running animations and the steps to come. -/
structure Animator where
  tracks : Table (WidgetId × Property) Track := {}
  steps : List TimedStep := []
  bounces : Table WidgetId BounceRest := {}
  /-- The seconds that have passed. -/
  now : Float := 0
  /-- The number of steps that have been scheduled. -/
  scheduled : Nat := 0
  deriving Inhabited

/-- What a span of time brings: values to apply, and the steps that have come due, in order. -/
structure Advance where
  updates : List TweenUpdate
  due : List Step
  deriving Inhabited

/-- The values to apply in the order of widgets, then of the names of properties. -/
def Advance.sortedUpdates (advance : Advance) : List TweenUpdate :=
  advance.updates.mergeSort fun a b =>
    a.widget.index < b.widget.index ||
      (a.widget = b.widget && decide (a.property.name ≤ b.property.name))

namespace Animator

/-- Starts an animation, in place of one of the same property. Without a positive and finite
duration there is nothing to animate: the property's animation ends, and the target is given back
to be applied at once. -/
def start (a : Animator) (widget : WidgetId) (property : Property) (source target : TweenValue)
    (duration : Float32) : Option TweenValue × Animator :=
  if duration ≤ 0 || !duration.isFinite then
    (some target, { a with tracks := a.tracks.erase (widget, property) })
  else
    (none, { a with tracks := a.tracks.insert (widget, property) ⟨source, target, 0, duration⟩ })

/-- Ends the animation of a property where it is. -/
def cancel (a : Animator) (widget : WidgetId) (property : Property) : Animator :=
  { a with tracks := a.tracks.erase (widget, property) }

/-- Ends the animations of a widget, and forgets its steps and its bounces. -/
def cancelWidget (a : Animator) (widget : WidgetId) : Animator :=
  { a with
    tracks := a.tracks.filterKeys fun key => key.1 ≠ widget
    steps := a.steps.filter fun timed => timed.step.widget? ≠ some widget
    bounces := a.bounces.erase widget }

/-- Whether a property is being animated. -/
def isAnimating (a : Animator) (widget : WidgetId) (property : Property) : Bool :=
  a.tracks.contains (widget, property)

/-- The target of the animation of a property. -/
def target? (a : Animator) (widget : WidgetId) (property : Property) : Option TweenValue :=
  (a.tracks.get? (widget, property)).map Track.target

/-- Whether there is neither an animation nor a step. -/
def isIdle (a : Animator) : Bool := a.tracks.entries.isEmpty && a.steps.isEmpty

/-- A number of seconds, none of which has passed if it is negative or no number. -/
def notNegative (seconds : Float32) : Float32 := if 0 < seconds then seconds else 0

/-- Queues a step that is due in a number of seconds. -/
def schedule (a : Animator) (delay : Float32) (step : Step) : Animator :=
  { a with
    steps := a.steps ++ [⟨a.now + Double.ofSingle (notNegative delay), a.scheduled + 1, step⟩]
    scheduled := a.scheduled + 1 }

/-- Records a bounce that starts now, queues its second half, and tells the scale at rest: that of
the first of the bounces that overlap. -/
def beginBounce (a : Animator) (widget : WidgetId) (current : Vec3) (half : Float32) :
    Vec3 × Animator :=
  let rest := (a.bounces.get? widget).getD ⟨current, 0⟩
  let bounces := a.bounces.insert widget { rest with pending := rest.pending + 1 }
  (rest.scale, ({ a with bounces } : Animator).schedule half (.settle widget half))

/-- Takes note that the second half of a bounce starts, and tells the scale at rest. -/
def settleBounce (a : Animator) (widget : WidgetId) : Option Vec3 × Animator :=
  match a.bounces.get? widget with
  | none => (none, a)
  | some rest =>
    let pending := rest.pending - 1
    (some rest.scale,
      { a with
        bounces :=
          if pending = 0 then a.bounces.erase widget
          else a.bounces.insert widget { rest with pending } })

/-- The slack within which a step counts as due. -/
def dueSlack : Float := 1e-9

/-- Lets a number of seconds pass. A negative or non-finite number counts as none. -/
def advance (a : Animator) (dt : Float32) : Advance × Animator :=
  let dt := if dt.isFinite then notNegative dt else 0
  let now := a.now + Double.ofSingle dt
  let moved := a.tracks.entries.map fun (key, track) =>
    (key, { track with elapsed := track.elapsed + dt })
  let updates := moved.map fun (key, track) =>
    (⟨key.1, key.2, track.value, track.isFinished⟩ : TweenUpdate)
  let isDue (timed : TimedStep) : Bool := timed.due ≤ now + dueSlack
  let ready := (a.steps.filter isDue).mergeSort TimedStep.isBefore
  (⟨updates, ready.map TimedStep.step⟩,
    { a with
      tracks := ⟨moved.filter fun entry => !entry.2.isFinished⟩
      steps := a.steps.filter fun timed => !isDue timed
      now })

/-- Ends all animations and forgets all steps and bounces. Time goes on from where it is. -/
def clear (a : Animator) : Animator := { a with tracks := {}, steps := [], bounces := {} }

end Animator

end Uiml
