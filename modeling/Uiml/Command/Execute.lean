import Uiml.Command.Action
import Uiml.Command.Stage
import Uiml.Config.Basic
import Uiml.Registry

/-!
# Carrying out commands

An action animates or sets properties of one widget. A command that fails is warned about and
leaves the stage as it was.

## Main definitions

* `Action.run` — what an action does to a widget
* `Command.execute` — finds the element and the command by their names and does it
* `Step.run` — does a step that has come due
-/

namespace Uiml

/-- Where an element slides to from where it is. -/
def SlideDirection.offset (screen : Vec2) : SlideDirection → Vec2
  | .left => ⟨-screen.x, 0⟩
  | .right => ⟨screen.x, 0⟩
  | .up => ⟨0, screen.y⟩
  | .down => ⟨0, -screen.y⟩

namespace Stage

variable (stage : Stage) (config : Config) (id : WidgetId)

/-- The position that a widget was made at. -/
def homePosition : Vec2 :=
  match stage.widget? id with
  | some h => h.home.transform.position
  | none => .zero

/-- Animates a widget to where it was made, in full size and full opacity. -/
def reveal (duration : Float32) : Logged Stage := do
  let home := stage.homePosition id
  let stage ← stage.animate id .alpha (.scalar 1) duration
  let stage ← stage.animate id .position (.vec2 home) duration
  stage.animate id .scale (.vec3 .one) duration

/-- Animates a widget off the screen. -/
def slide (direction : SlideDirection) (duration : Float32) : Logged Stage :=
  match stage.widget? id with
  | none => pure stage
  | some h =>
    let target := h.transform.position + direction.offset config.screenSize
    stage.animate id .position (.vec2 target) duration

/-- Animates a widget to nothing, off the screen to the left. -/
def conceal (duration : Float32) : Logged Stage := do
  let stage ← stage.animate id .alpha (.scalar 0) duration
  stage.slide config id .left duration

/-- Animates a widget to its bounce's peak, and queues the way back. -/
def bounce (duration : Float32) : Logged Stage :=
  match stage.widget? id with
  | none => pure stage
  | some h =>
    let half := duration / 2
    let (rest, animator) := stage.animator.beginBounce id h.transform.scale half
    ({ stage with animator } : Stage).animate id .scale (.vec3 (rest * config.bounceScale)) half

/-- Ends all that goes on with a widget and gives it back the state that it was declared with, in
full size and full opacity. -/
def restore : Stage :=
  let animator := stage.animator.cancelWidget id
  match stage.widget? id with
  | none => { stage with animator }
  | some h =>
    let canvas :=
      (((stage.canvas.setAlpha id 1).setPosition id h.home.transform.position).setScale id
        .one).setInteractable id true
    match h.home.toggleOn with
    | none => ⟨canvas, animator⟩
    | some isOn => ⟨(canvas.setToggle id isOn).2, animator⟩

end Stage

/-- Does an action to a widget. Only a text can turn out to have nowhere to go. -/
def Action.run (config : Config) (id : WidgetId) (stage : Stage) :
    Action → Except CommandError (Logged Stage)
  | .show duration => .ok (stage.reveal id duration)
  | .hide duration => .ok (stage.conceal config id duration)
  | .toggle duration =>
    let visible := (stage.widget? id).any fun h => 0.5 < h.alpha
    .ok (if visible then stage.conceal config id duration else stage.reveal id duration)
  | .fade alpha duration => .ok (stage.animate id .alpha (.scalar alpha) duration)
  | .moveTo position duration => .ok (stage.animate id .position (.vec2 position) duration)
  | .moveHome duration => .ok (stage.animate id .position (.vec2 (stage.homePosition id)) duration)
  | .scale factor duration => .ok (stage.animate id .scale (.vec3 (.splat factor)) duration)
  | .slide direction duration => .ok (stage.slide config id direction duration)
  | .bounce duration => .ok (stage.bounce config id duration)
  | .setAlpha alpha =>
    .ok (({ stage with animator := stage.animator.cancel id .alpha } : Stage).applyValue id .alpha
      (.scalar alpha))
  | .setInteractable interactable =>
    .ok (pure { stage with canvas := stage.canvas.setInteractable id interactable })
  | .setText text =>
    match stage.widget? id with
    | none => .ok (pure stage)
    | some h =>
      let (shown, canvas) := stage.canvas.showText id text
      if shown then .ok (pure { stage with canvas }) else .error (.noTextSurface h.name)
  | .restore => .ok (pure (stage.restore id))

/-- Does a command to an element, both given by name. -/
def Command.dispatch (config : Config) (registry : Registry) (stage : Stage)
    (element command : String) (args : List String) : Except CommandError (Logged Stage) := do
  let some id := registry.get? element | .error (.unknownElement element)
  let some builtin := Command.ofName? command | .error (.unknownCommand command)
  let action ← Action.read builtin ⟨command, args, config.defaultDuration⟩
  let result ← action.value.run config id stage
  return ⟨result.value, action.lines ++ result.lines⟩

/-- Does a command to an element, and warns if it fails. -/
def Command.execute (config : Config) (registry : Registry) (stage : Stage)
    (element command : String) (args : List String) : Logged (Except CommandError Unit × Stage) :=
  match Command.dispatch config registry stage element command args with
  | .ok result => (fun stage => (.ok (), stage)) <$> result
  | .error e => do
    let shown := ", ".intercalate args
    Logged.say .warn .commands s!"{command}({shown}) on '{element}': {e.message}"
    pure (.error e, stage)

/-- Does a step that has come due. -/
def Step.run (config : Config) (registry : Registry) (stage : Stage) : Step → Logged Stage
  | .tween widget property target duration => stage.animate widget property target duration
  | .settle widget duration =>
    let (rest, animator) := stage.animator.settleBounce widget
    match rest with
    | none => pure { stage with animator }
    | some scale =>
      ({ stage with animator } : Stage).animate widget .scale (.vec3 scale) duration
  | .command element name args => do
    return (← Command.execute config registry stage element name args).2

end Uiml
