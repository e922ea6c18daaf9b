import Uiml.Session.Basic

/-!
# Running a session

Between loads a session takes commands, lets time pass, hands events on, and gives its slots
contents and widgets.

## Main definitions

* `Session.execute`, `Session.schedule`, `Session.setProgress` — what is done to elements
* `Session.tick` — what a span of time brings
* `Session.invoke` — hands on an event
* `Session.setText`, `Session.request`, `Session.wait`, `Session.bind` — contents and bindings
-/

namespace Uiml.Session

/-! ### Commands -/

/-- Does a command to an element. -/
def execute (s : Session) (element command : String) (args : List String) :
    Logged (Except CommandError Unit × Session) := do
  let (result, stage) ← Command.execute s.config s.registry s.stage element command args
  return (result, { s with stage })

/-- Queues a command to be done in a number of seconds. -/
def schedule (s : Session) (delay : Float32) (element command : String) (args : List String) :
    Session :=
  let animator := s.stage.animator.schedule delay (.command element command args)
  { s with stage := { s.stage with animator } }

/-- The seconds that a progress bar takes to move to a new value. -/
def progressSeconds : Float32 := 0.5

/-- The progress bar of a name. -/
def progressBar? (s : Session) (element : String) : Except CommandError WidgetId :=
  match s.registry.get? element with
  | none => .error (.unknownElement element)
  | some id =>
    if ((s.stage.widget? id).bind Handle.progress?).isSome then .ok id
    else .error (.notAProgressBar element)

/-- Moves a progress bar to a value, at once or over some time. -/
def setProgress (s : Session) (element : String) (value : Float32) (animate : Bool) :
    Logged (Except CommandError Unit × Session) :=
  match s.progressBar? element with
  | .error e => do
    Logged.say .warn .session s!"set_progress_value: {e.message}"
    return (.error e, s)
  | .ok id => do
    let duration := if animate then progressSeconds else 0
    return (.ok (), { s with stage := ← s.stage.animate id .progress (.scalar value) duration })

/-! ### Time -/

/-- Gives the properties the values of a list of updates. -/
def applyUpdates (stage : Stage) (updates : List TweenUpdate) : Logged Stage :=
  updates.foldlM (fun stage u => stage.applyValue u.widget u.property u.value) stage

/-- Does the steps that have come due. -/
def runSteps (config : Config) (registry : Registry) (stage : Stage) (steps : List Step) :
    Logged Stage :=
  steps.foldlM (fun stage step => step.run config registry stage) stage

/-- Lets a number of seconds pass: animations move, steps that come due are done, and pictures that
have come are shown. -/
def tick (s : Session) (dt : Float32) : Logged Session := do
  let (advance, animator) := s.stage.animator.advance dt
  let stage ← applyUpdates { s.stage with animator } advance.updates
  let stage ← runSteps s.config s.registry stage advance.due
  let (_, slots, canvas) ← s.slots.poll stage.canvas
  return { s with stage := { stage with canvas }, slots }

/-! ### Events -/

/-- Starts to take the calls of events, or stops it. -/
def listen (s : Session) (listening : Bool) : Session := { s with listening }

/-- How messages show whether the calls of events are taken. -/
def describeListening (s : Session) : String :=
  "CommandBus \x7b has_event_handler: " ++ toString s.listening ++ " \x7d"

/-- Hands on the calls that an element declares for an event, and tells how many. -/
def invoke (s : Session) (element event : String) (args : List String) :
    Logged (Except CommandError Nat × Session) := do
  match ← Event.invoke s.listening s.registry s.stage.canvas.widgets element event args with
  | .error e => return (.error e, s)
  | .ok calls => return (.ok calls.length, { s with events := s.events ++ calls })

/-- Takes the calls that have been handed on. -/
def takeEvents (s : Session) : List Invocation × Session := (s.events, { s with events := [] })

/-! ### Slots -/

/-- The session with other slots and another canvas. -/
def withSlots (s : Session) (slots : Slots) (canvas : Canvas) : Session :=
  { s.withCanvas canvas with slots }

/-- Gives a slot a text, and tells how many widgets show it. -/
def setText (s : Session) (slot : Nat) (text : String) : Logged (Nat × Session) := do
  let (count, slots, canvas) ← s.slots.setText s.stage.canvas slot text
  return (count, s.withSlots slots canvas)

/-- Requests a picture for a slot. -/
def request (s : Session) (slot : Nat) (source : String) (kind : SourceKind) :
    Logged (Option Nat × Session) := do
  let (number, slots) ← s.slots.request slot source kind
  return (number, { s with slots })

/-- Fetches the picture of a request. -/
def finish (s : Session) (number : Nat) : Bool × Session :=
  let (found, slots) := s.slots.finish number
  (found, { s with slots })

/-- Shows the pictures that have come, and tells how many requests had an outcome. -/
def wait (s : Session) (timeout : Span) : Logged (Nat × Session) := do
  let (applied, slots, canvas) ← s.slots.wait s.stage.canvas timeout
  return (applied, s.withSlots slots canvas)

/-- Binds an element to a slot, in place of the one that it is bound to. -/
def changeBinding (s : Session) (element : String) (slot : Nat) :
    Logged (Except CommandError Unit × Session) :=
  match s.registry.get? element with
  | none => do
    let e := CommandError.unknownElement element
    Logged.say .warn .session s!"change_binding: {e.message}"
    return (.error e, s)
  | some id => do
    let (bound, slots, canvas) ← s.slots.changeBinding s.stage.canvas id slot
    return (if bound then .ok () else .error (.unknownSlot slot), s.withSlots slots canvas)

/-- Binds the element at a place of a slot's bindings to another slot. -/
def moveBinding (s : Session) (source target place : Nat) : Logged (Bool × Session) := do
  let (moved, slots, canvas) ← s.slots.moveBinding s.stage.canvas source target place
  return (moved, s.withSlots slots canvas)

/-- Takes an element off its slot, and tells whether it was bound. -/
def unbind (s : Session) (element : String) : Bool × Session :=
  match s.registry.get? element with
  | none => (false, s)
  | some id =>
    let (removed, slots, canvas) := s.slots.unbind s.stage.canvas id
    (removed, s.withSlots slots canvas)

end Uiml.Session
