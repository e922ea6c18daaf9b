import Uiml.Clock
import Uiml.Slot.Basic

/-!
# The content of slots

A text is shown at once on the widgets bound to its slot. A picture is requested, and its outcome
is applied later; every outcome counts, also one that comes after that of a newer request.

## Main definitions

* `Slots.setText` — gives a slot a text
* `Slots.request`, `Slots.finish` — asks for a picture, and fetches it
* `Slots.poll`, `Slots.wait` — apply the outcomes that have come
-/

namespace Uiml.Slots

/-- Shows a text on one of a slot's widgets, and counts those on which it can be seen. -/
def showTextOn (index : Nat) (text : String) (state : Nat × Canvas) (id : WidgetId) :
    Logged (Nat × Canvas) :=
  match state.2.widget? id with
  | none => pure state
  | some h =>
    let (shown, canvas) := state.2.showText id text
    if shown then pure (state.1 + 1, canvas)
    else do
      Logged.say .debug .resources s!"slot {index}: '{h.name}' has no text surface"
      pure (state.1, canvas)

/-- Gives a slot a text, shows it on the slot's widgets, and tells on how many. -/
def setText (board : Slots) (canvas : Canvas) (index : Nat) (text : String) :
    Logged (Nat × Slots × Canvas) := do
  match ← board.lookUp "set_text" index with
  | none => return (0, board, canvas)
  | some slot =>
    let (count, canvas) ← slot.bindings.foldlM (showTextOn index text) (0, canvas)
    return (count,
      board.modify index fun slot =>
        { slot with kind := .text, text := some text, state := .loaded },
      canvas)

/-- Requests a picture for a slot, and tells the number of the request. -/
def request (board : Slots) (index : Nat) (source : String) (kind : SourceKind) :
    Logged (Option Nat × Slots) := do
  match ← board.lookUp "load_image" index with
  | none => return (none, board)
  | some _ =>
    let number := board.lastRequest + 1
    Logged.say .debug .resources
      s!"slot {index}: loading {Text.quote source} as {kind.label} (request {number})"
    let board := board.modify index fun slot =>
      { slot with
        kind := .image, latestRequest := number, inFlight := slot.inFlight + 1, state := .loading }
    return (some number,
      { board with
        inFlight := board.inFlight + 1
        lastRequest := number
        held := board.held ++ [⟨number, index, source, kind⟩] })

/-- Fetches the picture of a request from what is there now; `false` if no such request is held. The
outcome is not applied yet. -/
def finish (board : Slots) (number : Nat) : Bool × Slots :=
  match board.held.find? fun request => request.number = number with
  | none => (false, board)
  | some request =>
    let board := { board with held := board.held.filter fun r => r.number ≠ number }
    match board.assets.picture request.kind request.source with
    | some result => (true, { board with arrived := board.arrived ++ [⟨request, result⟩] })
    | none => (true, { board with stuck := board.stuck ++ [request] })

/-- The load state of a slot after an outcome. -/
def stateAfter (slot : Slot) : Slot.LoadState :=
  if 0 < slot.inFlight then .loading
  else if slot.image.isSome then .loaded
  else .unloaded

/-- Applies an outcome: a picture is shown on the slot's widgets. -/
def applyOutcome (board : Slots) (canvas : Canvas) (outcome : ImageOutcome) :
    Logged (Slots × Canvas) := do
  let request := outcome.request
  let index := request.slot
  let board := { board with inFlight := board.inFlight - 1 }
  match board.slot? index with
  | none => return (board, canvas)
  | some slot =>
    let slot := { slot with inFlight := slot.inFlight - 1 }
    Logged.sayIf (request.number < slot.latestRequest) .debug .resources
      (s!"slot {index}: request {request.number} resolved after newer request " ++
        s!"{slot.latestRequest}; applying it anyway")
    let shown := Text.quote request.source
    match outcome.result with
    | .ok image =>
      Logged.say .info .resources s!"slot {index}: loaded {shown} ({image.width}x{image.height})"
      let slot := { slot with image := some image, source := some request.source }
      return (board.modify index fun _ => { slot with state := stateAfter slot },
        slot.bindings.foldl (fun canvas id => (canvas.showImage id image).2) canvas)
    | .error e =>
      Logged.say .error .resources s!"slot {index}: failed to load {shown}: {e.message}"
      return (board.modify index fun _ => { slot with state := stateAfter slot }, canvas)

/-- Applies all outcomes that have come, in their order, and tells how many. -/
def poll (board : Slots) (canvas : Canvas) : Logged (Nat × Slots × Canvas) := do
  let ready := board.arrived
  let (board, canvas) ← ready.foldlM
    (fun state outcome => applyOutcome state.1 state.2 outcome)
    ({ board with arrived := [] }, canvas)
  return (ready.length, board, canvas)

/-- Applies all outcomes that have come, and warns if that leaves requests without an outcome, for
which there is no time left. -/
def wait (board : Slots) (canvas : Canvas) (timeout : Span) : Logged (Nat × Slots × Canvas) := do
  let (applied, board, canvas) ← board.poll canvas
  Logged.sayIf (0 < board.inFlight) .warn .resources
    s!"{board.inFlight} image load(s) still pending after {timeout.describe}"
  return (applied, board, canvas)

end Uiml.Slots
