import Uiml.Slot.Basic

/-!
# Binding widgets to slots

A widget is bound to at most one slot, and shows its content. Slots and widgets know of each other:
a slot lists its widgets, and a widget has the number of its slot.

## Main definitions

* `Slots.bind`, `Slots.unbind` — the two ways in which the bindings of a widget change
* `Slots.changeBinding`, `Slots.moveBinding` — binding a widget elsewhere
-/

namespace Uiml

/-- What a slot becomes for when a widget is the first to be bound to it. -/
def Handle.slotKind (h : Handle) : Slot.Kind :=
  if h.textSurface.isSome then .text
  else if h.imageSurface.isSome then .image
  else .unbound

namespace Slot

/-- The slot without a widget. -/
def release (slot : Slot) (id : WidgetId) : Slot :=
  { slot with bindings := slot.bindings.filter (· ≠ id) }

/-- The slot with one more widget. -/
def accept (slot : Slot) (id : WidgetId) (h : Handle) : Slot :=
  { slot with
    bindings := slot.bindings ++ [id]
    kind := if slot.kind = .unbound then h.slotKind else slot.kind }

end Slot

/-- Shows the content of a slot on a widget. -/
def Canvas.showContent (canvas : Canvas) (id : WidgetId) (slot : Slot) : Canvas :=
  let canvas :=
    match slot.text with
    | some text => (canvas.showText id text).2
    | none => canvas
  match slot.image with
  | some image => (canvas.showImage id image).2
  | none => canvas

/-- The canvas with the slot of a widget recorded, or none. -/
def Canvas.setSlot (canvas : Canvas) (id : WidgetId) (slot : Option Nat) : Canvas :=
  canvas.modifyWidget id fun h => { h with slot }

namespace Slots

/-- Takes a widget off its slot, and tells whether it was bound. A widget that knows of no slot is
taken off all of them. -/
def unbind (board : Slots) (canvas : Canvas) (id : WidgetId) : Bool × Slots × Canvas :=
  let recorded := (canvas.widget? id).bind Handle.slot
  let canvas := canvas.setSlot id none
  match recorded.bind fun index => (board.slot? index).map (index, ·) with
  | some (index, slot) => (slot.bindings.contains id, board.modify index (·.release id), canvas)
  | none =>
    (board.slots.any fun slot => slot.bindings.contains id,
      { board with slots := board.slots.map (·.release id) }, canvas)

/-- Binds a widget to a slot, takes it off any other, and shows the slot's content on it. Tells
whether there are such a slot and such a widget. -/
def bind (board : Slots) (canvas : Canvas) (index : Nat) (id : WidgetId) :
    Logged (Bool × Slots × Canvas) := do
  match ← board.lookUp "bind" index with
  | none => return (false, board, canvas)
  | some slot =>
    let (_, board, canvas) := board.unbind canvas id
    match canvas.widget? id with
    | none =>
      Logged.say .warn .resources s!"bind: no widget {id.describe}"
      return (false, board, canvas)
    | some h =>
      Logged.say .debug .resources s!"bound '{h.name}' to slot {index}"
      return (true, board.modify index (·.accept id h),
        (canvas.setSlot id (some index)).showContent id slot)

/-- Takes a widget off its slot and binds it to another. -/
def changeBinding (board : Slots) (canvas : Canvas) (id : WidgetId) (index : Nat) :
    Logged (Bool × Slots × Canvas) :=
  let (_, board, canvas) := board.unbind canvas id
  board.bind canvas index id

/-- Binds the widget at a place of a slot's bindings to another slot. -/
def moveBinding (board : Slots) (canvas : Canvas) (source target place : Nat) :
    Logged (Bool × Slots × Canvas) := do
  match ← board.lookUp "move_binding" target with
  | none => return (false, board, canvas)
  | some _ =>
    match ← board.lookUp "move_binding" source with
    | none => return (false, board, canvas)
    | some slot =>
      match slot.bindings[place]? with
      | some id => board.bind canvas target id
      | none =>
        Logged.say .warn .resources s!"move_binding: slot {source} has no binding #{place}"
        return (false, board, canvas)

/-- Takes all widgets off all slots. What the widgets know of their slots is not touched. -/
def clearBindings (board : Slots) : Slots :=
  { board with slots := board.slots.map fun slot => { slot with bindings := [] } }

end Slots

end Uiml
