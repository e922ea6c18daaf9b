import Uiml.Proofs.Canvas.Widget
import Uiml.Session.Operations

/-!
# The outcomes of binding

What each of the operations that bind widgets to slots comes to, case by case: whether there is such
a slot and such a widget decides the outcome.

## Main results

* `Slots.unbind_of_slot?`, `Slots.unbind_of_none` — a widget that knows of its slot, or of none
* `Slots.bind_of_widget?` — the one case in which a widget is bound
* `Slots.moveBinding_cases` — moving a binding is binding the widget, or nothing
-/

namespace Uiml

namespace Slots

variable {board : Slots} {canvas : Canvas} {id : WidgetId} {index i : Nat} {slot : Slot}
  {h : Handle}

@[simp] theorem slot?_modify (f : Slot → Slot) : (board.modify index f).slot? i =
    if i = index then (board.slot? i).map f else board.slot? i := by
  simp only [slot?, modify, Array.getElem?_modify, eq_comm (a := i)]

@[simp] theorem slot?_map (f : Slot → Slot) :
    ({ board with slots := board.slots.map f } : Slots).slot? i = (board.slot? i).map f := by
  simp [slot?]

theorem slot?_eq_getElem {i : Nat} (hi : i < board.slots.toList.length) :
    board.slot? i = some board.slots.toList[i] := by
  rw [slot?, ← Array.getElem?_toList, List.getElem?_eq_getElem hi]

theorem lookUp_value (operation : String) :
    (board.lookUp operation index).value = board.slot? index := by
  rw [lookUp]
  cases board.slot? index <;> rfl

/-- Whatever is taken off which slot, the widget knows of none afterwards. -/
theorem unbind_canvas (board : Slots) (canvas : Canvas) (id : WidgetId) :
    (board.unbind canvas id).2.2 = canvas.setSlot id none := by
  rw [unbind]
  split <;> rfl

/-- A widget that knows of its slot is taken off that one. -/
theorem unbind_of_slot? (hrecorded : (canvas.widget? id).bind Handle.slot = some index)
    (hslot : board.slot? index = some slot) :
    board.unbind canvas id =
      (slot.bindings.contains id, board.modify index (·.release id), canvas.setSlot id none) := by
  rw [unbind]
  simp only [hrecorded, hslot, Option.bind_some, Option.map_some]

/-- A widget that knows of no slot is taken off all of them. -/
theorem unbind_of_none (hrecorded : (canvas.widget? id).bind Handle.slot = none) :
    board.unbind canvas id =
      (board.slots.any fun slot => slot.bindings.contains id,
        { board with slots := board.slots.map (·.release id) }, canvas.setSlot id none) := by
  rw [unbind]
  simp only [hrecorded, Option.bind_none]

/-- What widgets are taken off which slots does not matter if all of them are taken off. -/
theorem clearBindings_unbind (board : Slots) (canvas : Canvas) (id : WidgetId) :
    (board.unbind canvas id).2.1.clearBindings = board.clearBindings := by
  rw [unbind]
  split
  · next index slot _ =>
    have hslots : (board.slots.modify index (·.release id)).map (fun slot : Slot =>
        { slot with bindings := [] }) = board.slots.map fun slot => { slot with bindings := [] } := by
      refine Array.ext_getElem? fun i => ?_
      rw [Array.getElem?_map, Array.getElem?_map, Array.getElem?_modify]
      split
      · rw [Option.map_map]
        rfl
      · rfl
    simp only [clearBindings, modify, hslots]
  · simp only [clearBindings, Array.map_map]
    rfl

theorem bind_of_slot?_eq_none (hslot : board.slot? index = none) :
    (board.bind canvas index id).value = (false, board, canvas) := by
  rw [bind, Logged.bind_value, lookUp_value, hslot]
  rfl

theorem bind_of_widget?_eq_none (hslot : board.slot? index = some slot)
    (hid : canvas.widget? id = none) :
    (board.bind canvas index id).value = (false, (board.unbind canvas id).2) := by
  have hunbound : (board.unbind canvas id).2.2.widget? id = none := by
    rw [unbind_canvas, Canvas.setSlot, Canvas.widget?_modifyWidget, if_pos rfl, hid]
    rfl
  rw [bind, Logged.bind_value, lookUp_value, hslot]
  simp only [hunbound]
  rfl

/-- Where there are such a slot and such a widget, the widget is taken off its slot, is put at the
end of the other's bindings, and shows its content. -/
theorem bind_of_widget? (hslot : board.slot? index = some slot)
    (hid : canvas.widget? id = some h) :
    (board.bind canvas index id).value =
      (true, (board.unbind canvas id).2.1.modify index (·.accept id { h with slot := none }),
        ((canvas.setSlot id none).setSlot id (some index)).showContent id slot) := by
  have hunbound : (board.unbind canvas id).2.2.widget? id = some { h with slot := none } := by
    rw [unbind_canvas, Canvas.setSlot, Canvas.widget?_modifyWidget, if_pos rfl, hid]
    rfl
  rw [bind, Logged.bind_value, lookUp_value, hslot]
  simp only [hunbound]
  rw [← unbind_canvas board]
  rfl

theorem changeBinding_value : (board.changeBinding canvas id index).value =
    ((board.unbind canvas id).2.1.bind (board.unbind canvas id).2.2 index id).value := rfl

/-- Moving a binding is binding the widget at the place, if there are such a place and such a slot;
else nothing happens. -/
theorem moveBinding_cases (board : Slots) (canvas : Canvas) (source target place : Nat) :
    (board.moveBinding canvas source target place).value = (false, board, canvas) ∨
      ∃ slot id slot', board.slot? source = some slot ∧ slot.bindings[place]? = some id ∧
        board.slot? target = some slot' ∧
        (board.moveBinding canvas source target place).value =
          (board.bind canvas target id).value := by
  rw [moveBinding, Logged.bind_value, lookUp_value]
  cases htarget : board.slot? target with
  | none => exact .inl rfl
  | some slot' =>
    simp only [Logged.bind_value, lookUp_value]
    cases hsource : board.slot? source with
    | none => exact .inl rfl
    | some slot =>
      simp only
      cases hplace : slot.bindings[place]? with
      | none => exact .inl rfl
      | some id => exact .inr ⟨slot, id, slot', rfl, hplace, rfl, rfl⟩

end Slots

namespace Session

variable {s : Session} {element : String} {slot : Nat} {id : WidgetId}

theorem changeBinding_of_get?_eq_none (hget : s.registry.get? element = none) :
    (s.changeBinding element slot).value = (.error (.unknownElement element), s) := by
  rw [changeBinding, hget]
  rfl

theorem changeBinding_of_get? (hget : s.registry.get? element = some id) :
    (s.changeBinding element slot).value =
      let bound := (s.slots.changeBinding s.stage.canvas id slot).value
      (if bound.1 then .ok () else .error (.unknownSlot slot),
        s.withSlots bound.2.1 bound.2.2) := by
  rw [changeBinding, hget]
  rfl

theorem unbind_of_get? (hget : s.registry.get? element = some id) :
    (s.unbind element).2 =
      s.withSlots (s.slots.unbind s.stage.canvas id).2.1
        (s.slots.unbind s.stage.canvas id).2.2 := by
  rw [unbind, hget]

theorem unbind_of_get?_eq_none (hget : s.registry.get? element = none) :
    (s.unbind element).2 = s := by
  rw [unbind, hget]

end Session

end Uiml
