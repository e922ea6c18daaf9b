import Uiml.Proofs.Canvas.Alike
import Uiml.Proofs.Slot.Stock

/-!
# Binding widgets up to a renumbering

Two boards of slots are alike if their slots have the same contents, except that hidden slots of the
first have none. A widget that is bound in two canvases that are alike shows the same content in
both, unless it is bound to a hidden slot. What a binding does to the board depends on the widget,
but not on its nodes.

## Main definitions

* `Slots.Alike` — two boards have the same contents, except in hidden slots

## Main results

* `Canvas.Alike.bind` — a widget is bound in both canvases
* `Canvas.Alike.bind_slots` — the same board is left by a binding
-/

namespace Uiml

namespace Slots

/-- The slots of two boards have the same contents, except for the hidden ones, which have none in
the first. -/
structure Alike (hidden : Nat → Prop) (board board' : Slots) : Prop where
  seen : ∀ {index}, ¬ hidden index → board'.content? index = board.content? index
  hidden : ∀ {index}, hidden index →
    board.content? index = some (none, none) ∧ (board'.content? index).isSome = true

variable {board board' : Slots} {canvas canvas' : Canvas} {index : Nat} {id : WidgetId}

theorem Alike.isSome_slot? {hidden : Nat → Prop} (hboard : board.Alike hidden board')
    (index : Nat) : (board'.slot? index).isSome = (board.slot? index).isSome := by
  by_cases hindex : hidden index
  · obtain ⟨hnone, hsome⟩ := hboard.hidden hindex
    have hsome' := congrArg Option.isSome hnone
    rw [content?, Option.isSome_map] at hsome hsome'
    exact hsome.trans hsome'.symm
  · have heq := congrArg Option.isSome (hboard.seen hindex)
    rwa [content?, content?, Option.isSome_map, Option.isSome_map] at heq

theorem Alike.bind {hidden : Nat → Prop} (hboard : board.Alike hidden board') (index : Nat)
    (id : WidgetId) :
    (board.bind canvas index id).value.2.1.Alike hidden
      (board'.bind canvas' index id).value.2.1 where
  seen := fun hseen => by
    rw [content?_bind, content?_bind]
    exact hboard.seen hseen
  hidden := fun hhidden => by
    rw [content?_bind, content?_bind]
    exact hboard.hidden hhidden

end Slots

namespace Canvas.Alike

variable {f : NodeId → NodeId} {hidden : Nat → Prop} {canvas canvas' : Canvas} {id : WidgetId}
  {board board' : Slots}

/-- Slots with the same content are shown alike. -/
theorem showContent (hc : canvas.Alike f hidden canvas') (id : WidgetId) {slot slot' : Slot}
    (hcontent : slot'.content = slot.content) :
    (canvas.showContent id slot).Alike f hidden (canvas'.showContent id slot') := by
  obtain ⟨htext, himage⟩ := Prod.mk.inj hcontent
  rw [Canvas.showContent, Canvas.showContent, htext, himage]
  cases slot.text with
  | none =>
    cases slot.image with
    | none => exact hc
    | some image => exact hc.showImage id image
  | some text =>
    cases slot.image with
    | none => exact hc.showText id text
    | some image => exact (hc.showText id text).showImage id image

/-- A hidden widget may show the content of a slot in one canvas only. -/
theorem overwriteContent (hc : canvas.Alike f hidden canvas') {h : Handle}
    (hid : canvas.widget? id = some h) (hhidden : h.IsHidden hidden) (slot : Slot) :
    canvas.Alike f hidden (canvas'.showContent id slot) := by
  rw [Canvas.showContent]
  cases slot.text with
  | none =>
    cases slot.image with
    | none => exact hc
    | some image => exact hc.overwriteImage hid hhidden image
  | some text =>
    cases slot.image with
    | none => exact hc.overwriteText hid hhidden text
    | some image => exact (hc.overwriteText hid hhidden text).overwriteImage hid hhidden image

/-- A widget that has just been bound to a slot shows its content in both canvases. -/
theorem showSlot (hc : canvas.Alike f hidden canvas') (hboard : board.Alike hidden board')
    {index : Nat} {slot slot' : Slot} (hslot : board.slot? index = some slot)
    (hslot' : board'.slot? index = some slot') {h : Handle} (hid : canvas.widget? id = some h)
    (hbound : h.slot = some index) :
    (canvas.showContent id slot).Alike f hidden (canvas'.showContent id slot') := by
  by_cases hindex : hidden index
  · -- there is a content on the right only, and the widget is hidden
    obtain ⟨hnone, -⟩ := hboard.hidden hindex
    rw [Slots.content?, hslot] at hnone
    obtain ⟨htext, himage⟩ := Prod.mk.inj (Option.some.inj hnone)
    have hshown := hc.overwriteContent hid ⟨index, hbound, hindex⟩ slot'
    rwa [Canvas.showContent, htext, himage]
  · have hcontent := hboard.seen hindex
    rw [Slots.content?, Slots.content?, hslot, hslot'] at hcontent
    exact hc.showContent id (Option.some.inj hcontent)

/-- A widget that is not hidden is bound in both canvases. -/
theorem bind (hc : canvas.Alike f hidden canvas') (hboard : board.Alike hidden board')
    (hseen : ∀ h, canvas.widget? id = some h → ¬ h.IsHidden hidden) (index : Nat) :
    (board.bind canvas index id).value.2.2.Alike f hidden
      (board'.bind canvas' index id).value.2.2 := by
  have hslots := hboard.isSome_slot? index
  cases hslot : board.slot? index <;> cases hslot' : board'.slot? index <;>
    rw [hslot, hslot'] at hslots
  case none.none =>
    rw [Slots.bind_of_slot?_eq_none hslot, Slots.bind_of_slot?_eq_none hslot']
    exact hc
  case none.some => cases hslots
  case some.none => cases hslots
  case some.some slot slot' =>
    have hfree := hc.setSlot hseen none
    cases hid : canvas.widget? id with
    | none =>
      rw [Slots.bind_of_widget?_eq_none hslot hid,
        Slots.bind_of_widget?_eq_none hslot' (hc.widget?_eq_none hid), Slots.unbind_canvas,
        Slots.unbind_canvas]
      exact hfree
    | some h =>
      obtain ⟨h', hid', -⟩ := hc.exists_widget? hid
      rw [Slots.bind_of_widget? hslot hid, Slots.bind_of_widget? hslot' hid']
      -- the widget is taken off its slot before it is bound, and is not hidden in between
      have hfreed : (canvas.setSlot id none).widget? id = some { h with slot := none } := by
        rw [Canvas.setSlot, widget?_modifyWidget, if_pos rfl, hid, Option.map_some]
      have hseen' : ∀ w, (canvas.setSlot id none).widget? id = some w → ¬ w.IsHidden hidden := by
        intro w hw
        rw [Option.some.inj (hw.symm.trans hfreed)]
        rintro ⟨_, ⟨⟩, -⟩
      have hbound : ((canvas.setSlot id none).setSlot id (some index)).widget? id =
          some { h with slot := some index } := by
        rw [Canvas.setSlot, widget?_modifyWidget, if_pos rfl, hfreed, Option.map_some]
      exact (hfree.setSlot hseen' (some index)).showSlot hboard hslot hslot' hbound rfl

/-- The same board is left by a binding. -/
theorem bind_slots (hc : canvas.Alike f hidden canvas') (board : Slots) (index : Nat)
    (id : WidgetId) :
    (board.bind canvas' index id).value.2.1 = (board.bind canvas index id).value.2.1 := by
  cases hslot : board.slot? index with
  | none => rw [Slots.bind_of_slot?_eq_none hslot, Slots.bind_of_slot?_eq_none hslot]
  | some slot =>
    have hrecorded : (canvas'.widget? id).bind Handle.slot =
        (canvas.widget? id).bind Handle.slot := by
      cases hid : canvas.widget? id with
      | none => rw [hc.widget?_eq_none hid]
      | some h =>
        obtain ⟨h', hid', hblank⟩ := hc.exists_widget? hid
        rw [hid']
        exact (congrArg Handle.slot hblank :)
    have hunbind : (board.unbind canvas' id).2.1 = (board.unbind canvas id).2.1 := by
      rw [Slots.unbind, Slots.unbind, hrecorded]
      split <;> rfl
    cases hid : canvas.widget? id with
    | none =>
      rw [Slots.bind_of_widget?_eq_none hslot hid,
        Slots.bind_of_widget?_eq_none hslot (hc.widget?_eq_none hid)]
      exact hunbind
    | some h =>
      obtain ⟨h', hid', hblank⟩ := hc.exists_widget? hid
      have htext : h'.textSurface = h.textSurface.map f := (congrArg Handle.textSurface hblank :)
      have himage : h'.imageSurface = h.imageSurface.map f :=
        (congrArg Handle.imageSurface hblank :)
      -- what a slot becomes for does not depend on which nodes show a content
      have hkind : h'.slotKind = h.slotKind := by
        rw [Handle.slotKind, Handle.slotKind, htext, himage, Option.isSome_map, Option.isSome_map]
      have haccept : (·.accept id { h' with slot := none } : Slot → Slot) =
          (·.accept id { h with slot := none }) := by
        funext slot
        exact congrArg (fun kind : Slot.Kind => ({ slot with
          bindings := slot.bindings ++ [id]
          kind := if slot.kind = .unbound then kind else slot.kind } : Slot)) hkind
      rw [Slots.bind_of_widget? hslot hid, Slots.bind_of_widget? hslot hid', hunbind, haccept]

end Canvas.Alike

end Uiml
