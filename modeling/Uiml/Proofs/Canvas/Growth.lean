import Uiml.Proofs.Canvas.Change
import Uiml.Proofs.Session.Reach
import Uiml.Proofs.Slot.Binding

/-!
# The life of a canvas

A canvas is changed, has its widgets bound to slots, grows by widgets, has nodes made and taken back
where an element cannot be built, and is cleared. Whatever each of these steps preserves is
preserved by all that slots do and by the compiling of documents.

## Main definitions

* `Canvas.cleared` — the canvas without widgets, of which only the root is left
* `Canvas.Step`, `Canvas.Steps` — one step of the life of a canvas, and sequences of them
* `Canvas.Link`, `Canvas.Links` — the steps that bind widgets to slots

## Main results

* `Slots.bind_links`, `Slots.moveBinding_links`, … — what slots do to a canvas
* `Session.clear_value` — what the clearing does, in one go
* `Workbench.compileAll_steps` — what compiling elements does to a canvas
-/

namespace Uiml

open Relation

/-- The canvas without widgets, and without any node but the root. -/
def Canvas.cleared (canvas : Canvas) : Canvas := ⟨canvas.scene.destroy Scene.root, #[]⟩

/-- One step of the life of a canvas. -/
inductive Canvas.Step (canvas : Canvas) : Canvas → Prop
  | change {id : WidgetId} {canvas' : Canvas} (h : Change id canvas canvas') : Step canvas canvas'
  | slot (id : WidgetId) (slot : Option Nat) : Step canvas (canvas.setSlot id slot)
  | build (parent : NodeId) (name : String) (kind : Element.Kind) (outfit : Outfit)
      (blueprint : Blueprint) (group : Option GroupRef) :
      Step canvas (canvas.build parent name kind outfit blueprint group)
  | discard (parent : NodeId) (name : String) : Step canvas (canvas.discard parent name)
  | clear : Step canvas canvas.cleared

/-- One step of binding a widget: it takes note of its slot, or shows what the slot holds. -/
inductive Canvas.Link (canvas : Canvas) : Canvas → Prop
  | slot (id : WidgetId) (slot : Option Nat) : Link canvas (canvas.setSlot id slot)
  | display {id : WidgetId} {canvas' : Canvas} (h : Display id canvas canvas') : Link canvas canvas'

/-- A sequence of steps that bind widgets. -/
abbrev Canvas.Links : Canvas → Canvas → Prop := ReflTransGen Canvas.Link

/-- A sequence of steps. -/
abbrev Canvas.Steps : Canvas → Canvas → Prop := ReflTransGen Canvas.Step

theorem Canvas.Changes.steps {canvas canvas' : Canvas} (h : Canvas.Changes canvas canvas') :
    Canvas.Steps canvas canvas' :=
  ReflTransGen.mono (fun _ _ ⟨_, hchange⟩ => .change hchange) _ _ h

theorem Canvas.Displays.links {canvas canvas' : Canvas} (h : Canvas.Displays canvas canvas') :
    Canvas.Links canvas canvas' :=
  ReflTransGen.mono (fun _ _ ⟨_, hdisplay⟩ => .display hdisplay) _ _ h

theorem Canvas.Link.step {canvas canvas' : Canvas} (h : Canvas.Link canvas canvas') :
    Canvas.Step canvas canvas' := by
  cases h with
  | slot id slot => exact .slot id slot
  | display hdisplay => exact .change hdisplay.change

theorem Canvas.Links.steps {canvas canvas' : Canvas} (h : Canvas.Links canvas canvas') :
    Canvas.Steps canvas canvas' :=
  ReflTransGen.mono (fun _ _ hlink => hlink.step) _ _ h

namespace Slots

variable (board : Slots) (canvas : Canvas) (index : Nat) (id : WidgetId)

theorem unbind_links : Canvas.Links canvas (board.unbind canvas id).2.2 :=
  unbind_canvas board canvas id ▸ .single (.slot id none)

theorem bind_links : Canvas.Links canvas (board.bind canvas index id).value.2.2 := by
  cases hslot : board.slot? index with
  | none =>
    rw [bind_of_slot?_eq_none hslot]
  | some slot =>
    cases hid : canvas.widget? id with
    | none =>
      rw [bind_of_widget?_eq_none hslot hid]
      exact board.unbind_links canvas id
    | some h =>
      rw [bind_of_widget? hslot hid]
      exact ((ReflTransGen.single (.slot id none)).tail (.slot id (some index))).trans
        (Canvas.showContent_displays _ id slot).links

theorem changeBinding_links :
    Canvas.Links canvas (board.changeBinding canvas id index).value.2.2 :=
  (board.unbind_links canvas id).trans (bind_links _ _ index id)

theorem moveBinding_links (source target place : Nat) :
    Canvas.Links canvas (board.moveBinding canvas source target place).value.2.2 := by
  rcases board.moveBinding_cases canvas source target place with h | ⟨_, id, _, -, -, -, h⟩
  · rw [h]
  · rw [h]
    exact board.bind_links canvas target id

end Slots

/-- What the clearing does. That widgets with names are taken off their slots first is not seen
afterwards. -/
theorem Session.clear_value (s : Session) : s.clear.value =
    { s with
      stage := ⟨s.stage.canvas.cleared, s.stage.animator.clear⟩
      registry := {}
      slots := s.slots.clearBindings
      loaded := false } := by
  have hunbound (ids : List WidgetId) (state : Slots × Canvas) :
      let unbound := ids.foldl
        (fun (state : Slots × Canvas) id => (state.1.unbind state.2 id).2) state
      unbound.2.scene = state.2.scene ∧ unbound.1.clearBindings = state.1.clearBindings := by
    induction ids generalizing state with
    | nil => exact ⟨rfl, rfl⟩
    | cons id ids ih =>
      obtain ⟨hscene, hslots⟩ := ih (state.1.unbind state.2 id).2
      refine ⟨hscene.trans ?_, hslots.trans (state.1.clearBindings_unbind state.2 id)⟩
      rw [Slots.unbind_canvas]
      rfl
  obtain ⟨hscene, hslots⟩ := hunbound s.registry.ids (s.slots, s.stage.canvas)
  change ({ s with
    stage := ⟨⟨Scene.destroy _ Scene.root, #[]⟩, s.stage.animator.clear⟩
    registry := {}
    slots := Slots.clearBindings _
    loaded := false } : Session) = _
  rw [hscene, hslots]
  rfl

/-- A visit takes at most one step that makes a node, and the changes of a binding. -/
theorem Workbench.Visit.steps {bench : Workbench} {canvas : Canvas} {slots : Slots}
    {registry : Registry} (h : bench.Visit canvas slots registry) :
    Canvas.Steps bench.canvas canvas := by
  cases h with
  | passed => exact .refl
  | discarded parent name => exact .single (.discard parent name)
  | built parent name kind outfit blueprint group => exact .single (.build ..)
  | bound parent name kind outfit blueprint group index hbind =>
    subst hbind
    exact (ReflTransGen.single (.build parent name kind outfit blueprint group)).trans
      (Slots.bind_links _ _ index _).steps

theorem Workbench.compileAll_steps {theme : Theme} {bench bench' : Workbench} {parent : NodeId}
    {es : List Element} (h : (compileAll theme bench parent es).run.value = .ok bench') :
    Canvas.Steps bench.canvas bench'.canvas :=
  compileAll_induction (p := fun between => Canvas.Steps bench.canvas between.canvas)
    (fun hvisit hsteps => hsteps.trans (visit_spec hvisit).steps) es h .refl

end Uiml
