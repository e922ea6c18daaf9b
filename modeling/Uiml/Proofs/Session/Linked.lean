import Uiml.Proofs.Scene.Component
import Uiml.Proofs.Session.Turn
import Uiml.Proofs.Slot.Consistent

/-!
# The bindings of a session

In a reachable session slots and widgets know of each other, and names lead to widgets. So an
attempt to bind that fails has found no slot, and has left everything as it was — but for
`Session.changeBinding`, which takes the element off its slot before it looks for the other one.

## Main definitions

* `Linked` — slots and widgets know of each other, and names lead to widgets

## Main results

* `Session.Reachable.isLinked` — reachable sessions are linked
* `Session.Reachable.bindings_agree` — a slot lists just the widgets that know of it
* `Session.Reachable.failed_binding` — what a failed binding leaves, and when that is all there was
-/

namespace Uiml

/-- Slots and widgets know of each other, and every name leads to a widget. -/
structure Linked (slots : Slots) (canvas : Canvas) (registry : Registry) : Prop where
  consistent : slots.Consistent canvas
  named : ∀ {name id}, registry.get? name = some id → (canvas.widget? id).isSome = true

/-- The widgets that were there are there. -/
def Canvas.KeepsWidgets (canvas canvas' : Canvas) : Prop :=
  ∀ j, (canvas.widget? j).isSome = true → (canvas'.widget? j).isSome = true

namespace Canvas

variable {canvas canvas' canvas'' : Canvas} {id : WidgetId}

theorem KeepsWidgets.trans (h : KeepsWidgets canvas canvas') (h' : KeepsWidgets canvas' canvas'') :
    KeepsWidgets canvas canvas'' := fun j hj => h' j (h j hj)

theorem KeepsSlots.keepsWidgets (h : KeepsSlots canvas canvas') : KeepsWidgets canvas canvas' := by
  intro j hj
  obtain ⟨old, hold⟩ := Option.isSome_iff_exists.mp hj
  obtain ⟨new, hnew, -⟩ := h.widget? hold
  rw [hnew, Option.isSome_some]

theorem Link.keepsWidgets (h : Link canvas canvas') : KeepsWidgets canvas canvas' := by
  cases h with
  | slot id slot =>
    intro j hj
    rw [widget?_setSlot]
    split
    · rwa [Option.isSome_map]
    · exact hj
  | display hdisplay => exact hdisplay.change.keepsSlots.keepsWidgets

theorem Links.keepsWidgets (h : Links canvas canvas') : KeepsWidgets canvas canvas' :=
  reflTransGen_preserves (p := KeepsWidgets canvas)
    (fun hlink hkeeps => hkeeps.trans hlink.keepsWidgets) h fun _ hj => hj

end Canvas

/-- A visit takes no widget away. -/
theorem Workbench.Visit.keepsWidgets {bench : Workbench} {canvas : Canvas} {slots : Slots}
    {registry : Registry} (h : bench.Visit canvas slots registry) :
    bench.canvas.KeepsWidgets canvas := by
  have hbuilt (parent : NodeId) (name : String) (kind : Element.Kind) (outfit : Outfit)
      (blueprint : Blueprint) (group : Option GroupRef) : bench.canvas.KeepsWidgets
        (bench.canvas.build parent name kind outfit blueprint group) := by
    intro j hj
    rw [Canvas.widget?_build]
    split
    · rfl
    · exact hj
  cases h with
  | passed => exact fun _ hj => hj
  | discarded parent name => exact fun _ hj => hj
  | built parent name kind outfit blueprint group =>
    exact hbuilt parent name kind outfit blueprint group
  | bound parent name kind outfit blueprint group index hbind =>
    subst hbind
    exact (hbuilt parent name kind outfit blueprint group).trans
      (bench.slots.bind_links _ index _).keepsWidgets

theorem Workbench.compileAll_keepsWidgets {theme : Theme} {bench bench' : Workbench}
    {parent : NodeId} {es : List Element}
    (h : (compileAll theme bench parent es).run.value = .ok bench') :
    bench.canvas.KeepsWidgets bench'.canvas :=
  compileAll_induction (p := fun between => bench.canvas.KeepsWidgets between.canvas)
    (fun hvisit hkeeps => hkeeps.trans (visit_spec hvisit).keepsWidgets) es h fun _ hj => hj

/-! ### Every operation keeps a session linked -/

namespace Linked

variable {slots slots' : Slots} {canvas canvas' : Canvas} {registry : Registry}

theorem keep (hl : Linked slots canvas registry) (hslots : slots.KeepsBindings slots')
    (hcanvas : canvas.KeepsSlots canvas') : Linked slots' canvas' registry where
  consistent := hl.consistent.keep hslots hcanvas
  named := fun hname => hcanvas.keepsWidgets _ (hl.named hname)

theorem unbind (hl : Linked slots canvas registry) (id : WidgetId) :
    Linked (slots.unbind canvas id).2.1 (slots.unbind canvas id).2.2 registry where
  consistent := hl.consistent.unbind id
  named := fun hname => (slots.unbind_links canvas id).keepsWidgets _ (hl.named hname)

theorem bind (hl : Linked slots canvas registry) (index : Nat) (id : WidgetId) :
    Linked (slots.bind canvas index id).value.2.1 (slots.bind canvas index id).value.2.2
      registry where
  consistent := hl.consistent.bind index id
  named := fun hname => (slots.bind_links canvas index id).keepsWidgets _ (hl.named hname)

theorem rebinds (hl : Linked slots canvas registry)
    (h : Slots.Rebinds (slots, canvas) (slots', canvas')) : Linked slots' canvas' registry :=
  reflTransGen_preserves (p := fun state : Slots × Canvas => Linked state.1 state.2 registry)
    (fun hstep hl => by
      cases hstep with
      | unbind slots canvas id => exact hl.unbind id
      | bind slots canvas index id => exact hl.bind index id) h hl

/-- A new widget knows of no slot, and has the name that is put into the registry for it. -/
theorem build (hl : Linked slots canvas registry) (parent : NodeId) (name : String)
    (kind : Element.Kind) (outfit : Outfit) (blueprint : Blueprint) (group : Option GroupRef) :
    Linked slots (canvas.build parent name kind outfit blueprint group)
      (registry.insert name kind ⟨canvas.widgets.size⟩).2 := by
  have hold : ∀ {j h}, canvas.widget? j = some h →
      (canvas.build parent name kind outfit blueprint group).widget? j = some h := by
    intro j h hj
    have hne : j ≠ ⟨canvas.widgets.size⟩ := Canvas.ne_next (Canvas.widget?_lt hj)
    rw [Canvas.widget?_build, if_neg hne, hj]
  refine ⟨⟨fun hslot hmem => ?_, fun hj hrecorded => ?_, hl.consistent.nodup⟩, fun hname => ?_⟩
  · obtain ⟨h, hj, hrecorded⟩ := hl.consistent.listed hslot hmem
    exact ⟨h, hold hj, hrecorded⟩
  · rw [Canvas.widget?_build] at hj
    split at hj
    · cases hj
      cases hrecorded
    · exact hl.consistent.recorded hj hrecorded
  · -- the name is that of the new widget, or it led to an old one before
    rw [Registry.insert, Registry.get?, Table.get?_insert] at hname
    split at hname
    · cases hname
      rw [Canvas.widget?_build, if_pos rfl, Option.isSome_some]
    · obtain ⟨h, hj⟩ := Option.isSome_iff_exists.mp (hl.named hname)
      rw [hold hj, Option.isSome_some]

theorem visit {bench : Workbench} (hl : Linked bench.slots bench.canvas bench.registry)
    (h : bench.Visit canvas slots registry) : Linked slots canvas registry := by
  cases h with
  | passed => exact hl
  | discarded parent name => exact ⟨⟨hl.consistent.listed, hl.consistent.recorded,
      hl.consistent.nodup⟩, hl.named⟩
  | built parent name kind outfit blueprint group =>
    exact hl.build parent name kind outfit blueprint group
  | bound parent name kind outfit blueprint group index hbind =>
    subst hbind
    exact (hl.build parent name kind outfit blueprint group).bind index _

theorem compileAll {theme : Theme} {bench bench' : Workbench} {parent : NodeId}
    {es : List Element} (hl : Linked bench.slots bench.canvas bench.registry)
    (h : (Workbench.compileAll theme bench parent es).run.value = .ok bench') :
    Linked bench'.slots bench'.canvas bench'.registry :=
  Workbench.compileAll_induction (p := fun b => Linked b.slots b.canvas b.registry)
    (fun hvisit hl => hl.visit (Workbench.visit_spec hvisit)) es h hl

/-- Where there are no widgets, no bindings and no names, nothing can be wrong with them. -/
theorem cleared (slots : Slots) (scene : Scene) : Linked slots.clearBindings ⟨scene, #[]⟩ {} where
  consistent :=
    { listed := fun hslot hmem => by
        rw [Slots.clearBindings, Slots.slot?_map] at hslot
        obtain ⟨slot, -, rfl⟩ := Option.map_eq_some_iff.mp hslot
        cases hmem
      recorded := fun hid => by simp [Canvas.widget?] at hid
      nodup := fun hslot => by
        rw [Slots.clearBindings, Slots.slot?_map] at hslot
        obtain ⟨slot, -, rfl⟩ := Option.map_eq_some_iff.mp hslot
        exact List.nodup_nil }
  named := fun hname => by cases hname

theorem compile {theme : Theme} {bench bench' : Workbench} {root : Element} {node : NodeId}
    (hl : Linked bench.slots bench.canvas bench.registry)
    (h : (bench.compile theme root node).run.value = .ok bench') :
    Linked bench'.slots bench'.canvas bench'.registry := by
  refine Linked.compileAll ?_ h
  exact hl

end Linked

namespace Session

variable {s s' : Session}

/-- The records of a session agree. -/
def IsLinked (s : Session) : Prop := Linked s.slots s.stage.canvas s.registry

theorem isLinked_new (config : Config) (files : Files) (bundles : Table String (List UInt8)) :
    (Session.new config files bundles).IsLinked := by
  have hempty : ∀ {i slot}, (Session.new config files bundles).slots.slot? i = some slot →
      slot = {} := by
    intro i slot hslot
    simp only [Session.new, Slots.new, Slots.slot?, Array.getElem?_replicate] at hslot
    split at hslot
    · exact (Option.some.inj hslot).symm
    · cases hslot
  refine ⟨⟨fun hslot hmem => ?_, fun hid => ?_, fun hslot => ?_⟩, fun hname => ?_⟩
  · rw [hempty hslot] at hmem
    cases hmem
  · simp [Session.new, Canvas.widget?] at hid
  · rw [hempty hslot]
    exact List.nodup_nil
  · cases hname

theorem IsLinked.clear (s : Session) : s.clear.value.IsLinked := Linked.cleared _ _

theorem IsLinked.clearForLoad (hs : s.IsLinked) : s.clearForLoad.value.IsLinked := by
  rw [Session.clearForLoad]
  cases s.config.clearOnLoad with
  | true => exact IsLinked.clear s
  | false => exact hs

theorem IsLinked.loading (hs : s.IsLinked) (h : Loading s s') : s'.IsLinked := by
  cases h with
  | unread => exact hs
  | refused => exact hs.clearForLoad
  | compiled root bench hbench =>
    refine Linked.compile ?_ hbench
    exact hs.clearForLoad

theorem IsLinked.changes (hs : s.IsLinked) (hslots : s.slots.KeepsBindings s'.slots)
    (hcanvas : Canvas.Changes s.stage.canvas s'.stage.canvas)
    (hregistry : s'.registry = s.registry) : s'.IsLinked := by
  rw [IsLinked, hregistry]
  exact hs.keep hslots hcanvas.keepsSlots

/-- Every operation keeps a session linked. -/
theorem IsLinked.after (hs : s.IsLinked) {op : Operation} (h : s.after op = .ok s') :
    s'.IsLinked := by
  have hrefl (slots : Slots) : slots.KeepsBindings slots := .refl slots
  have hturn := after_turn h
  cases hturn with
  | rebuilt _ hrebuilt =>
    rcases hrebuilt with rfl | hloading
    · exact IsLinked.clear s
    · exact hs.loading hloading
  | executed element command args =>
    exact hs.changes (hrefl _) (s.execute_changes element command args) rfl
  | progressed element value animate =>
    refine hs.changes ?_ (s.setProgress_changes element value animate) ?_
    · rw [setProgress]; split <;> exact hrefl _
    · rw [setProgress]; split <;> rfl
  | ticked dt => exact hs.changes Slots.poll_keepsBindings (s.tick_changes dt) rfl
  | waited timeout =>
    exact hs.changes Slots.poll_keepsBindings
      (s.slots.wait_displays s.stage.canvas timeout).changes rfl
  | texted slot text =>
    exact hs.changes (Slots.setText_keepsBindings text)
      (s.slots.setText_displays s.stage.canvas slot text).changes rfl
  | requested slot source kind =>
    exact hs.changes (Slots.request_keepsBindings source kind) .refl rfl
  | finished number => exact hs.changes (Slots.finish_keepsBindings number) .refl rfl
  | arrived number result => exact hs.changes (Slots.arrive_keepsBindings number result) .refl rfl
  | rebound _ _ hrebuilds hrebinds =>
    rw [IsLinked, after_registry h hrebuilds]
    exact Linked.rebinds hs hrebinds
  | aside _ _ hrebuilds hslots hcanvas =>
    obtain ⟨assets, hslots⟩ := hslots
    rw [IsLinked, after_registry h hrebuilds, hslots, hcanvas]
    exact hs.keep (fun _ => rfl) fun _ => rfl

theorem Reachable.isLinked (hs : Reachable s) : s.IsLinked := by
  induction hs with
  | new config files bundles => exact isLinked_new config files bundles
  | after _ hafter ih => exact ih.after hafter

/-- Slots and widgets know of each other: a slot lists just the widgets that know of it, no widget
is listed twice, and no widget knows of a slot that is not there. -/
theorem Reachable.bindings_agree (hs : Reachable s) :
    (∀ i id, (∃ slot, s.slots.slot? i = some slot ∧ id ∈ slot.bindings) ↔
        ∃ h, s.stage.widget? id = some h ∧ h.slot = some i) ∧
      (s.slots.slots.toList.flatMap Slot.bindings).Nodup ∧
      ∀ id h i, s.stage.widget? id = some h → h.slot = some i → i < s.slots.size := by
  have hc := hs.isLinked.consistent
  refine ⟨fun _ _ => hc.mem_bindings_iff, hc.nodup_bindings, fun id h i hid hrecorded => ?_⟩
  obtain ⟨slot, hslot, -⟩ := hc.recorded hid hrecorded
  exact (Array.getElem?_eq_some_iff.mp hslot).1

/-- Two texts of one name, both bound to the first slot. -/
def twoTexts : Element :=
  { tag := "UIML"
    children :=
      [{ tag := "Text", attributes := [⟨"name", "t"⟩, ⟨"bindId", "0"⟩] },
        { tag := "Text", attributes := [⟨"name", "t"⟩, ⟨"bindId", "0"⟩] }] }

/-- Of two texts of one name the first can no longer be found by it, and is still listed. -/
theorem bindings_agree_twoTexts :
    ∃ s h, (Session.new {} {} {}).after (.loadDocument twoTexts) = .ok s ∧
      s.registry.get? "t" = some ⟨1⟩ ∧ s.stage.widget? ⟨0⟩ = some h ∧ h.slot = some 0 ∧
      (∃ slot, s.slots.slot? 0 = some slot ∧ ⟨0⟩ ∈ slot.bindings) ∧
      (s.slots.slots.toList.flatMap Slot.bindings).Nodup ∧ 0 < s.slots.size := by
  have hvalue : ((Session.new {} {} {}).after (.loadDocument twoTexts)).toOption.map (fun s =>
      (s.registry.get? "t", (s.stage.widget? ⟨0⟩).map Handle.slot)) =
      some (some ⟨1⟩, some (some 0)) := by decide +kernel
  cases hafter : (Session.new {} {} {}).after (.loadDocument twoTexts) with
  | error breakdown => rw [hafter] at hvalue; cases hvalue
  | ok s =>
    rw [hafter] at hvalue
    obtain ⟨hname, hslot⟩ := Prod.mk.inj (Option.some.inj hvalue)
    obtain ⟨h, hid, hbound⟩ := Option.map_eq_some_iff.mp hslot
    obtain ⟨hiff, hnodup, hlt⟩ := Reachable.bindings_agree (.after (.new {} {} {}) hafter)
    exact ⟨s, h, rfl, hname, hid, hbound, (hiff 0 ⟨0⟩).mpr ⟨h, hid, hbound⟩, hnodup,
      hlt ⟨0⟩ h 0 hid hbound⟩

end Session

/-! ### Bindings that fail -/

theorem Canvas.setSlot_eq_self {canvas : Canvas} {id : WidgetId}
    (hfree : (canvas.widget? id).bind Handle.slot = none) : canvas.setSlot id none = canvas := by
  obtain ⟨scene, widgets⟩ := canvas
  suffices hwidgets : widgets.modify id.index (fun h => { h with slot := none }) = widgets by
    rw [setSlot, modifyWidget, hwidgets]
  refine Array.modify_eq_self fun h hid => ?_
  change (widgets[id.index]?).bind Handle.slot = none at hfree
  rw [hid, Option.bind_some] at hfree
  rw [← hfree]

namespace Slots

variable {board : Slots} {canvas : Canvas} {id : WidgetId}

/-- To unbind a widget that is not bound changes nothing. -/
theorem Consistent.unbind_eq_self (hc : board.Consistent canvas)
    (hfree : (canvas.widget? id).bind Handle.slot = none) :
    (board.unbind canvas id).2 = (board, canvas) := by
  have hslots : board.slots.map (·.release id) = board.slots := by
    refine Array.ext_getElem? fun i => ?_
    rw [Array.getElem?_map]
    cases hslot : board.slots[i]? with
    | none => rfl
    | some slot =>
      have hmem : id ∉ slot.bindings := by
        intro hmem
        obtain ⟨h, hid, hrecorded⟩ := hc.listed hslot hmem
        rw [hid, Option.bind_some, hrecorded] at hfree
        cases hfree
      rw [Option.map_some, release_of_not_mem hmem]
  rw [unbind_of_none hfree, Canvas.setSlot_eq_self hfree, hslots]

end Slots

namespace Session

variable {s : Session}

theorem IsLinked.bind_false (hs : s.IsLinked) {index : Nat} {id : WidgetId}
    (hfalse : (s.slots.bind s.stage.canvas index id).value.1 = false) :
    (s.slots.bind s.stage.canvas index id).value.2 = (s.slots, s.stage.canvas) := by
  cases hslot : s.slots.slot? index with
  | none => rw [Slots.bind_of_slot?_eq_none hslot]
  | some slot =>
    cases hid : s.stage.canvas.widget? id with
    | none =>
      rw [Slots.bind_of_widget?_eq_none hslot hid]
      exact hs.consistent.unbind_eq_self (by rw [hid]; rfl)
    | some h =>
      -- where there are the slot and the widget, a binding does not fail
      rw [Slots.bind_of_widget? hslot hid] at hfalse
      cases hfalse

theorem IsLinked.moveBinding_false (hs : s.IsLinked) {source target place : Nat}
    (hfalse : (s.moveBinding source target place).value.1 = false) :
    (s.moveBinding source target place).value.2 = s := by
  change (s.slots.moveBinding s.stage.canvas source target place).value.1 = false at hfalse
  change s.withSlots (s.slots.moveBinding s.stage.canvas source target place).value.2.1
    (s.slots.moveBinding s.stage.canvas source target place).value.2.2 = s
  rcases s.slots.moveBinding_cases s.stage.canvas source target place with
    h | ⟨slot, id, slot', hsource, hplace, htarget, h⟩
  · rw [h]
    rfl
  · -- what a slot lists is a widget, and a widget is bound to any slot that is there
    obtain ⟨w, hid, -⟩ := hs.consistent.listed hsource (List.mem_of_getElem? hplace)
    rw [h, Slots.bind_of_widget? htarget hid] at hfalse
    cases hfalse

/-- Taking an element off its slot changes nothing exactly if it is not on one. -/
theorem IsLinked.unbind_eq_self_iff (hs : s.IsLinked) (element : String) :
    (s.unbind element).2 = s ↔ ∀ h, s.element? element = some h → h.slot = none := by
  cases hget : s.registry.get? element with
  | none =>
    rw [unbind_of_get?_eq_none hget]
    simp [element?, hget]
  | some id =>
    rw [unbind_of_get? hget]
    have helement : s.element? element = s.stage.canvas.widget? id := by
      rw [element?, hget]
      rfl
    rw [helement]
    constructor
    · -- if nothing has changed, then neither has the slot that the widget knows of
      intro heq h hid
      have hcanvas : (s.slots.unbind s.stage.canvas id).2.2 = s.stage.canvas :=
        congrArg (fun s => s.stage.canvas) heq
      rw [Slots.unbind_canvas] at hcanvas
      have hset : (s.stage.canvas.setSlot id none).widget? id = some { h with slot := none } := by
        rw [Canvas.widget?_setSlot, if_pos rfl, hid, Option.map_some]
      rw [hcanvas, hid] at hset
      exact congrArg Handle.slot (Option.some.inj hset)
    · intro hfree
      have hbind : (s.stage.canvas.widget? id).bind Handle.slot = none :=
        Option.bind_eq_none_iff.mpr hfree
      rw [hs.consistent.unbind_eq_self hbind]
      rfl

theorem IsLinked.changeBinding_error (hs : s.IsLinked) {element : String} {slot : Nat}
    {e : CommandError} (herror : (s.changeBinding element slot).value.1 = .error e) :
    (s.changeBinding element slot).value.2 = (s.unbind element).2 := by
  cases hget : s.registry.get? element with
  | none => rw [changeBinding_of_get?_eq_none hget, unbind_of_get?_eq_none hget]
  | some id =>
    rw [changeBinding_of_get? hget] at herror ⊢
    rw [unbind_of_get? hget]
    rw [Slots.changeBinding_value] at herror ⊢
    cases hslot : s.slots.slot? slot with
    | none =>
      have hunbound : (s.slots.unbind s.stage.canvas id).2.1.slot? slot = none := by
        rw [hs.consistent.slot?_unbind, hslot, Option.map_none]
      rw [Slots.bind_of_slot?_eq_none hunbound]
    | some old =>
      -- a name leads to a widget, so that only the slot can be missing
      have hunbound : (s.slots.unbind s.stage.canvas id).2.1.slot? slot =
          some (old.release id) := by
        rw [hs.consistent.slot?_unbind, hslot, Option.map_some]
      obtain ⟨h, hid⟩ := Option.isSome_iff_exists.mp (hs.named hget)
      have hwidget : (s.slots.unbind s.stage.canvas id).2.2.widget? id =
          some { h with slot := none } := by
        rw [Slots.unbind_canvas, Canvas.widget?_setSlot, if_pos rfl, hid, Option.map_some]
      rw [Slots.bind_of_widget? hunbound hwidget] at herror
      cases herror

/-- A binding that fails leaves everything as it was, except that `changeBinding` leaves the element
off its slot. That is the same exactly if the element has not been bound. -/
theorem Reachable.failed_binding (hs : Reachable s) :
    (∀ index id, (s.slots.bind s.stage.canvas index id).value.1 = false →
        (s.slots.bind s.stage.canvas index id).value.2 = (s.slots, s.stage.canvas)) ∧
      (∀ source target place, (s.moveBinding source target place).value.1 = false →
        (s.moveBinding source target place).value.2 = s) ∧
      ∀ element slot e, (s.changeBinding element slot).value.1 = .error e →
        (s.changeBinding element slot).value.2 = (s.unbind element).2 ∧
          ((s.changeBinding element slot).value.2 = s ↔
            ∀ h, s.element? element = some h → h.slot = none) := by
  have hlinked := hs.isLinked
  refine ⟨fun _ _ => hlinked.bind_false, fun _ _ _ => hlinked.moveBinding_false,
    fun element slot e herror => ?_⟩
  have hunbound := hlinked.changeBinding_error herror
  exact ⟨hunbound, hunbound ▸ hlinked.unbind_eq_self_iff element⟩

/-- A document of a text that is bound to the first slot. -/
def boundText : Element :=
  { tag := "UIML"
    children := [{ tag := "Text", attributes := [⟨"name", "t"⟩, ⟨"bindId", "0"⟩] }] }

/-- The text cannot be bound to a slot that is not there, and yet something has changed. -/
theorem failed_binding_boundText :
    ∃ s e, (Session.new {} {} {}).after (.loadDocument boundText) = .ok s ∧
      (s.changeBinding "t" 999).value.1 = .error e ∧ (s.changeBinding "t" 999).value.2 ≠ s := by
  have hvalue : ((Session.new {} {} {}).after (.loadDocument boundText)).toOption.map (fun s =>
      ((s.changeBinding "t" 999).value.1.toOption, (s.element? "t").map Handle.slot)) =
      some (none, some (some 0)) := by decide +kernel
  cases hafter : (Session.new {} {} {}).after (.loadDocument boundText) with
  | error breakdown => rw [hafter] at hvalue; cases hvalue
  | ok s =>
    rw [hafter] at hvalue
    obtain ⟨hfails, hslot⟩ := Prod.mk.inj (Option.some.inj hvalue)
    obtain ⟨h, hid, hbound⟩ := Option.map_eq_some_iff.mp hslot
    cases herror : (s.changeBinding "t" 999).value.1 with
    | ok _ => rw [herror] at hfails; cases hfails
    | error e =>
      have hfailed := Reachable.failed_binding (.after (.new {} {} {}) hafter)
      refine ⟨s, e, rfl, herror, fun hsame => ?_⟩
      have hfree := (hfailed.2.2 "t" 999 e herror).2.mp hsame h hid
      rw [hfree] at hbound
      cases hbound

/-- What has changed is that the first slot has lost the text. -/
theorem changeBinding_boundText :
    ((Session.new {} {} {}).after (.loadDocument boundText)).toOption.map (fun s =>
        ((s.changeBinding "t" 999).value.1.toOption,
          (s.slots.slot? 0).map Slot.bindings,
          ((s.changeBinding "t" 999).value.2.slots.slot? 0).map Slot.bindings)) =
      some (none, some [⟨0⟩], some []) := by
  decide +kernel

end Session

end Uiml
