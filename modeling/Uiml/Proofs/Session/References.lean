import Uiml.Proofs.Animation.Addressed
import Uiml.Proofs.Canvas.References

/-!
# The references of a session

Widgets are referred to by bare ids, from the names, from the animator, from the slots and from each
other, and nodes from the widgets. Ids of widgets are given out anew after a clearing. Still no
reference is ever stale: whatever has been done to a session, each of them leads to what it is meant
for.

## Main definitions

* `Session.Intact` — every reference leads to what it is meant for

## Main results

* `Session.Reachable.intact` — the references of a reachable session are intact
-/

namespace Uiml.Session

/-- Every reference that a session keeps leads to what it is meant for. -/
structure Intact (s : Session) : Prop where
  /-- A name is that of a widget, which has it among those of its kind too. -/
  named : ∀ name id, (name, id) ∈ s.registry.byName.entries →
    ∃ h, s.stage.widget? id = some h ∧ h.name = name ∧
      ((h.kind, name), id) ∈ s.registry.byKind.entries
  /-- A name among those of a kind is that of a widget of the kind. -/
  namedKind : ∀ kind name id, ((kind, name), id) ∈ s.registry.byKind.entries →
    ∃ h, s.stage.widget? id = some h ∧ h.name = name ∧ h.kind = kind
  /-- What is animated is a widget. -/
  tracks : ∀ id property track, ((id, property), track) ∈ s.stage.animator.tracks.entries →
    (s.stage.widget? id).isSome = true
  /-- A step that is queued for a widget finds it. -/
  steps : ∀ timed ∈ s.stage.animator.steps, ∀ id, timed.step.widget? = some id →
    (s.stage.widget? id).isSome = true
  /-- What bounces is a widget. -/
  bounces : ∀ id rest, (id, rest) ∈ s.stage.animator.bounces.entries →
    (s.stage.widget? id).isSome = true
  /-- What is bound to a slot is a widget. -/
  bindings : ∀ slot ∈ s.slots.slots, ∀ id ∈ slot.bindings, (s.stage.widget? id).isSome = true
  /-- The nodes of a widget and of its parts, and those that show its text and its picture, are in
  the scene, at or below its own node. -/
  nodes : ∀ id h, s.stage.widget? id = some h →
    ∀ j, j ∈ h.nodes ∨ h.textSurface = some j ∨ h.imageSurface = some j →
      s.scene.contains j = true ∧ s.scene.Below h.node j
  /-- Each widget has a node of its own. -/
  apart : ∀ id id' h h', s.stage.widget? id = some h → s.stage.widget? id' = some h' → id ≠ id' →
    h.node ≠ h'.node
  /-- A switch that has a group belongs to a group that is older than the switch. -/
  groups : ∀ id h checkmark isOn g, s.stage.widget? id = some h →
    h.parts = .toggle checkmark isOn (some g) →
      g.index < id.index ∧ ∃ group, s.stage.widget? g = some group ∧ group.kind = .toggleGroup

variable {s : Session}

/-- The references of a reachable session are intact. -/
theorem Reachable.intact (hs : Reachable s) : s.Intact := by
  have hrefs := hs.references
  have hstored := hs.addressed
  refine ⟨?named, ?namedKind, ?tracks, ?steps, ?bounces, ?bindings, ?nodes, ?apart, ?groups⟩
  case named =>
    intro name id hmem
    have hget := hrefs.names.distinct.get?_eq_some_iff.mpr hmem
    obtain ⟨h, hid, hname, hkind⟩ := hrefs.names.named hget
    exact ⟨h, hid, hname, hrefs.names.distinctKind.get?_eq_some_iff.mp hkind⟩
  case namedKind =>
    intro kind name id hmem
    exact hrefs.names.namedKind (hrefs.names.distinctKind.get?_eq_some_iff.mpr hmem)
  case tracks =>
    intro id property track hmem
    exact hstored.tracks (id, property) (List.mem_map_of_mem hmem)
  case steps =>
    intro timed hmem id hid
    exact hstored.steps timed.step (List.mem_map_of_mem hmem) id hid
  case bounces =>
    intro id rest hmem
    exact hstored.bounces id (List.mem_map_of_mem hmem)
  case bindings =>
    intro slot hslot id hmem
    obtain ⟨i, hi, rfl⟩ := Array.mem_iff_getElem.mp hslot
    have hfound : s.slots.slot? i = some s.slots.slots[i] := Array.getElem?_eq_getElem hi
    obtain ⟨h, hid, -⟩ := hs.isLinked.consistent.listed hfound hmem
    exact Option.isSome_iff_exists.mpr ⟨h, hid⟩
  case nodes =>
    intro id h hid j hj
    have hsettled := hrefs.orderly.faithful.settled hid
    have hmem : j ∈ h.nodes := by
      rcases hj with hmem | htext | himage
      · exact hmem
      · exact hsettled.textPlace j htext
      · exact hsettled.imagePlace j himage
    exact ⟨hsettled.live j hmem, hrefs.rooted id h hid j hmem⟩
  case apart =>
    intro id id' h h' hid hid' hne hsame
    have hapart := hrefs.orderly.faithful.disjoint hid hid' hne
    exact hapart h.node List.mem_cons_self (hsame ▸ List.mem_cons_self)
  case groups =>
    intro id h checkmark isOn g hid hparts
    exact hrefs.grouped id h g hid (by rw [hparts, Handle.Parts.group?])

/-- A group, a switch in it, and a text that takes the name of the group and is bound to the first
slot. -/
def shadowedGroup : Element :=
  { tag := "UIML"
    children :=
      [{ tag := "ToggleGroup", attributes := [⟨"name", "g"⟩] },
        { tag := "Toggle", attributes := [⟨"name", "t"⟩, ⟨"group", "g"⟩] },
        { tag := "Text", attributes := [⟨"name", "g"⟩, ⟨"bindId", "0"⟩] }] }

/-- While the switch bounces, references of each kind are there. -/
theorem intact_shadowedGroup :
    ∃ s h, (((Session.new {} {} {}).after (.loadDocument shadowedGroup)).bind
        fun s => s.after (.execute "t" "bounce" ["1"])) = .ok s ∧
      s.registry.get? "g" = some ⟨2⟩ ∧ s.registry.getKind? .toggleGroup "g" = some ⟨0⟩ ∧
      s.stage.widget? ⟨1⟩ = some h ∧ h.parts.group? = some ⟨0⟩ ∧
      (s.slots.slot? 0).map Slot.bindings = some [⟨2⟩] ∧
      (s.stage.animator.tracks.size, s.stage.animator.steps.length,
        s.stage.animator.bounces.size) = (1, 1, 1) ∧ s.Intact := by
  have hvalue : (((Session.new {} {} {}).after (.loadDocument shadowedGroup)).bind
      fun s => s.after (.execute "t" "bounce" ["1"])).toOption.map (fun s => decide (
        s.registry.get? "g" = some ⟨2⟩ ∧ s.registry.getKind? .toggleGroup "g" = some ⟨0⟩ ∧
          (s.stage.widget? ⟨1⟩).map (·.parts.group?) = some (some ⟨0⟩) ∧
          (s.slots.slot? 0).map Slot.bindings = some [⟨2⟩] ∧
          (s.stage.animator.tracks.size, s.stage.animator.steps.length,
            s.stage.animator.bounces.size) = (1, 1, 1))) = some true := by decide +kernel
  obtain ⟨s, hafter, hvalue⟩ := exists_of_toOption_map hvalue
  obtain ⟨first, hfirst, hsecond⟩ := exists_of_bind_eq_ok hafter
  have hs : Reachable s := .after (.after (.new {} {} {}) hfirst) hsecond
  obtain ⟨hname, hkind, hgroup, hbound, hstored⟩ := of_decide_eq_true hvalue
  obtain ⟨h, hid, hgroup⟩ := Option.map_eq_some_iff.mp hgroup
  exact ⟨s, h, hafter, hname, hkind, hid, hgroup, hbound, hstored, hs.intact⟩

end Uiml.Session
