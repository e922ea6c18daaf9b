import Uiml.Proofs.Build.Fit
import Uiml.Proofs.Session.Effect

/-!
# Faithful canvases

No widget of a session ever disagrees with its nodes. Each widget writes to nodes of its own, so
that a change of one is not seen in the nodes of another; new widgets have new nodes; and where an
element cannot be built, the node that was made for it is taken back without a trace.

## Main definitions

* `Canvas.Faithful` — every widget agrees with its nodes, and no two share a node

## Main results

* `Canvas.Faithful.step` — every step of the life of a canvas keeps it faithful
* `Session.Reachable.mirroredIn` — in a reachable session every widget agrees with its nodes
-/

namespace Uiml

/-- Every widget agrees with its nodes, and no two widgets write to the same node. -/
structure Canvas.Faithful (canvas : Canvas) : Prop where
  pos : 0 < canvas.scene.nodes.size
  settled : ∀ {id h}, canvas.widget? id = some h → h.Settled canvas.scene
  disjoint : ∀ {id id' h h'}, canvas.widget? id = some h → canvas.widget? id' = some h' →
    id ≠ id' → ∀ j ∈ h.nodes, j ∉ h'.nodes

namespace Canvas

variable {canvas canvas' : Canvas} {id : WidgetId}

theorem faithful_new : Faithful ⟨.new, #[]⟩ where
  pos := Nat.zero_lt_one
  settled := fun h => by simp [widget?] at h
  disjoint := fun h => by simp [widget?] at h

namespace Faithful

theorem node_lt (hc : canvas.Faithful) {h : Handle} (hid : canvas.widget? id = some h) {j : NodeId}
    (hj : j ∈ h.nodes) : j.index < canvas.scene.nodes.size :=
  (Scene.shows_true ((hc.settled hid).live j hj)).lt_size

/-- A widget that becomes another one is seen in its own nodes only. -/
theorem turns (hc : canvas.Faithful) {old : Handle} (hid : canvas.widget? id = some old)
    (hturns : canvas.Turns id old canvas') : canvas'.Faithful := by
  obtain ⟨new, hbecomes, hwidgets⟩ := hturns
  -- the nodes of the widget are the same as before, so the widgets are as far apart as before
  have hbefore : ∀ {k h}, canvas'.widget? k = some h →
      (k = id ∧ h = new) ∨ (k ≠ id ∧ canvas.widget? k = some h) := by
    intro k h hk
    rw [hwidgets] at hk
    split at hk
    · next he => exact .inl ⟨he, (Option.some.inj hk).symm⟩
    · next hne => exact .inr ⟨hne, hk⟩
  refine ⟨hbecomes.size ▸ hc.pos, fun {k h} hk => ?_, fun {k k' h h'} hk hk' hne => ?_⟩
  · rcases hbefore hk with ⟨-, rfl⟩ | ⟨hne, hk⟩
    · exact hbecomes.settled
    · exact (hc.settled hk).keep fun j hj p hp =>
        hbecomes.keeps j (hc.disjoint hk hid hne j hj) p hp
  · rcases hbefore hk with ⟨rfl, rfl⟩ | ⟨-, hk⟩ <;> rcases hbefore hk' with ⟨rfl, rfl⟩ | ⟨-, hk'⟩
    · exact absurd rfl hne
    · rw [hbecomes.nodes]
      exact hc.disjoint hid hk' hne
    · rw [hbecomes.nodes]
      exact hc.disjoint hk hid hne
    · exact hc.disjoint hk hk' hne

theorem congr (hc : canvas.Faithful) (hscene : canvas'.scene = canvas.scene)
    (hwidgets : ∀ j, canvas'.widget? j = canvas.widget? j) : canvas'.Faithful where
  pos := hscene ▸ hc.pos
  settled := fun hid => by
    rw [hscene]
    exact hc.settled (hwidgets _ ▸ hid)
  disjoint := fun hid hid' => hc.disjoint (hwidgets _ ▸ hid) (hwidgets _ ▸ hid')

theorem change (hc : canvas.Faithful) (hchange : Change id canvas canvas') : canvas'.Faithful := by
  cases hid : canvas.widget? id with
  | none =>
    obtain ⟨hscene, hwidgets⟩ := hchange.eq_of_widget?_eq_none hid
    exact hc.congr hscene hwidgets
  | some h => exact hc.turns hid (hchange.turns hid (hc.settled hid))

theorem slot (hc : canvas.Faithful) (id : WidgetId) (slot : Option Nat) :
    (canvas.setSlot id slot).Faithful := by
  cases hid : canvas.widget? id with
  | none =>
    obtain ⟨hscene, hwidgets⟩ := setSlot_of_widget?_eq_none hid slot
    exact hc.congr hscene hwidgets
  | some h => exact hc.turns hid (setSlot_turns hid (hc.settled hid) slot)

/-- A new widget has new nodes. -/
theorem build (hc : canvas.Faithful) (parent : NodeId) (name : String) (kind : Element.Kind)
    (outfit : Outfit) (blueprint : Blueprint) (group : Option GroupRef) :
    (canvas.build parent name kind outfit blueprint group).Faithful := by
  have hnew := canvas.build_settled parent name kind outfit blueprint group
  have hfresh := canvas.builtHandle_fresh parent name kind outfit blueprint group
  have hold : ∀ {k h}, canvas.widget? k = some h →
      h.Settled (canvas.build parent name kind outfit blueprint group).scene := fun hk =>
    (hc.settled hk).keep fun j hj p hp =>
      canvas.build_keeps parent name kind outfit blueprint group (hc.node_lt hk hj) hp
  have hbefore : ∀ {k h},
      (canvas.build parent name kind outfit blueprint group).widget? k = some h →
      (k = ⟨canvas.widgets.size⟩ ∧
          h = canvas.builtHandle parent name kind outfit blueprint group) ∨
        canvas.widget? k = some h := by
    intro k h hk
    rw [widget?_build] at hk
    split at hk
    · next he => exact .inl ⟨he, (Option.some.inj hk).symm⟩
    · exact .inr hk
  refine ⟨?_, fun {k h} hk => ?_, fun {k k' h h'} hk hk' hne j hj hj' => ?_⟩
  · exact Nat.lt_of_le_of_lt (Nat.zero_le _)
      (Scene.shows_true (hnew.live _ List.mem_cons_self)).lt_size
  · rcases hbefore hk with ⟨-, rfl⟩ | hk
    · exact hnew
    · exact hold hk
  · -- all nodes of the new widget are newer than any node of an old one
    rcases hbefore hk with ⟨rfl, rfl⟩ | hk <;> rcases hbefore hk' with ⟨rfl, rfl⟩ | hk'
    · exact hne rfl
    · exact Nat.not_lt_of_le (hfresh j hj) (hc.node_lt hk' hj')
    · exact Nat.not_lt_of_le (hfresh j hj') (hc.node_lt hk hj)
    · exact hc.disjoint hk hk' hne j hj hj'

/-- A node that is made and taken back again is missed by nobody. -/
theorem discard (hc : canvas.Faithful) (parent : NodeId) (name : String) :
    (canvas.discard parent name).Faithful where
  pos := by
    rw [Canvas.discard]
    simp only [Scene.size_destroy, Scene.size_create, Nat.zero_lt_succ]
  settled := fun hid => (hc.settled hid).keep fun _ _ _ hp =>
    (Scene.shows_destroy_create hc.pos).mpr hp
  disjoint := hc.disjoint

theorem cleared (hc : canvas.Faithful) : canvas.cleared.Faithful where
  pos := by
    rw [Canvas.cleared]
    simp only [Scene.size_destroy, hc.pos]
  settled := fun hid => by simp [Canvas.cleared, widget?] at hid
  disjoint := fun hid => by simp [Canvas.cleared, widget?] at hid

/-- Every step in the life of a canvas keeps it faithful. -/
theorem step (hc : canvas.Faithful) (hstep : Step canvas canvas') : canvas'.Faithful := by
  cases hstep with
  | change hchange => exact hc.change hchange
  | slot id slot => exact hc.slot id slot
  | build parent name kind outfit blueprint group => exact hc.build ..
  | discard parent name => exact hc.discard parent name
  | clear => exact hc.cleared

end Faithful

end Canvas

namespace Session

variable {s : Session}

theorem Reachable.faithful (hs : Reachable s) : s.stage.canvas.Faithful :=
  hs.canvas_induction Canvas.faithful_new fun hstep hc => hc.step hstep

/-- In a reachable session every widget agrees with its nodes, also a widget of which a later one has
taken the name. -/
theorem Reachable.mirroredIn (hs : Reachable s) {id : WidgetId} {h : Handle}
    (hid : s.stage.widget? id = some h) : h.MirroredIn s.scene :=
  (hs.faithful.settled hid).mirrored

/-- A document of a progress bar and of a switch that takes its name. -/
def barAndSwitch : Element :=
  { tag := "UIML"
    children :=
      [{ tag := "ProgressBar", attributes := [⟨"name", "p"⟩] },
        { tag := "Toggle", attributes := [⟨"name", "p"⟩] }] }

/-- After a load the bar agrees with its nodes, although the switch has its name. -/
theorem mirroredIn_barAndSwitch :
    ∃ s h, (Session.new {} {} {}).after (.loadDocument barAndSwitch) = .ok s ∧
      s.registry.get? "p" = some ⟨1⟩ ∧ s.stage.widget? ⟨0⟩ = some h ∧ h.MirroredIn s.scene := by
  have hvalue : ((Session.new {} {} {}).after (.loadDocument barAndSwitch)).map (fun s =>
      (s.registry.get? "p", (s.stage.widget? ⟨0⟩).isSome)) = .ok (some ⟨1⟩, true) := by rfl
  cases hafter : (Session.new {} {} {}).after (.loadDocument barAndSwitch) with
  | error breakdown => rw [hafter] at hvalue; cases hvalue
  | ok s =>
    rw [hafter] at hvalue
    obtain ⟨hname, hbar⟩ := Prod.mk.inj (Except.ok.inj hvalue)
    obtain ⟨h, hid⟩ := Option.isSome_iff_exists.mp hbar
    exact ⟨s, h, rfl, hname, hid, Reachable.mirroredIn (.after (.new {} {} {}) hafter) hid⟩

end Session

end Uiml
