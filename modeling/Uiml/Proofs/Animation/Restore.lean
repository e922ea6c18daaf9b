import Uiml.Proofs.Animation.Queue
import Uiml.Proofs.Canvas.Mirror

/-!
# Restoring a widget

A widget that is restored is given the place and the state that it has been made with, and full
opacity and size, and all that is in store for it is forgotten. To restore it again changes nothing:
neither the widget, nor what its nodes show, nor what the animator has in store for other widgets.

## Main definitions

* `Handle.restored` — a widget as restoring leaves it
* `Stage.Restored` — a widget is as after it has been restored

## Main results

* `Stage.widget?_restore`, `Stage.restore_animator` — what restoring does
* `Stage.restored_restore`, `Stage.restore_restore` — how a widget is then, and that to restore it
  twice is to restore it once
-/

namespace Uiml

variable {w : WidgetId} {h : Handle}

/-! ### Giving what there is already -/

namespace Canvas

variable {canvas : Canvas} {f : Handle → Handle} {g : Handle → Scene → Scene}

/-- An update that changes neither the widget nor the scene changes nothing. -/
theorem update_eq_self (hid : canvas.widget? w = some h) (hf : f h = h)
    (hg : g h canvas.scene = canvas.scene) : canvas.update w f g = canvas := by
  have hwidgets : canvas.widgets.modify w.index f = canvas.widgets := by
    refine Array.modify_eq_self fun h' hid' => ?_
    obtain rfl : h = h' := Option.some.inj (hid.symm.trans hid')
    exact hf
  rw [update_of_widget? hid, modifyWidget, hwidgets, hg]

section Mirrored

variable (hid : canvas.widget? w = some h) (hm : h.MirroredIn canvas.scene)
include hid hm

/-- A node is not changed by what its widget has it look like already. -/
theorem update_eq_self_of_looks {change : Scene.Node → Scene.Node} (hf : f h = h)
    (hchange : ∀ node : Scene.Node,
      node.transform = h.transform ∧ node.alpha = h.alpha ∧ node.interactable = h.interactable →
      change node = node) :
    canvas.update w f (fun h scene => scene.modify h.node change) = canvas := by
  refine update_eq_self hid hf (Scene.modify_eq_self fun node hnode => hchange node ?_)
  exact (Scene.shows_iff_of_node? hnode).mp hm.node

theorem setAlpha_eq_self : canvas.setAlpha w h.alpha = canvas :=
  update_eq_self_of_looks hid hm rfl fun _ ⟨_, halpha, _⟩ => by rw [← halpha]

theorem setPosition_eq_self : canvas.setPosition w h.transform.position = canvas :=
  update_eq_self_of_looks hid hm rfl fun _ ⟨hplace, _, _⟩ => by
    rw [← hplace]
    rfl

theorem setScale_eq_self : canvas.setScale w h.transform.scale = canvas :=
  update_eq_self_of_looks hid hm rfl fun _ ⟨hplace, _, _⟩ => by
    rw [← hplace]
    rfl

theorem setInteractable_eq_self : canvas.setInteractable w h.interactable = canvas :=
  update_eq_self_of_looks hid hm rfl fun _ ⟨_, _, hinteractable⟩ => by rw [← hinteractable]

/-- A switch that is turned to the state that it is in stays as it is. -/
theorem setToggle_eq_self {isOn : Bool} (hon : h.isOn? = some isOn) :
    (canvas.setToggle w isOn).2 = canvas := by
  rw [Handle.isOn?] at hon
  split at hon
  · next checkmark isOn' group hparts =>
    obtain rfl := Option.some.inj hon
    rw [setToggle, hid, Option.map_some, hparts]
    simp only
    have hsame : { h with parts := .toggle checkmark isOn' group } = h := by rw [← hparts]
    refine update_eq_self hid ?_ ?_
    · exact hsame
    -- the checkmark is seen or not, and the component is in the state, as the widget says
    have hmark : canvas.scene.setAlpha checkmark (if isOn' then 1 else 0) = canvas.scene := by
      refine Scene.modify_eq_self fun node hnode => ?_
      have halpha := (Scene.shows_iff_of_node? hnode).mp (hm.checkmark checkmark isOn' group hparts)
      rw [← halpha]
      rfl
    rw [hmark, Scene.setToggle, Scene.replaceComponent]
    cases hnode : canvas.scene.node? h.node with
    | none => rfl
    | some node =>
      refine Scene.modify_eq_self fun node' hnode' => ?_
      refine Scene.Node.replace_eq_self node' (Component.replaces_withToggle isOn') fun c hc => ?_
      obtain ⟨spec, hspec, rfl⟩ :=
        (Scene.shows_iff_of_node? hnode').mp (hm.toggle checkmark isOn' group hparts)
      obtain rfl : c = .toggle spec := Option.some.inj (hc.symm.trans hspec)
      rfl
  · cases hon

end Mirrored

end Canvas

/-- What is forgotten of a widget of which nothing is in store is nothing. -/
theorem Animator.cancelWidget_eq_self {a : Animator}
    (htracks : ∀ property, a.tracks.get? (w, property) = none)
    (hsteps : ∀ timed ∈ a.steps, timed.step.widget? ≠ some w)
    (hbounces : a.bounces.get? w = none) : a.cancelWidget w = a := by
  -- of the three tables the entries of the widget are dropped, and there are none
  have hkept : (a.tracks.filterKeys fun key => key.1 ≠ w) = a.tracks := by
    refine congrArg Table.mk (List.filter_eq_self.mpr fun entry hentry => ?_)
    have hnone := Table.get?_eq_none_iff.mp (htracks entry.1.2)
    refine decide_eq_true fun he => ?_
    have hkey : entry.1 = (w, entry.1.2) := Prod.ext he rfl
    simp only [Table.contains, List.any_eq_false, decide_eq_true_eq] at hnone
    exact hnone entry hentry hkey
  have hleft : a.steps.filter (fun timed => timed.step.widget? ≠ some w) = a.steps :=
    List.filter_eq_self.mpr fun timed htimed => decide_eq_true (hsteps timed htimed)
  have hrest : a.bounces.erase w = a.bounces := by
    refine congrArg Table.mk (List.filter_eq_self.mpr fun entry hentry => ?_)
    have hnone := Table.get?_eq_none_iff.mp hbounces
    simp only [Table.contains, List.any_eq_false, decide_eq_true_eq] at hnone
    exact decide_eq_true (hnone entry hentry)
  rw [cancelWidget, hkept, hleft, hrest]

/-! ### Restoring -/

/-- A widget in full opacity and in its own size at a place, so that it reacts. -/
def Handle.reset (h : Handle) (position : Vec2) : Handle :=
  { h with
    alpha := 1
    transform := { h.transform with position, scale := .one }
    interactable := true }

/-- A widget as restoring leaves it. -/
def Handle.restored (h : Handle) : Handle :=
  { h.reset h.home.transform.position with
    parts :=
      match h.home.toggleOn, h.parts with
      | some isOn, .toggle checkmark _ group => .toggle checkmark isOn group
      | _, parts => parts }

/-- A switch gets the state that it has been made with. -/
theorem Handle.isOn?_restored (hswitch : h.home.toggleOn.isSome = h.isOn?.isSome) :
    h.restored.isOn? = h.home.toggleOn := by
  cases htoggle : h.home.toggleOn <;> cases hparts : h.parts <;>
    simp [isOn?, restored, reset, htoggle, hparts] at hswitch ⊢

theorem Handle.restored_restored (h : Handle) : h.restored.restored = h.restored := by
  cases htoggle : h.home.toggleOn <;> cases hparts : h.parts <;>
    simp [restored, reset, htoggle, hparts]

/-- The canvas with a widget reset to a place. -/
def Canvas.reset (canvas : Canvas) (w : WidgetId) (position : Vec2) : Canvas :=
  (((canvas.setAlpha w 1).setPosition w position).setScale w .one).setInteractable w true

theorem Canvas.widget?_reset (canvas : Canvas) (w : WidgetId) (position : Vec2) :
    (canvas.reset w position).widget? w = (canvas.widget? w).map (·.reset position) := by
  simp only [reset, setAlpha, setPosition, setScale, setInteractable, widget?_update, if_true,
    Option.map_map]
  rfl

/-- How a widget looks: its opacity, where it is, its size, and whether it reacts. -/
structure Looks where
  alpha : Float32
  position : Vec2
  scale : Vec3
  interactable : Bool
  deriving DecidableEq

/-- How a widget looks after it has been restored to a place. -/
def Looks.restored (position : Vec2) : Looks := ⟨1, position, .one, true⟩

def Handle.looks (h : Handle) : Looks :=
  ⟨h.alpha, h.transform.position, h.transform.scale, h.interactable⟩

/-- How the widget of an id looks. -/
def Canvas.looks? (canvas : Canvas) (w : WidgetId) : Option Looks :=
  (canvas.widget? w).map Handle.looks

namespace Stage

/-- A widget is as after it has been restored to a place and to the state of its switch, and nothing
is in store for it. -/
structure Restored (stage : Stage) (w : WidgetId) (position : Vec2) (isOn : Option Bool) :
    Prop where
  looks : stage.canvas.looks? w = some (.restored position)
  isOn : (stage.canvas.widget? w).bind Handle.isOn? = isOn
  tracks : ∀ property, stage.animator.tracks.get? (w, property) = none
  /-- No step in the queue is bound to it, so that no bounce of it is to come back. -/
  steps : ∀ timed ∈ stage.animator.steps, timed.step.widget? ≠ some w
  bounces : stage.animator.bounces.get? w = none

variable {stage : Stage}

theorem restore_of_widget? (hid : stage.canvas.widget? w = some h) :
    stage.restore w =
      ⟨match h.home.toggleOn with
        | none => stage.canvas.reset w h.home.transform.position
        | some isOn => ((stage.canvas.reset w h.home.transform.position).setToggle w isOn).2,
        stage.animator.cancelWidget w⟩ := by
  rw [restore, widget?, hid]
  simp only
  cases h.home.toggleOn <;> rfl

theorem restore_animator (stage : Stage) (w : WidgetId) :
    (stage.restore w).animator = stage.animator.cancelWidget w := by
  cases hid : stage.canvas.widget? w with
  | none =>
    rw [restore, widget?, hid]
  | some h => rw [restore_of_widget? hid]

/-- A widget that is restored gets what it has been made with. -/
theorem widget?_restore (hid : stage.canvas.widget? w = some h) :
    (stage.restore w).canvas.widget? w = some h.restored := by
  have hreset := stage.canvas.widget?_reset w h.home.transform.position
  rw [hid, Option.map_some] at hreset
  rw [restore_of_widget? hid, Handle.restored]
  cases h.home.toggleOn with
  | none => exact hreset
  | some isOn =>
    change (Canvas.setToggle _ w isOn).2.widget? w = _
    rw [Canvas.setToggle, hreset, Option.map_some]
    cases hparts : h.parts with
    | toggle checkmark wasOn group => simp [hreset, Handle.reset, hparts]
    | _ => simp [hreset, Handle.reset, hparts]

section Switch

variable (hid : stage.canvas.widget? w = some h)
  (hswitch : h.home.toggleOn.isSome = h.isOn?.isSome)

include hid hswitch

theorem restored_restore :
    (stage.restore w).Restored w h.home.transform.position h.home.toggleOn where
  looks := by
    rw [Canvas.looks?, widget?_restore hid]
    rfl
  isOn := by
    rw [widget?_restore hid]
    exact Handle.isOn?_restored hswitch
  tracks := by
    rw [restore_animator]
    exact stage.animator.get?_tracks_cancelWidget w
  steps := by
    rw [restore_animator]
    exact fun timed htimed => of_decide_eq_true (List.mem_filter.mp htimed).2
  bounces := by rw [restore_animator, Animator.get?_bounces_cancelWidget, if_pos rfl]

/-- Restoring does nothing to a widget that is as restoring would leave it, with nodes that
agree. -/
theorem restore_eq_self (hm : h.MirroredIn stage.canvas.scene) (hr : h.restored = h)
    (htracks : ∀ property, stage.animator.tracks.get? (w, property) = none)
    (hsteps : ∀ timed ∈ stage.animator.steps, timed.step.widget? ≠ some w)
    (hbounces : stage.animator.bounces.get? w = none) : stage.restore w = stage := by
  -- what restoring sets is there already, so that it is set to what it is
  have halpha : h.alpha = 1 := (congrArg Handle.alpha hr).symm
  have hposition : h.transform.position = h.home.transform.position :=
    (congrArg (fun h : Handle => h.transform.position) hr).symm
  have hscale : h.transform.scale = .one :=
    (congrArg (fun h : Handle => h.transform.scale) hr).symm
  have hinteractable : h.interactable = true := (congrArg Handle.interactable hr).symm
  have hreset : stage.canvas.reset w h.home.transform.position = stage.canvas := by
    rw [Canvas.reset, ← halpha, Canvas.setAlpha_eq_self hid hm, ← hposition,
      Canvas.setPosition_eq_self hid hm, ← hscale, Canvas.setScale_eq_self hid hm, ← hinteractable,
      Canvas.setInteractable_eq_self hid hm]
  rw [restore_of_widget? hid, hreset, Animator.cancelWidget_eq_self htracks hsteps hbounces]
  cases htoggle : h.home.toggleOn with
  | none => rfl
  | some isOn =>
    have hon : h.isOn? = some isOn := by
      rw [← htoggle, ← Handle.isOn?_restored hswitch, hr]
    exact congrArg (Stage.mk · stage.animator) (Canvas.setToggle_eq_self hid hm hon)

/-- To restore a widget twice is to restore it once. -/
theorem restore_restore (hm : h.restored.MirroredIn (stage.restore w).canvas.scene) :
    (stage.restore w).restore w = stage.restore w := by
  have hrestored := restored_restore hid hswitch
  refine restore_eq_self (widget?_restore hid) ?_ hm h.restored_restored hrestored.tracks
    hrestored.steps hrestored.bounces
  rw [Handle.isOn?_restored hswitch]
  rfl

end Switch

end Stage

end Uiml
