import Uiml.Proofs.Canvas.Local
import Uiml.Proofs.Canvas.Mirror
import Uiml.Proofs.Scene.Alike
import Uiml.Widget.Handle

/-!
# Canvases up to a renumbering

A blueprint does not look at the ids of nodes. In two scenes that are alike it makes nodes that are
alike, and what it adds to the state of a widget refers to them.

Two canvases are alike if they have widgets of the same ids, their scenes are alike, and the widgets
refer to the nodes of their own scenes. Widgets that are bound to some slots are hidden: they and
their surfaces may show different contents.

## Main definitions

* `Handle.Parts.renumber`, `GroupRef.renumber` — what refers to nodes by other ids
* `Raised.Alike` — what has been raised in two scenes is the same up to a renumbering
* `Handle.renumber`, `Handle.blank` — a widget with other ids of nodes, and one without content
* `Handle.IsHidden`, `Canvas.IsFree` — what may show different contents
* `Canvas.Alike` — two canvases are the same up to a renumbering

## Main results

* `Blueprint.raise_alike` — a blueprint is raised alike in scenes that are alike
* `Canvas.Alike.build` — a widget is built in both
* `Canvas.Alike.showText`, `Canvas.Alike.showImage` — a content is shown in both
* `Canvas.Alike.overwrite` — a content of a hidden widget is shown in one only
-/

namespace Uiml

/-! ### What is raised -/

section Raise

open Scene

variable {f : NodeId → NodeId} {free : NodeId → Prop}

/-- What a kind of widget adds, with other ids of nodes. -/
def Handle.Parts.renumber (f : NodeId → NodeId) : Handle.Parts → Handle.Parts
  | .plain => .plain
  | .button label => .button (label.map f)
  | .scrollArea viewport content => .scrollArea (f viewport) (f content)
  | .progressBar bar => .progressBar { bar with fill := f bar.fill }
  | .toggle checkmark isOn group => .toggle (f checkmark) isOn group
  | .inputField text => .inputField (f text)
  | .dropdown label options value => .dropdown (f label) options value

/-- What has been raised in two scenes is the same up to a renumbering. -/
structure Raised.Alike (f : NodeId → NodeId) (free : NodeId → Prop) (raised raised' : Raised) :
    Prop where
  scene : raised.scene.Alike f free raised'.scene
  parts : raised'.parts = raised.parts.renumber f
  text : raised'.text = raised.text.map fun text => (f text.1, text.2)
  imageSurface : raised'.imageSurface = raised.imageSurface.map f

/-- The group with another id of its node. -/
def GroupRef.renumber (f : NodeId → NodeId) (group : GroupRef) : GroupRef :=
  { group with node := f group.node }

namespace Blueprint

variable {scene scene' : Scene}

theorem raiseButton_alike (h : scene.Alike f free scene') (node : NodeId) (background : Color)
    (label : Option TextStyle) :
    (raiseButton scene node background label).Alike f free
      (raiseButton scene' (f node) background label) := by
  have hfilled : (scene.attachAll node [.fill background, .buttonTint (tintsOf background)]).Alike
      f free (scene'.attachAll (f node) [.fill background, .buttonTint (tintsOf background)]) :=
    h.attachAll node (by simp [Component.refs])
  cases label with
  | none => exact ⟨hfilled, rfl, rfl, rfl⟩
  | some style =>
    -- the label gets the next id on both sides, which correspond
    obtain ⟨label, made, made', hmade, hmade', h⟩ := hfilled.createStretched node "Text"
    simp only [raiseButton, hmade, hmade']
    exact ⟨h.attach label _, rfl, rfl, rfl⟩

theorem raiseScrollArea_alike (h : scene.Alike f free scene') (node : NodeId) (plan : ScrollPlan) :
    (raiseScrollArea scene node plan).Alike f free (raiseScrollArea scene' (f node) plan) := by
  obtain ⟨viewport, framed, framed', hframed, hframed', h⟩ :=
    (h.attach node (.fill plan.background)).createStretched node "Viewport"
  obtain ⟨content, filled, filled', hfilled, hfilled', h⟩ :=
    (h.attach viewport .mask).create viewport "Content"
  -- a component that refers to no nodes is the same on both sides
  simp only [Component.renumber] at hframed' hfilled'
  simp only [raiseScrollArea, hframed, hframed', hfilled, hfilled']
  refine ⟨.attach (.attachAll (.setPosition (.setSize (.setPivot (.setAnchors h _ _ _) _ _) _ _)
    _ _) _ ?_) _ _, rfl, rfl, rfl⟩
  cases plan.horizontal <;> cases plan.vertical <;> simp [Component.refs]

theorem raiseProgressBar_alike (h : scene.Alike f free scene') (node : NodeId) (plan : BarPlan) :
    (raiseProgressBar scene node plan).Alike f free (raiseProgressBar scene' (f node) plan) := by
  obtain ⟨background, backed, backed', hbacked, hbacked', h⟩ := h.createStretched node "Background"
  obtain ⟨area, framed, framed', hframed, hframed', h⟩ :=
    (h.attach background (.fill plan.background)).createStretched node "Fill Area"
  obtain ⟨fill, filled, filled', hfilled, hfilled', h⟩ := h.create area "Fill"
  simp only [Component.renumber] at hframed'
  simp only [raiseProgressBar, hbacked, hbacked', hframed, hframed', hfilled, hfilled']
  exact ⟨.attach (.attach (.setPosition (.setSize (.setAnchors h _ _ _) _ _) _ _) _ _) _ _,
    rfl, rfl, rfl⟩

theorem raiseToggle_alike (h : scene.Alike f free scene') (node : NodeId) (box checkmark : Color)
    (isOn : Bool) (group : Option GroupRef) :
    (raiseToggle scene node box checkmark isOn group).Alike f free
      (raiseToggle scene' (f node) box checkmark isOn (group.map (·.renumber f))) := by
  obtain ⟨background, backed, backed', hbacked, hbacked', h⟩ := h.create node "Background"
  obtain ⟨mark, marked, marked', hmarked, hmarked', h⟩ :=
    ((((h.setAnchors background ⟨0, 0.5⟩ ⟨0, 0.5⟩).setPosition background ⟨10, 0⟩).setSize
      background ⟨20, 20⟩).attach background (.fill box)).createStretched background "Checkmark"
  simp only [Component.renumber] at hmarked'
  simp only [raiseToggle, hbacked, hbacked', hmarked, hmarked']
  refine ⟨?_, ?_, rfl, rfl⟩
  · have hmarked := (h.attach mark (.fill checkmark)).setAlpha mark (if isOn then 1 else 0)
    have hattached := hmarked.attach node
      (.toggle { isOn, checkmark := mark, group := group.map (·.node) })
    cases group <;> exact hattached
  · cases group <;> rfl

theorem raiseInputField_alike (h : scene.Alike f free scene') (node : NodeId) (plan : InputPlan) :
    (raiseInputField scene node plan).Alike f free (raiseInputField scene' (f node) plan) := by
  obtain ⟨area, framed, framed', hframed, hframed', h⟩ :=
    (h.attach node (.fill plan.background)).createStretched node "Text Area"
  obtain ⟨text, filled, filled', hfilled, hfilled', h⟩ :=
    ((h.setSize area ⟨-20, -10⟩).attach area .mask).createStretched area "Text"
  simp only [Component.renumber] at hframed' hfilled'
  simp only [raiseInputField, hframed, hframed', hfilled, hfilled']
  exact ⟨.attach (.attach h _ _) _ _, rfl, rfl, rfl⟩

theorem raiseDropdown_alike (h : scene.Alike f free scene') (node : NodeId) (plan : DropdownPlan) :
    (raiseDropdown scene node plan).Alike f free (raiseDropdown scene' (f node) plan) := by
  obtain ⟨label, made, made', hmade, hmade', h⟩ :=
    (h.attach node (.fill plan.background)).createStretched node "Label"
  simp only [Component.renumber] at hmade'
  simp only [raiseDropdown, hmade, hmade']
  exact ⟨.attach (.attach (.setPosition (.setSize h _ _) _ _) _ _) _ _, rfl, rfl, rfl⟩

/-- A blueprint is raised alike in scenes that are alike. -/
theorem raise_alike (h : scene.Alike f free scene') (node : NodeId) (group : Option GroupRef)
    (blueprint : Blueprint) :
    (blueprint.raise scene node group).Alike f free
      (blueprint.raise scene' (f node) (group.map (·.renumber f))) := by
  have hlayout (layout : Component) (autoSize : Bool) (hrefs : layout.refs = []) :
      (scene.attachAll node (layout :: autoFitter autoSize)).Alike f free
        (scene'.attachAll (f node) (layout :: autoFitter autoSize)) :=
    h.attachAll node (List.forall_mem_cons.mpr
      ⟨hrefs, by cases autoSize <;> simp [autoFitter, Component.refs]⟩)
  cases blueprint with
  | surface spec => exact ⟨h.attach node _, rfl, rfl, rfl⟩
  | panel background => exact ⟨h.attach node _, rfl, rfl, rfl⟩
  | text style => exact ⟨h.attach node _, rfl, rfl, rfl⟩
  | image tint => exact ⟨h.attach node _, rfl, rfl, rfl⟩
  | toggleGroup allowSwitchOff => exact ⟨h.attach node _, rfl, rfl, rfl⟩
  | layout spec autoSize => exact ⟨hlayout _ autoSize rfl, rfl, rfl, rfl⟩
  | grid spec autoSize => exact ⟨hlayout _ autoSize rfl, rfl, rfl, rfl⟩
  | button background label => exact raiseButton_alike h node background label
  | scrollArea plan => exact raiseScrollArea_alike h node plan
  | progressBar plan => exact raiseProgressBar_alike h node plan
  | toggle box checkmark isOn _ => exact raiseToggle_alike h node box checkmark isOn group
  | inputField plan => exact raiseInputField_alike h node plan
  | dropdown plan => exact raiseDropdown_alike h node plan

end Blueprint

end Raise

/-! ### Canvases -/

namespace Handle

/-- The widget with other ids of nodes. -/
def renumber (f : NodeId → NodeId) (h : Handle) : Handle :=
  { h with
    node := f h.node
    parts := h.parts.renumber f
    textSurface := h.textSurface.map f
    imageSurface := h.imageSurface.map f }

/-- The widget without the content that it shows. -/
def blank (h : Handle) : Handle := { h with text := none, image := none }

/-- A widget is bound to a hidden slot. -/
def IsHidden (hidden : Nat → Prop) (h : Handle) : Prop :=
  ∃ index, h.slot = some index ∧ hidden index

/-- A node shows the text or the picture of a widget. -/
def ShowsOn (h : Handle) (j : NodeId) : Prop := h.textSurface = some j ∨ h.imageSurface = some j

variable {f : NodeId → NodeId}

@[simp] theorem contentNode_renumber (h : Handle) :
    (h.renumber f).contentNode = f h.contentNode := by
  rw [contentNode, contentNode, renumber]
  cases h.parts <;> rfl

theorem renumber_congr {g : NodeId → NodeId} {h : Handle} (hnodes : ∀ j ∈ h.nodes, f j = g j)
    (htext : ∀ j, h.textSurface = some j → j ∈ h.nodes)
    (himage : ∀ j, h.imageSurface = some j → j ∈ h.nodes) : h.renumber f = h.renumber g := by
  have hparts : h.parts.renumber f = h.parts.renumber g := by
    have hall : ∀ j ∈ h.parts.nodes, f j = g j := fun j hj => hnodes j (List.mem_cons_of_mem _ hj)
    cases hcase : h.parts with
    | button label => cases label <;> simp_all [Parts.renumber, Parts.nodes]
    | _ => simp_all [Parts.renumber, Parts.nodes]
  rw [renumber, hnodes _ List.mem_cons_self, hparts,
    Option.map_congr fun j hj => hnodes j (htext j hj),
    Option.map_congr fun j hj => hnodes j (himage j hj)]
  rfl

theorem renumber_id (h : Handle) : h.renumber (fun i => i) = h := by
  have hparts : h.parts.renumber (fun i => i) = h.parts := by
    cases h.parts <;> simp [Parts.renumber]
  simp [renumber, hparts]

theorem assemble_alike {free : NodeId → Prop} {raised raised' : Raised}
    (hraised : raised.Alike f free raised') (name : String) (kind : Element.Kind) (node : NodeId)
    (outfit : Outfit) :
    assemble name kind (f node) outfit raised' =
      (assemble name kind node outfit raised).renumber f := by
  rw [assemble, assemble, withHome, withHome, hraised.text, hraised.imageSurface, hraised.parts]
  cases raised.parts <;> cases raised.text <;> rfl

end Handle

namespace Canvas

/-- A node shows a content of a hidden widget. -/
def IsFree (hidden : Nat → Prop) (canvas : Canvas) (j : NodeId) : Prop :=
  ∃ id h, canvas.widget? id = some h ∧ h.IsHidden hidden ∧ h.ShowsOn j

/-- Two canvases are the same up to a renumbering of the nodes, and up to the contents of hidden
widgets. -/
structure Alike (f : NodeId → NodeId) (hidden : Nat → Prop) (canvas canvas' : Canvas) : Prop where
  /-- The widgets have the same ids. -/
  size : canvas'.widgets.size = canvas.widgets.size
  blank : ∀ id, (canvas'.widget? id).map Handle.blank =
    (canvas.widget? id).map fun h => (h.renumber f).blank
  same : ∀ {id h}, canvas.widget? id = some h → ¬ h.IsHidden hidden →
    canvas'.widget? id = some (h.renumber f)
  scene : canvas.scene.Alike f (canvas.IsFree hidden) canvas'.scene

namespace Alike

variable {f : NodeId → NodeId} {hidden : Nat → Prop} {canvas canvas' : Canvas} {id : WidgetId}
  {h : Handle}

theorem refl (hidden : Nat → Prop) (canvas : Canvas) :
    canvas.Alike (fun i => i) hidden canvas where
  size := rfl
  blank := fun id => by simp only [Handle.renumber_id]
  same := fun hid _ => by rwa [Handle.renumber_id]
  scene := .refl _ canvas.scene

theorem isSome_widget? (hc : canvas.Alike f hidden canvas') (id : WidgetId) :
    (canvas'.widget? id).isSome = (canvas.widget? id).isSome := by
  have hsome := congrArg Option.isSome (hc.blank id)
  rwa [Option.isSome_map, Option.isSome_map] at hsome

theorem exists_widget? (hc : canvas.Alike f hidden canvas') (hid : canvas.widget? id = some h) :
    ∃ h', canvas'.widget? id = some h' ∧ h'.blank = (h.renumber f).blank := by
  have hblank := hc.blank id
  rw [hid] at hblank
  exact Option.map_eq_some_iff.mp hblank

theorem widget?_eq_none (hc : canvas.Alike f hidden canvas') (hid : canvas.widget? id = none) :
    canvas'.widget? id = none := by
  rw [← Option.not_isSome_iff_eq_none, hc.isSome_widget?, hid]
  exact Bool.false_ne_true

/-! ### Building -/

theorem push (hc : canvas.Alike f hidden canvas') {scene scene' : Scene} {h : Handle}
    (hscene : scene.Alike f (canvas.IsFree hidden) scene') :
    (⟨scene, canvas.widgets.push h⟩ : Canvas).Alike f hidden
      ⟨scene', canvas'.widgets.push (h.renumber f)⟩ := by
  refine ⟨?_, fun id => ?_, fun {id w} hid hseen => ?_, hscene.weaken ?_⟩
  · rw [Array.size_push, Array.size_push, hc.size]
  · rw [widget?_push, widget?_push, hc.size]
    split
    · rfl
    · exact hc.blank id
  · rw [widget?_push] at hid
    rw [widget?_push, hc.size]
    split
    · next he =>
      rw [if_pos he] at hid
      rw [Option.some.inj hid]
    · next hne =>
      rw [if_neg hne] at hid
      exact hc.same hid hseen
  · -- what has been free stays free: the widgets that were there are as they were
    rintro j ⟨id, w, hid, hw⟩
    have hne : id ≠ ⟨canvas.widgets.size⟩ := ne_next (widget?_lt hid)
    exact ⟨id, w, (widget?_push scene).trans ((if_neg hne).trans hid), hw⟩

/-- A widget is built in both canvases. -/
theorem build (hc : canvas.Alike f hidden canvas') (parent : NodeId) (name : String)
    (kind : Element.Kind) (outfit : Outfit) (blueprint : Blueprint) (group : Option GroupRef) :
    (canvas.build parent name kind outfit blueprint group).Alike f hidden
      (canvas'.build (f parent) name kind outfit blueprint (group.map (·.renumber f))) := by
  obtain ⟨node, made, made', hmade, hmade', hscene⟩ := hc.scene.create parent name
  simp only [Canvas.build, hmade, hmade', furnish]
  have hraised := Blueprint.raise_alike hscene node group blueprint
  have hhandle := Handle.assemble_alike hraised name kind node outfit
  simp only [Canvas.newHandle, hhandle]
  exact hc.push (((hraised.scene.applyTransform node _).setAlpha node _).setInteractable node _)

/-! ### Slots of widgets and contents -/

/-- A widget is changed in both canvases, and so are the scenes. -/
theorem modifyWidget (hc : canvas.Alike f hidden canvas') (id : WidgetId) (g : Handle → Handle)
    (hrenumber : ∀ h, (g h).renumber f = g (h.renumber f))
    (hblank : ∀ h h', h.blank = h'.blank → (g h).blank = (g h').blank)
    (hshows : ∀ h j, (g h).ShowsOn j ↔ h.ShowsOn j)
    (hhidden : ∀ h, canvas.widget? id = some h → h.IsHidden hidden → (g h).IsHidden hidden)
    {scene scene' : Scene} (hscene : scene.Alike f (canvas.IsFree hidden) scene') :
    ({ canvas.modifyWidget id g with scene } : Canvas).Alike f hidden
      { canvas'.modifyWidget id g with scene := scene' } := by
  have hwidget (scene : Scene) (canvas : Canvas) (j : WidgetId) :
      ({ canvas.modifyWidget id g with scene } : Canvas).widget? j =
        if j = id then (canvas.widget? j).map g else canvas.widget? j := widget?_modifyWidget
  refine ⟨?_, fun j => ?_, fun {j w} hj hw => ?_, hscene.weaken ?_⟩
  · exact (size_modifyWidget g).trans (hc.size.trans (size_modifyWidget g).symm)
  · rw [hwidget, hwidget]
    split
    · cases hj : canvas.widget? j with
      | none => rw [hc.widget?_eq_none hj]; rfl
      | some w =>
        obtain ⟨w', hj', he⟩ := hc.exists_widget? hj
        rw [hj']
        exact congrArg some ((hblank _ _ he).trans (congrArg Handle.blank (hrenumber w).symm))
    · exact hc.blank j
  · rw [hwidget] at hj
    rw [hwidget]
    split
    · next he =>
      rw [if_pos he] at hj
      obtain ⟨old, hold, rfl⟩ := Option.map_eq_some_iff.mp hj
      have hseen : ¬ old.IsHidden hidden := fun h => hw (hhidden old (he ▸ hold) h)
      rw [hc.same hold hseen, hrenumber]
      rfl
    · next hne =>
      rw [if_neg hne] at hj
      exact hc.same hj hw
  · -- a widget that has been hidden still is, and shows its content on the same nodes
    rintro j ⟨k, w, hk, hw, hj⟩
    by_cases he : k = id
    · refine ⟨k, g w, ?_, hhidden w (he ▸ hk) hw, (hshows w j).mpr hj⟩
      rw [hwidget, if_pos he, hk, Option.map_some]
    · refine ⟨k, w, ?_, hw, hj⟩
      rw [hwidget, if_neg he]
      exact hk

/-- A widget that is not hidden is given a slot in both canvases. -/
theorem setSlot (hc : canvas.Alike f hidden canvas')
    (hseen : ∀ h, canvas.widget? id = some h → ¬ h.IsHidden hidden) (slot : Option Nat) :
    (canvas.setSlot id slot).Alike f hidden (canvas'.setSlot id slot) :=
  hc.modifyWidget id (fun h => { h with slot }) (fun _ => rfl)
    (fun _ _ => congrArg fun h : Handle => { h with slot }) (fun _ _ => Iff.rfl)
    (fun h hid hold => absurd hold (hseen h hid)) hc.scene

/-- A widget has a surface in both canvases, which is renumbered, or in none. -/
theorem surface_cases (hc : canvas.Alike f hidden canvas') (id : WidgetId)
    (surface? : Handle → Option NodeId) (hblank : ∀ h, surface? h.blank = surface? h)
    (hrenumber : ∀ h, surface? (h.renumber f) = (surface? h).map f) :
    ((canvas.widget? id).bind surface? = none ∧ (canvas'.widget? id).bind surface? = none) ∨
      ∃ h h' surface, canvas.widget? id = some h ∧ canvas'.widget? id = some h' ∧
        surface? h = some surface ∧ surface? h' = some (f surface) := by
  cases hid : canvas.widget? id with
  | none => exact .inl ⟨rfl, by rw [hc.widget?_eq_none hid]; rfl⟩
  | some h =>
    obtain ⟨h', hid', he⟩ := hc.exists_widget? hid
    have hsurface : surface? h' = (surface? h).map f := by
      rw [← hblank, he, hblank, hrenumber]
    rw [hid']
    cases hsome : surface? h with
    | none => exact .inl ⟨hsome, by rw [Option.bind_some, hsurface, hsome]; rfl⟩
    | some surface =>
      exact .inr ⟨h, h', surface, rfl, rfl, hsome, by rw [hsurface, hsome]; rfl⟩

/-- A text is shown in both canvases. -/
theorem showText (hc : canvas.Alike f hidden canvas') (id : WidgetId) (text : String) :
    (canvas.showText id text).2.Alike f hidden (canvas'.showText id text).2 := by
  rw [Canvas.showText, Canvas.showText]
  rcases hc.surface_cases id Handle.textSurface (fun _ => rfl) fun _ => rfl with
    ⟨hnone, hnone'⟩ | ⟨h, h', surface, hid, hid', hsurface, hsurface'⟩
  · rw [hnone, hnone']
    exact hc
  · simp only [hid, hid', Option.bind_some, hsurface, hsurface', update_of_widget? hid,
      update_of_widget? hid']
    exact hc.modifyWidget id (fun h => { h with text := some text }) (fun _ => rfl)
      (fun _ _ he => he) (fun _ _ => Iff.rfl) (fun _ _ hold => hold)
      (hc.scene.setText surface text)

/-- A picture is shown in both canvases. -/
theorem showImage (hc : canvas.Alike f hidden canvas') (id : WidgetId) (image : Picture) :
    (canvas.showImage id image).2.Alike f hidden (canvas'.showImage id image).2 := by
  rw [Canvas.showImage, Canvas.showImage]
  rcases hc.surface_cases id Handle.imageSurface (fun _ => rfl) fun _ => rfl with
    ⟨hnone, hnone'⟩ | ⟨h, h', surface, hid, hid', hsurface, hsurface'⟩
  · rw [hnone, hnone']
    exact hc
  · simp only [hid, hid', Option.bind_some, hsurface, hsurface', update_of_widget? hid,
      update_of_widget? hid']
    exact hc.modifyWidget id (fun h => { h with image := some image }) (fun _ => rfl)
      (fun _ _ he => he) (fun _ _ => Iff.rfl) (fun _ _ hold => hold)
      (hc.scene.setImage surface image)

/-- A hidden widget may show another content in one canvas only. -/
theorem overwrite (hc : canvas.Alike f hidden canvas') (hid : canvas.widget? id = some h)
    (hhidden : h.IsHidden hidden) {surface : NodeId} (hshows : h.ShowsOn surface)
    (g : Handle → Handle) (hg : ∀ h, (g h).blank = h.blank) {scene' : Scene}
    (hscene : Scene.DifferAt (f surface) canvas'.scene scene') :
    canvas.Alike f hidden { canvas'.modifyWidget id g with scene := scene' } := by
  have hwidget (j : WidgetId) :
      ({ canvas'.modifyWidget id g with scene := scene' } : Canvas).widget? j =
        if j = id then (canvas'.widget? j).map g else canvas'.widget? j := widget?_modifyWidget
  refine ⟨(size_modifyWidget g).trans hc.size, fun j => ?_, fun {j w} hj hw => ?_,
    hc.scene.overwrite ⟨id, h, hid, hhidden, hshows⟩ hscene⟩
  · rw [hwidget, ← hc.blank]
    split
    · rw [Option.map_map]
      exact congrArg (Option.map · _) (funext hg)
    · rfl
  · -- the widget itself is hidden, so that nothing is asked of its content
    have hne : j ≠ id := by
      rintro rfl
      rw [Option.some.inj (hj.symm.trans hid)] at hw
      exact hw hhidden
    rw [hwidget, if_neg hne]
    exact hc.same hj hw

/-- A hidden widget may show a text in one canvas only. -/
theorem overwriteText (hc : canvas.Alike f hidden canvas') (hid : canvas.widget? id = some h)
    (hhidden : h.IsHidden hidden) (text : String) :
    canvas.Alike f hidden (canvas'.showText id text).2 := by
  rw [Canvas.showText]
  rcases hc.surface_cases id Handle.textSurface (fun _ => rfl) fun _ => rfl with
    ⟨-, hnone⟩ | ⟨w, w', surface, hw, hw', hsurface, hsurface'⟩
  · rw [hnone]
    exact hc
  · obtain rfl := Option.some.inj (hid.symm.trans hw)
    simp only [hw', Option.bind_some, hsurface', update_of_widget? hw']
    exact hc.overwrite hid hhidden (.inl hsurface) (fun h => { h with text := some text })
      (fun _ => rfl) (Scene.differAt_setText text)

/-- A hidden widget may show a picture in one canvas only. -/
theorem overwriteImage (hc : canvas.Alike f hidden canvas') (hid : canvas.widget? id = some h)
    (hhidden : h.IsHidden hidden) (image : Picture) :
    canvas.Alike f hidden (canvas'.showImage id image).2 := by
  rw [Canvas.showImage]
  rcases hc.surface_cases id Handle.imageSurface (fun _ => rfl) fun _ => rfl with
    ⟨-, hnone⟩ | ⟨w, w', surface, hw, hw', hsurface, hsurface'⟩
  · rw [hnone]
    exact hc
  · obtain rfl := Option.some.inj (hid.symm.trans hw)
    simp only [hw', Option.bind_some, hsurface', update_of_widget? hw']
    exact hc.overwrite hid hhidden (.inr hsurface) (fun h => { h with image := some image })
      (fun _ => rfl) (Scene.differAt_setImage image)

end Alike

end Canvas

end Uiml
