import Uiml.Build.Raise
import Uiml.Proofs.Scene.Face

/-!
# References between nodes

Components refer to nodes by their ids. No component refers to a node that has not been made yet: a
component is put on a node when the nodes that it refers to are there, and a component that takes
its place refers to the same ones.

## Main definitions

* `Component.refs` — the nodes that a component refers to
* `Scene.Within` — all nodes that components refer to have ids below a bound

## Main results

* `Scene.Within.set`, `Scene.Within.attach`, `Scene.Within.create` — changes that keep it so
* `Blueprint.raise_within` — a blueprint refers to no other nodes than its own and that of its group
-/

namespace Uiml

/-- The nodes that a component refers to. -/
def Component.refs : Component → List NodeId
  | .scroll spec => [spec.viewport, spec.content]
  | .slider spec => [spec.fill]
  | .toggle spec => spec.checkmark :: spec.group.toList
  | .inputField spec => [spec.textNode]
  | .dropdown spec => [spec.label]
  | _ => []

namespace Scene

/-- The components of a node refer to nodes with ids below a bound only. -/
def Node.Within (n : Nat) (node : Node) : Prop := ∀ c ∈ node.components, ∀ r ∈ c.refs, r.index < n

/-- All components refer to nodes with ids below a bound only. -/
def Within (n : Nat) (scene : Scene) : Prop := ∀ j node, scene.node? j = some node → node.Within n

/-- A replacement refers to the nodes that what it replaces refers to. -/
def KeepsRefs (f : Component → Option Component) : Prop := ∀ c d, f c = some d → d.refs = c.refs

variable {scene : Scene} {id parent : NodeId} {name : String} {n : Nat}

theorem Within.mono {m : Nat} (h : scene.Within n) (hle : n ≤ m) : scene.Within m :=
  fun j node hnode c hc r hr => Nat.lt_of_lt_of_le (h j node hnode c hc r hr) hle

theorem Within.congr {scene' : Scene} (h : scene.Within n)
    (hnode : ∀ j, scene'.node? j = scene.node? j) : scene'.Within n :=
  fun j node hj => h j node (hnode j ▸ hj)

theorem Within.modify {f : Node → Node} (h : scene.Within n)
    (hf : ∀ node, scene.node? id = some node → node.Within n → (f node).Within n) :
    (scene.modify id f).Within n := by
  intro j node hnode
  rw [node?_modify] at hnode
  split at hnode
  · next he =>
    subst he
    obtain ⟨old, hold, rfl⟩ := Option.map_eq_some_iff.mp hnode
    exact hf old hold (h j old hold)
  · exact h j node hnode

theorem Within.set {f : Node → Node} (h : scene.Within n)
    (hf : ∀ node, (f node).components = node.components) : (scene.modify id f).Within n :=
  h.modify fun node _ hnode => by rwa [Node.Within, hf]

theorem Within.attach (h : scene.Within n) {c : Component} (hc : ∀ r ∈ c.refs, r.index < n) :
    (scene.attach id c).Within n := by
  refine h.modify fun node _ hnode d hd => ?_
  rcases List.mem_append.mp hd with hd | hd
  · exact hnode d hd
  · rw [List.mem_singleton.mp hd]
    exact hc

theorem Within.attachAll (h : scene.Within n) {components : List Component}
    (hc : ∀ c ∈ components, ∀ r ∈ c.refs, r.index < n) :
    (scene.attachAll id components).Within n := by
  rw [Scene.attachAll]
  induction components generalizing scene with
  | nil => exact h
  | cons c components ih =>
    exact ih (h.attach (hc c List.mem_cons_self)) fun d hd => hc d (List.mem_cons_of_mem _ hd)

theorem Within.replaceComponent (h : scene.Within n) {f : Component → Option Component}
    (hf : KeepsRefs f) : (scene.replaceComponent id f).2.Within n := by
  rw [Scene.replaceComponent]
  cases scene.node? id with
  | none => exact h
  | some node =>
    refine h.modify fun node _ hnode d hd => ?_
    have hmem := List.mem_map_of_mem (f := Component.refs) hd
    rw [map_replaceFirst hf] at hmem
    obtain ⟨c, hc, hrefs⟩ := List.mem_map.mp hmem
    exact hrefs ▸ hnode c hc

theorem Within.setImage (h : scene.Within n) (image : Picture) :
    (scene.setImage id image).2.Within n := by
  rw [Scene.setImage]
  cases scene.node? id with
  | none => exact h
  | some node =>
    simp only
    split
    · exact h.set fun _ => rfl
    · exact h

theorem Within.create (h : scene.Within n) : (scene.create parent name).2.Within n := by
  refine Within.set (fun j node hnode => ?_) fun _ => rfl
  rw [node?_push] at hnode
  split at hnode
  · obtain rfl := Option.some.inj hnode
    exact fun c hc => nomatch hc
  · exact h j node hnode

theorem Within.setPosition (h : scene.Within n) (v : Vec2) : (scene.setPosition id v).Within n :=
  h.set fun _ => rfl

theorem Within.setSize (h : scene.Within n) (v : Vec2) : (scene.setSize id v).Within n :=
  h.set fun _ => rfl

theorem Within.setAnchors (h : scene.Within n) (v w : Vec2) : (scene.setAnchors id v w).Within n :=
  h.set fun _ => rfl

theorem Within.setPivot (h : scene.Within n) (v : Vec2) : (scene.setPivot id v).Within n :=
  h.set fun _ => rfl

theorem Within.setScale (h : scene.Within n) (v : Vec3) : (scene.setScale id v).Within n :=
  h.set fun _ => rfl

theorem Within.setAlpha (h : scene.Within n) (v : Float32) : (scene.setAlpha id v).Within n :=
  h.set fun _ => rfl

theorem Within.setInteractable (h : scene.Within n) (b : Bool) :
    (scene.setInteractable id b).Within n := h.set fun _ => rfl

theorem Within.applyTransform (h : scene.Within n) (t : Transform) :
    (scene.applyTransform id t).Within n :=
  ((((h.setAnchors _ _).setPivot _).setSize _).setPosition _).setScale _

theorem Within.stretch (h : scene.Within n) : (scene.stretch id).Within n :=
  ((h.setAnchors _ _).setSize _).setPosition _

theorem Within.createStretched (h : scene.Within n) :
    (scene.createStretched parent name).2.Within n := h.create.stretch

theorem keepsRefs_withText (text : String) : KeepsRefs (Component.withText? text) := by
  intro c d h
  cases c <;> cases h
  rfl

theorem keepsRefs_withSliderValue (value : Float32) :
    KeepsRefs (Component.withSliderValue? value) := by
  intro c d h
  cases c <;> cases h
  rfl

theorem keepsRefs_withToggle (isOn : Bool) : KeepsRefs (Component.withToggle? isOn) := by
  intro c d h
  cases c <;> cases h
  rfl

end Scene

namespace Blueprint

variable {scene : Scene} {node : NodeId} {n : Nat}

/-- The components of a blueprint refer to the nodes that it makes, and to the node of its group. -/
theorem raise_within (h : scene.Within n) {group : Option GroupRef} {blueprint : Blueprint}
    (hgroup : ∀ g, group = some g → g.node.index < n)
    (hn : (blueprint.raise scene node group).scene.nodes.size ≤ n) :
    (blueprint.raise scene node group).scene.Within n := by
  cases blueprint with
  | surface spec => exact h.attach (by simp [Component.refs])
  | panel background => exact h.attach (by simp [Component.refs])
  | text style => exact h.attach (by simp [Component.refs])
  | image tint => exact h.attach (by simp [Component.refs])
  | toggleGroup allowSwitchOff => exact h.attach (by simp [Component.refs])
  | layout spec autoSize =>
    exact h.attachAll (by cases autoSize <;> simp [autoFitter, Component.refs])
  | grid spec autoSize =>
    exact h.attachAll (by cases autoSize <;> simp [autoFitter, Component.refs])
  | button background label =>
    cases label with
    | none => exact h.attachAll (by simp [Component.refs])
    | some style =>
      refine .attach (.createStretched (.attachAll h ?_)) ?_ <;> simp [Component.refs]
  | scrollArea plan =>
    simp only [raise, raiseScrollArea] at hn ⊢
    refine .attach (.attachAll (.setPosition (.setSize (.setPivot (.setAnchors (.create
      (.attach (.createStretched (.attach h ?_)) ?_)) _ _) _) _) _) ?_) ?_
    case refine_3 => split <;> simp [Component.refs]
    -- the scroll view refers to its viewport and its content, which have been made before it
    all_goals simp [Component.refs] at hn ⊢
    omega
  | progressBar plan =>
    simp only [raise, raiseProgressBar] at hn ⊢
    refine .attach (.attach (.setPosition (.setSize (.setAnchors (.create (.createStretched
      (.attach (.createStretched h) ?_))) _ _) _) _) ?_) ?_
    all_goals simp [Component.refs] at hn ⊢
    omega
  | toggle box checkmark isOn name =>
    simp only [raise, raiseToggle] at hn ⊢
    refine .attach (.setAlpha (.attach (.createStretched (.attach (.setSize (.setPosition
      (.setAnchors (.create h) _ _) _) _) ?_)) ?_) _) ?_
    -- the switch refers to its mark, which has just been made, and to the node of its group
    all_goals simp [Component.refs] at hn ⊢
    exact ⟨by omega, hgroup⟩
  | inputField plan =>
    simp only [raise, raiseInputField] at hn ⊢
    refine .attach (.attach (.createStretched (.attach (.setSize (.createStretched
      (.attach h ?_)) _) ?_)) ?_) ?_
    all_goals simp [Component.refs] at hn ⊢
    omega
  | dropdown plan =>
    simp only [raise, raiseDropdown] at hn ⊢
    refine .attach (.attach (.setPosition (.setSize (.createStretched (.attach h ?_)) _) _) ?_) ?_
    all_goals simp [Component.refs] at hn ⊢
    omega

end Blueprint

end Uiml
