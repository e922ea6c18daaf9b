import Uiml.Build.Raise
import Uiml.Proofs.Scene.Tree

/-!
# The nodes of a blueprint

A blueprint makes nodes below the node of its widget, one after the other, each below that node or
below one that it has made before. So all nodes that it makes hang below the node of the widget, and
no other node gets or loses a child.

## Main definitions

* `Scene.Sprouts` — nodes are made at and below a node
* `Handle.Parts.extent`, `Handle.Owns` — the nodes that are made for a widget

## Main results

* `Scene.Sprouts.sprouted`, `Scene.Sprouted.below` — what becomes of the tree
* `Blueprint.raise_sprouts`, `Blueprint.size_raise` — every blueprint does so, and how many it makes
-/

namespace Uiml

namespace Scene

/-- Nodes are made below a node and below each other, and fields of nodes are set. -/
inductive Sprouts (scene : Scene) (node : NodeId) : Scene → Prop
  | refl : Sprouts scene node scene
  | set {scene' scene'' : Scene} (h : Sprouts scene node scene') (hset : scene'.SameTree scene'') :
      Sprouts scene node scene''
  | create {scene' : Scene} (h : Sprouts scene node scene') (parent : NodeId) (name : String)
      (hparent : parent = node ∨
        scene.nodes.size ≤ parent.index ∧ parent.index < scene'.nodes.size) :
      Sprouts scene node (scene'.create parent name).2

/-- What is made below a node hangs below it, and is new; nothing else is changed in the tree. -/
structure Sprouted (scene : Scene) (node : NodeId) (scene' : Scene) : Prop where
  size : scene.nodes.size ≤ scene'.nodes.size
  old : ∀ j, j.index < scene.nodes.size → j ≠ node → scene'.ties? j = scene.ties? j
  stem : ∃ t t', scene.ties? node = some t ∧ scene'.ties? node = some t' ∧ t'.name = t.name ∧
    t'.parent = t.parent
  fresh : ∀ j, scene.nodes.size ≤ j.index → j.index < scene'.nodes.size →
    ∃ t p, scene'.ties? j = some t ∧ t.parent = some p ∧
      (p = node ∨ scene.nodes.size ≤ p.index ∧ p.index < scene'.nodes.size)

namespace Sprouted

variable {scene between scene' : Scene} {node parent : NodeId}

theorem refl (hnode : scene.contains node = true) : Sprouted scene node scene := by
  obtain ⟨t, ht⟩ := exists_ties? hnode
  exact ⟨Nat.le_refl _, fun _ _ _ => rfl, ⟨t, t, ht, ht, rfl, rfl⟩,
    fun _ hle hlt => absurd hlt (Nat.not_lt_of_le hle)⟩

theorem set (h : Sprouted scene node between) (hset : between.SameTree scene') :
    Sprouted scene node scene' where
  size := hset.size ▸ h.size
  old := fun j hj hne => (hset.ties j).trans (h.old j hj hne)
  stem := by
    rw [hset.ties]
    exact h.stem
  fresh := by
    intro j hle hlt
    rw [hset.ties, hset.size]
    exact h.fresh j hle (hset.size ▸ hlt)

/-- A node below which another is made is there: it is the node itself, or has been made before. -/
theorem contains_parent (h : Sprouted scene node between)
    (hparent : parent = node ∨
      scene.nodes.size ≤ parent.index ∧ parent.index < between.nodes.size) :
    between.contains parent = true := by
  rcases hparent with rfl | ⟨hle, hlt⟩
  · obtain ⟨-, t', -, ht', -⟩ := h.stem
    exact contains_of_ties? ht'
  · obtain ⟨t, -, ht, -⟩ := h.fresh parent hle hlt
    exact contains_of_ties? ht

theorem create (h : Sprouted scene node between) (hnode : scene.contains node = true)
    (hparent : parent = node ∨
      scene.nodes.size ≤ parent.index ∧ parent.index < between.nodes.size) (name : String) :
    Sprouted scene node (between.create parent name).2 := by
  have hlive := h.contains_parent hparent
  have hlt := lt_size_of_contains hnode
  have hsize := h.size
  refine ⟨?size, fun j hj hne => ?old, ?stem, fun j hle hj => ?fresh⟩
  case size =>
    rw [size_create]
    omega
  case old =>
    have hother : j ≠ parent := by
      rintro rfl
      rcases hparent with rfl | ⟨hle, -⟩
      · exact hne rfl
      · omega
    rw [ties?_create hlive, if_neg (ne_next (by omega)), if_neg hother, h.old j hj hne]
  case stem =>
    obtain ⟨t, t', ht, ht', hname, hparent'⟩ := h.stem
    rw [ties?_create hlive, if_neg (ne_next (by omega)), ht']
    split
    · exact ⟨t, _, ht, rfl, hname, hparent'⟩
    · exact ⟨t, t', ht, rfl, hname, hparent'⟩
  case fresh =>
    have hmono {p : NodeId} (hp : p = node ∨
        scene.nodes.size ≤ p.index ∧ p.index < between.nodes.size) :
        p = node ∨ scene.nodes.size ≤ p.index ∧ p.index < between.nodes.size + 1 :=
      hp.imp_right fun hp => ⟨hp.1, Nat.lt_succ_of_lt hp.2⟩
    rw [size_create] at hj ⊢
    rw [ties?_create hlive]
    by_cases he : j = ⟨between.nodes.size⟩
    · rw [if_pos he]
      exact ⟨_, parent, rfl, rfl, hmono hparent⟩
    · have hne : j.index ≠ between.nodes.size := mt ext_index_iff.mpr he
      obtain ⟨t, p, ht, hp, hplace⟩ := h.fresh j hle (by omega)
      rw [if_neg he, ht]
      split
      · exact ⟨_, p, rfl, hp, hmono hplace⟩
      · exact ⟨t, p, rfl, hp, hmono hplace⟩

/-- All that is made hangs below the node, in a tree. -/
theorem below (h : Sprouted scene node scene') (htree : scene'.IsTree)
    (hnode : scene.contains node = true) {j : NodeId} (hle : scene.nodes.size ≤ j.index)
    (hlt : j.index < scene'.nodes.size) : scene'.Below node j := by
  have hold := lt_size_of_contains hnode
  -- by induction on the id, as a parent has a smaller one than its child
  induction hn : j.index using Nat.strongRecOn generalizing j with
  | ind n ih =>
    subst hn
    obtain ⟨t, p, ht, hp, hplace⟩ := h.fresh j hle hlt
    have hroot : j ≠ Scene.root := by
      rintro rfl
      exact Nat.not_lt_zero _ (Nat.lt_of_lt_of_le hold hle)
    obtain ⟨p', hp', hchild⟩ := htree.parent ht hroot
    obtain rfl : p = p' := Option.some.inj (hp.symm.trans hp')
    rcases hplace with rfl | ⟨hle', hlt'⟩
    · exact .single hchild
    · have hsmaller : p.index < j.index := by
        obtain ⟨tp, htp, hmem⟩ := hchild
        exact (htree.child htp hmem).1
      have hparent : scene'.Below node p := ih p.index hsmaller hle' hlt' rfl
      exact hparent.tail hchild

end Sprouted

namespace Sprouts

variable {scene scene' : Scene} {node : NodeId}

/-! The fields of nodes that a blueprint sets tie no node elsewhere. -/

theorem setPosition (h : Sprouts scene node scene') (id : NodeId) (v : Vec2) :
    Sprouts scene node (scene'.setPosition id v) := h.set ⟨by simp, by simp⟩

theorem setSize (h : Sprouts scene node scene') (id : NodeId) (v : Vec2) :
    Sprouts scene node (scene'.setSize id v) := h.set ⟨by simp, by simp⟩

theorem setAnchors (h : Sprouts scene node scene') (id : NodeId) (v w : Vec2) :
    Sprouts scene node (scene'.setAnchors id v w) := h.set ⟨by simp, by simp⟩

theorem setPivot (h : Sprouts scene node scene') (id : NodeId) (v : Vec2) :
    Sprouts scene node (scene'.setPivot id v) := h.set ⟨by simp, by simp⟩

theorem setAlpha (h : Sprouts scene node scene') (id : NodeId) (v : Float32) :
    Sprouts scene node (scene'.setAlpha id v) := h.set ⟨by simp, by simp⟩

theorem attach (h : Sprouts scene node scene') (id : NodeId) (c : Component) :
    Sprouts scene node (scene'.attach id c) := h.set ⟨by simp, by simp⟩

theorem attachAll (h : Sprouts scene node scene') (id : NodeId) (components : List Component) :
    Sprouts scene node (scene'.attachAll id components) := h.set ⟨by simp, by simp⟩

theorem createStretched (h : Sprouts scene node scene') (parent : NodeId) (name : String)
    (hparent : parent = node ∨
      scene.nodes.size ≤ parent.index ∧ parent.index < scene'.nodes.size) :
    Sprouts scene node (scene'.createStretched parent name).2 :=
  (h.create parent name hparent).set ⟨size_stretch .., fun _ => ties?_stretch ..⟩

theorem sprouted (h : Sprouts scene node scene') (hnode : scene.contains node = true) :
    Sprouted scene node scene' := by
  induction h with
  | refl => exact .refl hnode
  | set _ hset ih => exact ih.set hset
  | create _ parent name hparent ih => exact ih.create hnode hparent name

theorem isTree (h : Sprouts scene node scene') (htree : scene.IsTree) : scene'.IsTree := by
  induction h with
  | refl => exact htree
  | set _ hset ih => exact ih.congr hset.ties
  | create _ parent name _ ih => exact ih.create parent name

/-- What is made anew takes no child from another node. -/
theorem isChild (h : Sprouts scene node scene') (htree : scene.IsTree) {p c : NodeId}
    (hchild : scene.IsChild p c) : scene'.IsChild p c := by
  induction h with
  | refl => exact hchild
  | set _ hset ih => exact ih.congr hset.ties
  | create hbefore parent name _ ih => exact (hbefore.isTree htree).isChild_create ih parent name

end Sprouts

end Scene

namespace Handle

/-- The number of nodes that are made for the parts of a widget. -/
def Parts.extent : Parts → Nat
  | .plain => 0
  | .button label => label.toList.length
  | .scrollArea _ _ => 2
  | .progressBar _ => 3
  | .toggle _ _ _ => 2
  | .inputField _ => 2
  | .dropdown _ _ _ => 1

/-- A node has been made for a widget: it is the node of the widget, or one of those that were made
right after it for its parts. -/
def Owns (h : Handle) (j : NodeId) : Prop :=
  h.node.index ≤ j.index ∧ j.index ≤ h.node.index + h.parts.extent

end Handle

namespace Blueprint

open Scene

variable (scene : Scene) (node : NodeId)

/-- A blueprint makes as many nodes as its parts tell. -/
theorem size_raise (group : Option GroupRef) (blueprint : Blueprint) :
    (blueprint.raise scene node group).scene.nodes.size =
      scene.nodes.size + (blueprint.raise scene node group).parts.extent := by
  cases blueprint with
  | button background label =>
    cases label <;> simp [raise, raiseButton, Handle.Parts.extent]
  | scrollArea => simp [raise, raiseScrollArea, Handle.Parts.extent]
  | progressBar => simp [raise, raiseProgressBar, Handle.Parts.extent]
  | toggle => simp [raise, raiseToggle, Handle.Parts.extent]
  | inputField => simp [raise, raiseInputField, Handle.Parts.extent]
  | dropdown => simp [raise, raiseDropdown, Handle.Parts.extent]
  | _ => simp [raise, Handle.Parts.extent]

/-- A blueprint makes nodes below the node of its widget. -/
theorem raise_sprouts (group : Option GroupRef) (blueprint : Blueprint) :
    scene.Sprouts node (blueprint.raise scene node group).scene := by
  have hnone : scene.Sprouts node scene := .refl
  cases blueprint with
  | surface spec => exact hnone.attach node _
  | panel background => exact hnone.attach node _
  | text style => exact hnone.attach node _
  | image tint => exact hnone.attach node _
  | toggleGroup allowSwitchOff => exact hnone.attach node _
  | layout spec autoSize => exact hnone.attachAll node _
  | grid spec autoSize => exact hnone.attachAll node _
  | button background label =>
    cases label with
    | none => exact hnone.attachAll node _
    | some style => exact .attach (.createStretched (.attachAll hnone _ _) _ _ (.inl rfl)) _ _
  | scrollArea plan =>
    simp only [raise, raiseScrollArea]
    refine .attach (.attachAll (.setPosition (.setSize (.setPivot (.setAnchors (.create
      (.attach (.createStretched (.attach hnone _ _) _ _ (.inl rfl)) _ _) _ _ (.inr ?_)) _ _ _)
      _ _) _ _) _ _) _ _) _ _
    simp
  | progressBar plan =>
    simp only [raise, raiseProgressBar]
    refine .attach (.attach (.setPosition (.setSize (.setAnchors (.create (.createStretched
      (.attach (.createStretched hnone _ _ (.inl rfl)) _ _) _ _ (.inl rfl)) _ _ (.inr ?_)) _ _ _)
      _ _) _ _) _ _) _ _
    simp
  | toggle box checkmark isOn =>
    simp only [raise, raiseToggle]
    refine .attach (.setAlpha (.attach (.createStretched (.attach (.setSize (.setPosition
      (.setAnchors (.create hnone _ _ (.inl rfl)) _ _ _) _ _) _ _) _ _) _ _ (.inr ?_)) _ _) _ _) _ _
    simp
  | inputField plan =>
    simp only [raise, raiseInputField]
    refine .attach (.attach (.createStretched (.attach (.setSize (.createStretched
      (.attach hnone _ _) _ _ (.inl rfl)) _ _) _ _) _ _ (.inr ?_)) _ _) _ _
    simp
  | dropdown plan =>
    exact .attach (.attach (.setPosition (.setSize (.createStretched (.attach hnone _ _) _ _
      (.inl rfl)) _ _) _ _) _ _) _ _

end Blueprint

end Uiml
