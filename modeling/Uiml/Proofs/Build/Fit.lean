import Uiml.Proofs.Build.Visit
import Uiml.Proofs.Canvas.Mirror

/-!
# New widgets fit their nodes

A blueprint makes nodes of its own and refers to them: a progress bar to its fill, a switch to its
checkmark, a button to its label. This module shows that what it says of them is what they show, and
that it leaves the nodes that were there before alone. With that a new widget is settled.

## Main definitions

* `Raised.Fits` — what a blueprint adds to a widget agrees with the nodes that it makes

## Main results

* `Blueprint.raise_fits` — every blueprint does so
* `Canvas.furnish_settled` — a new widget agrees with its nodes
-/

namespace Uiml

/-- What a blueprint adds to a widget fits the nodes that it makes. -/
structure Raised.Fits (raised : Raised) (scene : Scene) (node : NodeId) : Prop where
  keeps : ∀ j, j.index < scene.nodes.size → j ≠ node → ∀ p, scene.Shows j p → raised.scene.Shows j p
  size : scene.nodes.size ≤ raised.scene.nodes.size
  fresh : ∀ j ∈ raised.parts.nodes, scene.nodes.size ≤ j.index
  nodup : raised.parts.nodes.Nodup
  live : ∀ j ∈ node :: raised.parts.nodes, raised.scene.Shows j fun _ => True
  text : ∀ surface text, raised.text = some (surface, text) →
    surface ∈ node :: raised.parts.nodes ∧
      raised.scene.Shows surface fun face => face.text? = some text
  image : ∀ surface, raised.imageSurface = some surface →
    surface = node ∧ raised.scene.Shows surface fun face =>
      face.image = none ∧ face.components.any Component.isImage = true
  fill : ∀ bar, raised.parts = .progressBar bar →
    raised.scene.Shows bar.fill fun face => (face.anchorMin, face.anchorMax) = bar.anchors
  slider : ∀ bar, raised.parts = .progressBar bar →
    raised.scene.Shows node fun face => face.component? "Slider" = some (.slider bar.slider)
  checkmark : ∀ checkmark isOn group, raised.parts = .toggle checkmark isOn group →
    raised.scene.Shows checkmark fun face => face.alpha = if isOn then 1 else 0
  toggle : ∀ checkmark isOn group, raised.parts = .toggle checkmark isOn group →
    raised.scene.Shows node fun face =>
      ∃ spec, face.component? "Toggle" = some (.toggle spec) ∧ spec.isOn = isOn

namespace Blueprint

open Scene.Node Component

variable {scene : Scene} {node : NodeId} {bare : Scene.Node}

/-- A node that is there already is none of the next three that are made. -/
theorem ne_of_index_lt {j : NodeId} {n : Nat} (h : j.index < n) :
    (j ≠ ⟨n⟩ ∧ j ≠ ⟨n + 1⟩ ∧ j ≠ ⟨n + 1 + 1⟩) ∧ (⟨n⟩ ≠ j ∧ ⟨n + 1⟩ ≠ j ∧ ⟨n + 1 + 1⟩ ≠ j) := by
  simp only [ne_eq, Scene.ext_index_iff]
  omega

theorem index_lt_of_node? (hnode : scene.node? node = some bare) :
    node.index < scene.nodes.size :=
  ((Scene.shows_iff_of_node? (p := fun _ => True) hnode).mpr trivial).lt_size

section Raising

variable (hnode : scene.node? node = some bare)

include hnode

/-! The nodes that a blueprint makes have the next ids. So that the faces of the node and of its
parts can be computed, it is enough to know that no two of these ids are the same. -/

theorem raiseButton_fits (background : Color) (label : Option TextStyle) :
    (raiseButton scene node background label).Fits scene node := by
  have hshows (p) : scene.Shows node p ↔ p bare.face := Scene.shows_iff_of_node? hnode
  have hlt := index_lt_of_node? hnode
  cases label with
  | none =>
    constructor
    case keeps =>
      intro j hj hne p hp
      simpa [raiseButton, hne] using hp
    all_goals simp [raiseButton, Handle.Parts.nodes, hshows]
  | some style =>
    constructor
    case keeps =>
      intro j hj hne p hp
      simpa [raiseButton, hne, ne_of_index_lt hj] using hp
    all_goals
      simp [raiseButton, Handle.Parts.nodes, hshows, ne_of_index_lt hlt, Scene.Node.text?,
        Component.text?]

theorem raiseScrollArea_fits (plan : ScrollPlan) :
    (raiseScrollArea scene node plan).Fits scene node := by
  have hshows (p) : scene.Shows node p ↔ p bare.face := Scene.shows_iff_of_node? hnode
  have hlt := index_lt_of_node? hnode
  constructor
  case keeps =>
    intro j hj hne p hp
    simpa [raiseScrollArea, hne, ne_of_index_lt hj] using hp
  all_goals
    simp [raiseScrollArea, Handle.Parts.nodes, hshows, ne_of_index_lt hlt,
      Nat.le_add_right_of_le]

theorem raiseProgressBar_fits (hcomponents : bare.components = []) (plan : BarPlan) :
    (raiseProgressBar scene node plan).Fits scene node := by
  have hshows (p) : scene.Shows node p ↔ p bare.face := Scene.shows_iff_of_node? hnode
  have hlt := index_lt_of_node? hnode
  constructor
  case keeps =>
    intro j hj hne p hp
    simpa [raiseProgressBar, hne, ne_of_index_lt hj] using hp
  all_goals
    simp [raiseProgressBar, Handle.Parts.nodes, hshows, ne_of_index_lt hlt, component?, face,
      hcomponents, kindName, ProgressBar.slider, Nat.le_add_right_of_le]

theorem raiseToggle_fits (hcomponents : bare.components = []) (box checkmark : Color)
    (isOn : Bool) (group : Option GroupRef) :
    (raiseToggle scene node box checkmark isOn group).Fits scene node := by
  have hshows (p) : scene.Shows node p ↔ p bare.face := Scene.shows_iff_of_node? hnode
  have hlt := index_lt_of_node? hnode
  constructor
  case keeps =>
    intro j hj hne p hp
    simpa [raiseToggle, hne, ne_of_index_lt hj] using hp
  all_goals
    simp [raiseToggle, Handle.Parts.nodes, hshows, ne_of_index_lt hlt, component?, face,
      hcomponents, kindName, Nat.le_add_right_of_le]

theorem raiseInputField_fits (plan : InputPlan) :
    (raiseInputField scene node plan).Fits scene node := by
  have hshows (p) : scene.Shows node p ↔ p bare.face := Scene.shows_iff_of_node? hnode
  have hlt := index_lt_of_node? hnode
  constructor
  case keeps =>
    intro j hj hne p hp
    simpa [raiseInputField, hne, ne_of_index_lt hj] using hp
  all_goals
    simp [raiseInputField, Handle.Parts.nodes, hshows, ne_of_index_lt hlt, Scene.Node.text?,
      Component.text?, Nat.le_add_right_of_le]

theorem raiseDropdown_fits (plan : DropdownPlan) :
    (raiseDropdown scene node plan).Fits scene node := by
  have hshows (p) : scene.Shows node p ↔ p bare.face := Scene.shows_iff_of_node? hnode
  have hlt := index_lt_of_node? hnode
  constructor
  case keeps =>
    intro j hj hne p hp
    simpa [raiseDropdown, hne, ne_of_index_lt hj] using hp
  all_goals
    simp [raiseDropdown, Handle.Parts.nodes, hshows, ne_of_index_lt hlt, Scene.Node.text?,
      Component.text?]

/-- A blueprint that makes no nodes only has to tell the truth about the text and the picture of the
node that is there. -/
theorem attachAll_fits (components : List Component) (text : Option String) (hasImage : Bool)
    (htext : ∀ s, text = some s →
      (bare.components ++ components).findSome? Component.text? = some s)
    (himage : hasImage = true →
      bare.image = none ∧ (bare.components ++ components).any Component.isImage = true) :
    Raised.Fits
      { scene := scene.attachAll node components
        text := text.map fun s => (node, s)
        imageSurface := if hasImage then some node else none } scene node := by
  have hshows (p) : scene.Shows node p ↔ p bare.face := Scene.shows_iff_of_node? hnode
  constructor
  case keeps =>
    intro j hj hne p hp
    simpa [hne] using hp
  case text =>
    intro surface s hs
    obtain ⟨_, hsome, heq⟩ := Option.map_eq_some_iff.mp hs
    obtain ⟨rfl, rfl⟩ := Prod.mk.inj heq
    simpa [Handle.Parts.nodes, hshows, Scene.Node.text?, face] using htext _ hsome
  case image =>
    intro surface hsurface
    cases hasImage with
    | false => cases hsurface
    | true =>
      cases hsurface
      refine ⟨rfl, (Scene.shows_attachAll ..).mpr ((hshows _).mpr ?_)⟩
      rw [if_pos rfl]
      exact himage rfl
  all_goals simp [Handle.Parts.nodes, hshows]

end Raising

/-- What a blueprint adds to a widget fits the nodes that it makes, if the node of the widget is
new. -/
theorem raise_fits (hnode : scene.node? node = some bare) (hcomponents : bare.components = [])
    (himage : bare.image = none) (group : Option GroupRef) (blueprint : Blueprint) :
    (blueprint.raise scene node group).Fits scene node := by
  have hattached (components : List Component) :
      Raised.Fits { scene := scene.attachAll node components } scene node :=
    attachAll_fits hnode components none false (fun _ h => nomatch h) (fun h => nomatch h)
  cases blueprint with
  | surface spec => exact hattached [.canvas spec]
  | panel background => exact hattached [.fill background]
  | text style =>
    refine attachAll_fits hnode [.text style] (some style.text) false ?_ (fun h => nomatch h)
    rintro _ ⟨⟩
    rw [hcomponents]
    rfl
  | button background label => exact raiseButton_fits hnode background label
  | image tint =>
    refine attachAll_fits hnode [.image tint] none true (fun _ h => nomatch h) fun _ => ⟨himage, ?_⟩
    rw [hcomponents]
    rfl
  | scrollArea plan => exact raiseScrollArea_fits hnode plan
  | progressBar plan => exact raiseProgressBar_fits hnode hcomponents plan
  | toggleGroup allowSwitchOff => exact hattached [.toggleGroup allowSwitchOff]
  | toggle box checkmark isOn _ => exact raiseToggle_fits hnode hcomponents box checkmark isOn group
  | inputField plan => exact raiseInputField_fits hnode plan
  | dropdown plan => exact raiseDropdown_fits hnode plan
  | layout spec autoSize => exact hattached (.layout spec :: autoFitter autoSize)
  | grid spec autoSize => exact hattached (.grid spec :: autoFitter autoSize)

end Blueprint

/-- The looks of a widget are seen on its node alone, and change none of its components. -/
theorem Scene.shows_dress {scene : Scene} {node j : NodeId} {p : Scene.Node → Prop} (t : Transform)
    (alpha : Float32) (interactable : Bool) :
    (((scene.applyTransform node t).setAlpha node alpha).setInteractable node interactable).Shows j
        p ↔
      scene.Shows j fun face =>
        p (if j = node then
            { face with
              position := t.position, size := t.size, anchorMin := t.anchorMin
              anchorMax := t.anchorMax, pivot := t.pivot, scale := t.scale, alpha, interactable }
          else face) := by
  by_cases h : j = node <;> simp [Scene.applyTransform, h]

namespace Canvas

variable {canvas : Canvas} {node : NodeId} {bare : Scene.Node}

/-- The text surface of a new widget shows the text that the blueprint says. -/
theorem newHandle_text {canvas : Canvas} {name : String} {kind : Element.Kind} {node : NodeId}
    {outfit : Outfit} {blueprint : Blueprint} {group : Option GroupRef} {surface : NodeId}
    (h : (canvas.newHandle name kind node outfit blueprint group).textSurface = some surface) :
    ∃ text, (blueprint.raise canvas.scene node group).text = some (surface, text) ∧
      (canvas.newHandle name kind node outfit blueprint group).text = some text := by
  change (blueprint.raise canvas.scene node group).text.map Prod.fst = some surface at h
  obtain ⟨⟨surface', text⟩, htext, hsurface⟩ := Option.map_eq_some_iff.mp h
  refine ⟨text, by rw [htext, ← hsurface], ?_⟩
  change (blueprint.raise canvas.scene node group).text.map Prod.snd = some text
  rw [htext, Option.map_some]

/-- Furnishing a node leaves the faces of all others as they were. -/
theorem furnish_keeps (hnode : canvas.scene.node? node = some bare)
    (hcomponents : bare.components = []) (himage : bare.image = none) (name : String)
    (kind : Element.Kind) (outfit : Outfit) (blueprint : Blueprint) (group : Option GroupRef)
    {j : NodeId} (hj : j.index < canvas.scene.nodes.size) (hne : j ≠ node) {p : Scene.Node → Prop}
    (hp : canvas.scene.Shows j p) :
    (canvas.furnish name kind node outfit blueprint group).scene.Shows j p := by
  have hfits := Blueprint.raise_fits hnode hcomponents himage group blueprint
  refine (Scene.shows_dress ..).mpr ?_
  simpa only [hne, if_false] using hfits.keeps j hj hne p hp

/-- A new widget agrees with its nodes. -/
theorem furnish_settled (hnode : canvas.scene.node? node = some bare)
    (hcomponents : bare.components = []) (himage : bare.image = none) (name : String)
    (kind : Element.Kind) (outfit : Outfit) (blueprint : Blueprint) (group : Option GroupRef) :
    (canvas.newHandle name kind node outfit blueprint group).Settled
      (canvas.furnish name kind node outfit blueprint group).scene := by
  have hfits := Blueprint.raise_fits hnode hcomponents himage group blueprint
  have hlt := Blueprint.index_lt_of_node? hnode
  -- the parts are newer than the node, hence none of them is the node itself
  have hparts : ∀ {j}, j ∈ (blueprint.raise canvas.scene node group).parts.nodes → j ≠ node := by
    rintro j hj rfl
    exact Nat.lt_irrefl _ (Nat.lt_of_lt_of_le hlt (hfits.fresh j hj))
  -- the looks change no component and no picture, so what the blueprint made of these stays
  have hkeep : ∀ {j p}, (blueprint.raise canvas.scene node group).scene.Shows j p →
      (∀ (face : Scene.Node) (t : Transform) alpha interactable, p face →
        p { face with
            position := t.position, size := t.size, anchorMin := t.anchorMin
            anchorMax := t.anchorMax, pivot := t.pivot, scale := t.scale, alpha, interactable }) →
      (canvas.furnish name kind node outfit blueprint group).scene.Shows j p := by
    intro j p hp hlooks
    refine (Scene.shows_dress ..).mpr (hp.imp fun face hface => ?_)
    split
    · exact hlooks face _ _ _ hface
    · exact hface
  have hother : ∀ {j p}, (blueprint.raise canvas.scene node group).scene.Shows j p → j ≠ node →
      (canvas.furnish name kind node outfit blueprint group).scene.Shows j p := by
    intro j p hp hne
    refine (Scene.shows_dress ..).mpr ?_
    simpa only [hne, if_false] using hp
  refine ⟨⟨?node, ?text, ?image, ?fill, ?slider, ?checkmark, ?toggle⟩,
    ?live, ?nodup, ?textPlace, ?imagePlace, ?imageShown⟩
  case node =>
    have hself : (canvas.newHandle name kind node outfit blueprint group).node = node := rfl
    refine (Scene.shows_dress ..).mpr ((hfits.live node List.mem_cons_self).imp fun face _ => ?_)
    rw [if_pos hself]
    exact ⟨rfl, rfl, rfl⟩
  case text =>
    intro surface hsurface
    obtain ⟨text, hraised, htext⟩ := newHandle_text hsurface
    refine (hkeep (hfits.text surface text hraised).2 fun _ _ _ _ => id).imp fun face hface => ?_
    exact ⟨text, htext, hface⟩
  case image =>
    intro surface hsurface
    exact (hkeep (hfits.image surface hsurface).2 fun _ _ _ _ => id).imp fun _ hface => hface.1
  case fill =>
    exact fun bar hbar => hother (hfits.fill bar hbar) (hparts (Handle.fill_mem_parts hbar))
  case slider =>
    exact fun bar hbar => hkeep (hfits.slider bar hbar) fun _ _ _ _ => id
  case checkmark =>
    exact fun checkmark isOn group' htoggle =>
      hother (hfits.checkmark checkmark isOn group' htoggle)
        (hparts (Handle.checkmark_mem_parts htoggle))
  case toggle =>
    exact fun checkmark isOn group' htoggle =>
      hkeep (hfits.toggle checkmark isOn group' htoggle) fun _ _ _ _ => id
  case live =>
    exact fun j hj => (hkeep (hfits.live j hj) fun _ _ _ _ => id).contains
  case nodup =>
    exact List.nodup_cons.mpr ⟨fun hmem => hparts hmem rfl, hfits.nodup⟩
  case textPlace =>
    intro surface hsurface
    obtain ⟨text, hraised, -⟩ := newHandle_text hsurface
    exact (hfits.text surface text hraised).1
  case imagePlace =>
    exact fun surface hsurface => (hfits.image surface hsurface).1 ▸ List.mem_cons_self
  case imageShown =>
    intro surface hsurface
    exact (hkeep (hfits.image surface hsurface).2 fun _ _ _ _ => id).imp fun _ hface => hface.2

/-! ### Building -/

section Building

variable (canvas : Canvas) (parent : NodeId) (name : String) (kind : Element.Kind) (outfit : Outfit)
  (blueprint : Blueprint) (group : Option GroupRef)

/-- The node that is made for a new widget shows nothing yet. -/
theorem exists_bare : ∃ bare, (canvas.scene.create parent name).2.node? ⟨canvas.scene.nodes.size⟩ =
    some bare ∧ bare.components = [] ∧ bare.image = none := by
  obtain ⟨bare, hnode, hbare⟩ : (canvas.scene.create parent name).2.Shows
      ⟨canvas.scene.nodes.size⟩ fun face => face = { name } := by
    rw [Scene.shows_create, if_pos rfl]
  exact ⟨bare, hnode, congrArg Scene.Node.components hbare, congrArg Scene.Node.image hbare⟩

/-- A new widget agrees with its nodes. -/
theorem build_settled : (canvas.builtHandle parent name kind outfit blueprint group).Settled
    (canvas.build parent name kind outfit blueprint group).scene := by
  let made : Canvas := { canvas with scene := (canvas.scene.create parent name).2 }
  obtain ⟨bare, hnode, hcomponents, himage⟩ :
      ∃ bare, made.scene.node? ⟨canvas.scene.nodes.size⟩ = some bare ∧ bare.components = [] ∧
        bare.image = none := canvas.exists_bare parent name
  exact furnish_settled hnode hcomponents himage name kind outfit blueprint group

/-- Building a widget leaves the faces of all nodes as they were. -/
theorem build_keeps {j : NodeId} (hj : j.index < canvas.scene.nodes.size) {p : Scene.Node → Prop}
    (hp : canvas.scene.Shows j p) :
    (canvas.build parent name kind outfit blueprint group).scene.Shows j p := by
  let made : Canvas := { canvas with scene := (canvas.scene.create parent name).2 }
  obtain ⟨bare, hnode, hcomponents, himage⟩ :
      ∃ bare, made.scene.node? ⟨canvas.scene.nodes.size⟩ = some bare ∧ bare.components = [] ∧
        bare.image = none := canvas.exists_bare parent name
  have hne : j ≠ ⟨canvas.scene.nodes.size⟩ := (Blueprint.ne_of_index_lt hj).1.1
  refine furnish_keeps hnode hcomponents himage name kind outfit blueprint group ?_ hne ?_
  · rw [Scene.size_create]
    exact Nat.lt_succ_of_lt hj
  · rw [Scene.shows_create, if_neg hne]
    exact hp

/-- A new widget writes to new nodes. -/
theorem builtHandle_fresh :
    ∀ j ∈ (canvas.builtHandle parent name kind outfit blueprint group).nodes,
      canvas.scene.nodes.size ≤ j.index := by
  obtain ⟨bare, hnode, hcomponents, himage⟩ := canvas.exists_bare parent name
  have hfits := Blueprint.raise_fits hnode hcomponents himage group blueprint
  intro j hj
  rcases List.mem_cons.mp hj with rfl | hj
  · exact Nat.le_refl _
  · have hle : (canvas.scene.create parent name).2.nodes.size ≤ j.index := hfits.fresh j hj
    rw [Scene.size_create] at hle
    exact Nat.le_of_succ_le hle

end Building

end Canvas

end Uiml
