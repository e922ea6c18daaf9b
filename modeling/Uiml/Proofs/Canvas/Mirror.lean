import Uiml.Proofs.Canvas.Change
import Uiml.Proofs.Canvas.Widget
import Uiml.Proofs.Scene.Face

/-!
# Widgets and their nodes

A widget keeps a copy of what its nodes show. The nodes that a widget writes to are its own node and
those that its parts are made of; a change of the widget is seen in these nodes only, and leaves
widget and nodes in agreement.

## Main definitions

* `Handle.nodes` — the nodes that a widget writes to
* `Handle.MirroredIn` — a widget and its nodes agree
* `Handle.Settled` — they agree, and the nodes are laid out so that changes keep it so
* `Handle.Becomes` — a change of a widget with its nodes that keeps it settled

## Main results

* `Canvas.Change.turns` — the changes of a canvas are of this kind
-/

namespace Uiml

/-- The place of a node, as a widget records its own. -/
def Scene.Node.transform (node : Scene.Node) : Transform :=
  { position := node.position, size := node.size, anchorMin := node.anchorMin
    anchorMax := node.anchorMax, pivot := node.pivot, scale := node.scale }

/-- The component of a node that shows the value of a progress bar. -/
def ProgressBar.slider (bar : ProgressBar) : SliderSpec :=
  { min := bar.min, max := bar.max, value := bar.value, direction := bar.direction
    fill := bar.fill }

namespace Handle

/-- The nodes that the parts of a widget are made of. -/
def Parts.nodes : Parts → List NodeId
  | .plain => []
  | .button label => label.toList
  | .scrollArea viewport content => [viewport, content]
  | .progressBar bar => [bar.fill]
  | .toggle checkmark _ _ => [checkmark]
  | .inputField text => [text]
  | .dropdown label _ _ => [label]

/-- The nodes that a widget writes to. -/
def nodes (h : Handle) : List NodeId := h.node :: h.parts.nodes

/-- A widget and its nodes agree. -/
structure MirroredIn (h : Handle) (scene : Scene) : Prop where
  /-- The node of the widget is there, and looks as the widget says. -/
  node : scene.Shows h.node fun face =>
    face.transform = h.transform ∧ face.alpha = h.alpha ∧ face.interactable = h.interactable
  /-- If the widget has a text surface, that node shows the widget's text. -/
  text : ∀ surface, h.textSurface = some surface →
    scene.Shows surface fun face => ∃ text, h.text = some text ∧ face.text? = some text
  /-- If the widget has a surface for pictures, that node has the widget's picture. -/
  image : ∀ surface, h.imageSurface = some surface →
    scene.Shows surface fun face => face.image = h.image
  /-- The fill of a progress bar reaches up to its value. -/
  fill : ∀ bar, h.parts = .progressBar bar →
    scene.Shows bar.fill fun face => (face.anchorMin, face.anchorMax) = bar.anchors
  /-- The node of a progress bar has a slider at the same value. -/
  slider : ∀ bar, h.parts = .progressBar bar →
    scene.Shows h.node fun face => face.component? "Slider" = some (.slider bar.slider)
  /-- The checkmark of a switch is seen just if the switch is on. -/
  checkmark : ∀ checkmark isOn group, h.parts = .toggle checkmark isOn group →
    scene.Shows checkmark fun face => face.alpha = if isOn then 1 else 0
  /-- The node of a switch has a component in the same state. -/
  toggle : ∀ checkmark isOn group, h.parts = .toggle checkmark isOn group →
    scene.Shows h.node fun face =>
      ∃ spec, face.component? "Toggle" = some (.toggle spec) ∧ spec.isOn = isOn

/-- A widget and its nodes agree, and changes of the widget can reach the nodes one by one. -/
structure Settled (h : Handle) (scene : Scene) : Prop where
  mirrored : h.MirroredIn scene
  live : ∀ node ∈ h.nodes, scene.contains node = true
  nodup : h.nodes.Nodup
  textPlace : ∀ surface, h.textSurface = some surface → surface ∈ h.nodes
  imagePlace : ∀ surface, h.imageSurface = some surface → surface ∈ h.nodes
  imageShown : ∀ surface, h.imageSurface = some surface →
    scene.Shows surface fun face => face.components.any Component.isImage = true

end Handle

/-- Outside of some nodes, a scene shows what another showed. -/
def Scene.KeepsOutside (scene scene' : Scene) (nodes : List NodeId) : Prop :=
  ∀ j ∉ nodes, ∀ p, scene.Shows j p → scene'.Shows j p

/-- A widget changes together with its nodes. -/
structure Handle.Becomes (h : Handle) (scene : Scene) (h' : Handle) (scene' : Scene) : Prop where
  settled : h'.Settled scene'
  nodes : h'.nodes = h.nodes
  keeps : scene.KeepsOutside scene' h.nodes
  size : scene'.nodes.size = scene.nodes.size

namespace Handle

variable {h h' : Handle} {scene scene' : Scene} {f : Scene.Node → Scene.Node}

theorem fill_mem_parts {bar : ProgressBar} (hparts : h.parts = .progressBar bar) :
    bar.fill ∈ h.parts.nodes := by
  simp [hparts, Parts.nodes]

theorem checkmark_mem_parts {checkmark : NodeId} {isOn : Bool} {group : Option WidgetId}
    (hparts : h.parts = .toggle checkmark isOn group) : checkmark ∈ h.parts.nodes := by
  simp [hparts, Parts.nodes]

theorem Settled.ne_node (hs : h.Settled scene) {j : NodeId} (hj : j ∈ h.parts.nodes) :
    j ≠ h.node := fun he => (List.nodup_cons.mp hs.nodup).1 (he ▸ hj)

/-- A widget stays settled as long as its nodes show what they showed. -/
theorem Settled.keep (hs : h.Settled scene)
    (hkeep : ∀ j ∈ h.nodes, ∀ p, scene.Shows j p → scene'.Shows j p) : h.Settled scene' where
  mirrored :=
    { node := hkeep _ List.mem_cons_self _ hs.mirrored.node
      text := fun surface hsurface =>
        hkeep _ (hs.textPlace surface hsurface) _ (hs.mirrored.text surface hsurface)
      image := fun surface hsurface =>
        hkeep _ (hs.imagePlace surface hsurface) _ (hs.mirrored.image surface hsurface)
      fill := fun bar hparts =>
        hkeep _ (List.mem_cons_of_mem _ (fill_mem_parts hparts)) _ (hs.mirrored.fill bar hparts)
      slider := fun bar hparts =>
        hkeep _ List.mem_cons_self _ (hs.mirrored.slider bar hparts)
      checkmark := fun checkmark isOn group hparts =>
        hkeep _ (List.mem_cons_of_mem _ (checkmark_mem_parts hparts)) _
          (hs.mirrored.checkmark checkmark isOn group hparts)
      toggle := fun checkmark isOn group hparts =>
        hkeep _ List.mem_cons_self _ (hs.mirrored.toggle checkmark isOn group hparts) }
  live := fun node hnode => (hkeep node hnode _ (Scene.shows_true (hs.live node hnode))).contains
  nodup := hs.nodup
  textPlace := hs.textPlace
  imagePlace := hs.imagePlace
  imageShown := fun surface hsurface =>
    hkeep _ (hs.imagePlace surface hsurface) _ (hs.imageShown surface hsurface)

/-- A change of the looks of a widget's own node, its components and its picture aside. -/
theorem Settled.looks (hs : h.Settled scene) {transform : Transform} {alpha : Float32}
    {interactable : Bool} (hf : Scene.Node.SetsFace f)
    (hcomponents : ∀ face, (f face).components = face.components)
    (himage : ∀ face, (f face).image = face.image)
    (hlooks : ∀ face : Scene.Node,
      face.transform = h.transform ∧ face.alpha = h.alpha ∧ face.interactable = h.interactable →
      (f face).transform = transform ∧ (f face).alpha = alpha ∧
        (f face).interactable = interactable) :
    h.Becomes scene { h with transform, alpha, interactable } (scene.modify h.node f) := by
  refine ⟨⟨⟨?node, ?text, ?image, ?fill, ?slider, ?checkmark, ?toggle⟩,
    ?live, hs.nodup, hs.textPlace, hs.imagePlace, ?imageShown⟩, rfl, ?keeps, ?size⟩
  case node =>
    refine (Scene.shows_modify hf).mpr (hs.mirrored.node.imp fun face hface => ?_)
    simpa only [if_true] using hlooks face hface
  case text =>
    refine fun surface hsurface => (hs.mirrored.text surface hsurface).modify hf ?_
    rintro face ⟨text, htext, hface⟩
    exact ⟨text, htext, by rwa [Scene.Node.text?, hcomponents]⟩
  case image =>
    refine fun surface hsurface => (hs.mirrored.image surface hsurface).modify hf ?_
    exact fun face hface => (himage face).trans hface
  case fill =>
    exact fun bar hbar =>
      (hs.mirrored.fill bar hbar).modify_of_ne hf (hs.ne_node (fill_mem_parts hbar))
  case slider =>
    refine fun bar hbar => (hs.mirrored.slider bar hbar).modify hf fun face hface => ?_
    rwa [Scene.Node.component?, hcomponents]
  case checkmark =>
    exact fun checkmark isOn group htoggle =>
      (hs.mirrored.checkmark checkmark isOn group htoggle).modify_of_ne hf
        (hs.ne_node (checkmark_mem_parts htoggle))
  case toggle =>
    refine fun checkmark isOn group htoggle =>
      (hs.mirrored.toggle checkmark isOn group htoggle).modify hf fun face hface => ?_
    rwa [Scene.Node.component?, hcomponents]
  case live =>
    exact fun node hnode =>
      ((Scene.shows_true (hs.live node hnode)).modify hf fun _ => id).contains
  case imageShown =>
    refine fun surface hsurface => (hs.imageShown surface hsurface).modify hf fun face hface => ?_
    rwa [hcomponents]
  case keeps =>
    exact fun j hj p hp => hp.modify_of_ne hf fun he => hj (he ▸ List.mem_cons_self)
  case size =>
    exact Scene.size_modify f

open Scene.Node Component in
/-- A new text of a widget is shown on its text surface. -/
theorem Settled.showsText (hs : h.Settled scene) {surface : NodeId}
    (hsurface : h.textSurface = some surface) (text : String) :
    h.Becomes scene { h with text := some text } (scene.setText surface text).2 := by
  have hreplaces : Replaces "Text" (withText? text) := replaces_withText text
  refine ⟨⟨⟨?node, ?text, ?image, ?fill, ?slider, ?checkmark, ?toggle⟩,
    ?live, hs.nodup, hs.textPlace, hs.imagePlace, ?imageShown⟩, rfl, ?keeps, ?size⟩
  case node =>
    -- the looks of a node are no matter of its components
    exact hs.mirrored.node.replaceComponent fun _ => id
  case text =>
    intro surface' hsurface'
    obtain rfl : surface = surface' := Option.some.inj (hsurface.symm.trans hsurface')
    refine (Scene.shows_replaceComponent ..).mpr ((hs.mirrored.text surface hsurface).imp ?_)
    rintro face ⟨old, -, hface⟩
    refine ⟨text, rfl, ?_⟩
    rw [if_pos rfl, text?_replace_withText?, hface, Option.map_some]
  case image =>
    exact fun surface' hsurface' =>
      (hs.mirrored.image surface' hsurface').replaceComponent fun _ => id
  case fill =>
    exact fun bar hbar => (hs.mirrored.fill bar hbar).replaceComponent fun _ => id
  case slider =>
    -- the text may be on the node of a bar, but it is another component than the slider
    intro bar hbar
    refine (hs.mirrored.slider bar hbar).replaceComponent fun face hface => ?_
    rwa [component?_replace_of_ne face hreplaces (by decide)]
  case checkmark =>
    exact fun checkmark isOn group htoggle =>
      (hs.mirrored.checkmark checkmark isOn group htoggle).replaceComponent fun _ => id
  case toggle =>
    intro checkmark isOn group htoggle
    refine (hs.mirrored.toggle checkmark isOn group htoggle).replaceComponent fun face hface => ?_
    rwa [component?_replace_of_ne face hreplaces (by decide)]
  case live =>
    exact fun node hnode =>
      ((Scene.shows_true (hs.live node hnode)).replaceComponent fun _ => id).contains
  case imageShown =>
    intro surface' hsurface'
    refine (hs.imageShown surface' hsurface').replaceComponent fun face hface => ?_
    rwa [any_isImage_replace face hreplaces]
  case keeps =>
    exact fun j hj p hp => hp.replaceComponent_of_ne fun he => hj (he ▸ hs.textPlace _ hsurface)
  case size =>
    exact Scene.size_replaceComponent ..

/-- A new picture of a widget is shown on its surface for pictures. -/
theorem Settled.showsImage (hs : h.Settled scene) {surface : NodeId}
    (hsurface : h.imageSurface = some surface) (image : Picture) :
    h.Becomes scene { h with image := some image } (scene.setImage surface image).2 := by
  -- a fact about a face lasts if no picture can end it
  have hkeep : ∀ {j p}, scene.Shows j p → (∀ face : Scene.Node, p face →
      p { face with image := some image }) → (scene.setImage surface image).2.Shows j p := by
    intro j p hp himage
    refine (Scene.shows_setImage ..).mpr (hp.imp fun face hface => ?_)
    split
    · exact himage face hface
    · exact hface
  refine ⟨⟨⟨?node, ?text, ?image, ?fill, ?slider, ?checkmark, ?toggle⟩,
    ?live, hs.nodup, hs.textPlace, hs.imagePlace, ?imageShown⟩, rfl, ?keeps, ?size⟩
  case node =>
    exact hkeep hs.mirrored.node fun _ => id
  case text =>
    exact fun surface' hsurface' => hkeep (hs.mirrored.text surface' hsurface') fun _ => id
  case image =>
    -- the picture is taken because the surface is known to have an image component
    intro surface' hsurface'
    obtain rfl : surface = surface' := Option.some.inj (hsurface.symm.trans hsurface')
    refine (Scene.shows_setImage ..).mpr ((hs.imageShown surface hsurface).imp fun face hany => ?_)
    rw [if_pos ⟨rfl, hany⟩]
  case fill =>
    exact fun bar hbar => hkeep (hs.mirrored.fill bar hbar) fun _ => id
  case slider =>
    exact fun bar hbar => hkeep (hs.mirrored.slider bar hbar) fun _ => id
  case checkmark =>
    exact fun checkmark isOn group htoggle =>
      hkeep (hs.mirrored.checkmark checkmark isOn group htoggle) fun _ => id
  case toggle =>
    exact fun checkmark isOn group htoggle =>
      hkeep (hs.mirrored.toggle checkmark isOn group htoggle) fun _ => id
  case live =>
    exact fun node hnode => (hkeep (Scene.shows_true (hs.live node hnode)) fun _ => id).contains
  case imageShown =>
    exact fun surface' hsurface' => hkeep (hs.imageShown surface' hsurface') fun _ => id
  case keeps =>
    intro j hj p hp
    have hne : j ≠ surface := fun he => hj (he ▸ hs.imagePlace _ hsurface)
    simpa only [Scene.shows_setImage, hne, false_and, if_false] using hp
  case size =>
    exact Scene.size_setImage ..

open Scene.Node Component in
/-- A switch is turned with its checkmark and its component. -/
theorem Settled.turns (hs : h.Settled scene) {checkmark : NodeId} {wasOn : Bool}
    {group : Option WidgetId} (hparts : h.parts = .toggle checkmark wasOn group) (isOn : Bool) :
    h.Becomes scene { h with parts := .toggle checkmark isOn group }
      ((scene.setAlpha checkmark (if isOn then 1 else 0)).setToggle h.node isOn).2 := by
  have hreplaces : Replaces "Toggle" (withToggle? isOn) := replaces_withToggle isOn
  have hne : checkmark ≠ h.node := hs.ne_node (checkmark_mem_parts hparts)
  have hnodes : ({ h with parts := .toggle checkmark isOn group } : Handle).nodes = h.nodes := by
    simp only [nodes, hparts, Parts.nodes]
  -- two nodes are written to, and a fact lasts if neither writing can end it
  have hkeep : ∀ {j p}, scene.Shows j p →
      (∀ (face : Scene.Node) alpha, p face → p { face with alpha }) →
      (∀ face : Scene.Node, p face → p (face.replace (withToggle? isOn))) →
      ((scene.setAlpha checkmark (if isOn then 1 else 0)).setToggle h.node isOn).2.Shows j p :=
    fun hp halpha hreplace =>
      (hp.setAlpha fun face => halpha face _).replaceComponent hreplace
  refine ⟨⟨⟨?node, ?text, ?image, ?fill, ?slider, ?checkmark, ?toggle⟩,
    ?live, ?nodup, ?textPlace, ?imagePlace, ?imageShown⟩, hnodes, ?keeps, ?size⟩
  case node =>
    exact (hs.mirrored.node.setAlpha_of_ne hne.symm).replaceComponent fun _ => id
  case text =>
    refine fun surface hsurface => hkeep (hs.mirrored.text surface hsurface) (fun _ _ => id) ?_
    intro face hface
    rwa [text?_replace_of_ne face hreplaces (by decide)]
  case image =>
    exact fun surface hsurface =>
      hkeep (hs.mirrored.image surface hsurface) (fun _ _ => id) fun _ => id
  case fill =>
    exact fun bar hbar => nomatch hbar
  case slider =>
    exact fun bar hbar => nomatch hbar
  case checkmark =>
    -- nothing has to be known of the checkmark but that it is there
    intro _ _ _ htoggle
    obtain ⟨rfl, rfl, rfl⟩ := Parts.toggle.inj htoggle
    have hlive := Scene.shows_true (hs.live _ (List.mem_cons_of_mem _ (checkmark_mem_parts hparts)))
    refine Scene.Shows.replaceComponent ?_ fun _ => id
    refine (Scene.shows_setAlpha ..).mpr (hlive.imp fun face _ => ?_)
    rw [if_pos rfl]
  case toggle =>
    intro _ _ _ htoggle
    obtain ⟨rfl, rfl, rfl⟩ := Parts.toggle.inj htoggle
    refine (Scene.shows_replaceComponent ..).mpr ?_
    refine ((hs.mirrored.toggle _ _ _ hparts).setAlpha_of_ne hne.symm).imp ?_
    rintro face ⟨spec, hspec, -⟩
    refine ⟨{ spec with isOn }, ?_, rfl⟩
    rw [if_pos rfl, component?_replace face hreplaces, hspec]
    rfl
  case live =>
    rw [hnodes]
    exact fun node hnode =>
      (hkeep (Scene.shows_true (hs.live node hnode)) (fun _ _ => id) fun _ => id).contains
  case nodup =>
    rw [hnodes]
    exact hs.nodup
  case textPlace =>
    rw [hnodes]
    exact hs.textPlace
  case imagePlace =>
    rw [hnodes]
    exact hs.imagePlace
  case imageShown =>
    refine fun surface hsurface => hkeep (hs.imageShown surface hsurface) (fun _ _ => id) ?_
    intro face hface
    rwa [any_isImage_replace face hreplaces]
  case keeps =>
    intro j hj p hp
    have hjmark : j ≠ checkmark := fun he =>
      hj (he ▸ List.mem_cons_of_mem _ (checkmark_mem_parts hparts))
    exact (hp.setAlpha_of_ne hjmark).replaceComponent_of_ne fun he =>
      hj (he ▸ List.mem_cons_self)
  case size =>
    exact (Scene.size_replaceComponent ..).trans (Scene.size_setAlpha ..)

open Scene.Node Component in
/-- A progress bar is filled with its fill and its slider. -/
theorem Settled.fills (hs : h.Settled scene) {bar bar' : ProgressBar}
    (hparts : h.parts = .progressBar bar) (hbar : bar' = { bar with value := bar'.value }) :
    h.Becomes scene { h with parts := .progressBar bar' }
      ((scene.setAnchors bar'.fill bar'.anchors.1 bar'.anchors.2).setSliderValue h.node
        bar'.value).2 := by
  have hreplaces : Replaces "Slider" (withSliderValue? bar'.value) := replaces_withSliderValue _
  have hfill : bar'.fill = bar.fill := by rw [hbar]
  have hne : bar'.fill ≠ h.node := hfill ▸ hs.ne_node (fill_mem_parts hparts)
  have hmem : bar'.fill ∈ h.nodes := hfill ▸ List.mem_cons_of_mem _ (fill_mem_parts hparts)
  have hnodes : ({ h with parts := .progressBar bar' } : Handle).nodes = h.nodes := by
    simp only [nodes, hparts, Parts.nodes, hfill]
  have hkeep : ∀ {j p}, scene.Shows j p →
      (∀ (face : Scene.Node) anchorMin anchorMax, p face → p { face with anchorMin, anchorMax }) →
      (∀ face : Scene.Node, p face → p (face.replace (withSliderValue? bar'.value))) →
      ((scene.setAnchors bar'.fill bar'.anchors.1 bar'.anchors.2).setSliderValue h.node
        bar'.value).2.Shows j p :=
    fun hp hanchors hreplace =>
      (hp.setAnchors fun face => hanchors face _ _).replaceComponent hreplace
  refine ⟨⟨⟨?node, ?text, ?image, ?fill, ?slider, ?checkmark, ?toggle⟩,
    ?live, ?nodup, ?textPlace, ?imagePlace, ?imageShown⟩, hnodes, ?keeps, ?size⟩
  case node =>
    exact (hs.mirrored.node.setAnchors_of_ne hne.symm).replaceComponent fun _ => id
  case text =>
    refine fun surface hsurface => hkeep (hs.mirrored.text surface hsurface) (fun _ _ _ => id) ?_
    intro face hface
    rwa [text?_replace_of_ne face hreplaces (by decide)]
  case image =>
    exact fun surface hsurface =>
      hkeep (hs.mirrored.image surface hsurface) (fun _ _ _ => id) fun _ => id
  case fill =>
    -- nothing has to be known of the fill but that it is there
    intro _ hbar'
    obtain rfl := Parts.progressBar.inj hbar'
    refine Scene.Shows.replaceComponent ?_ fun _ => id
    refine (Scene.shows_setAnchors ..).mpr ((Scene.shows_true (hs.live _ hmem)).imp fun _ _ => ?_)
    rw [if_pos rfl]
  case slider =>
    intro _ hbar'
    obtain rfl := Parts.progressBar.inj hbar'
    refine (Scene.shows_replaceComponent ..).mpr ?_
    refine ((hs.mirrored.slider bar hparts).setAnchors_of_ne hne.symm).imp ?_
    intro face hface
    rw [if_pos rfl, component?_replace face hreplaces, hface, Option.bind_some, withSliderValue?]
    rw [hbar]
    rfl
  case checkmark =>
    intro _ _ _ htoggle
    cases htoggle
  case toggle =>
    intro _ _ _ htoggle
    cases htoggle
  case live =>
    rw [hnodes]
    exact fun node hnode =>
      (hkeep (Scene.shows_true (hs.live node hnode)) (fun _ _ _ => id) fun _ => id).contains
  case nodup =>
    rw [hnodes]
    exact hs.nodup
  case textPlace =>
    rw [hnodes]
    exact hs.textPlace
  case imagePlace =>
    rw [hnodes]
    exact hs.imagePlace
  case imageShown =>
    refine fun surface hsurface => hkeep (hs.imageShown surface hsurface) (fun _ _ _ => id) ?_
    intro face hface
    rwa [any_isImage_replace face hreplaces]
  case keeps =>
    intro j hj p hp
    exact (hp.setAnchors_of_ne fun he => hj (he ▸ hmem)).replaceComponent_of_ne
      fun he => hj (he ▸ List.mem_cons_self)
  case size =>
    exact (Scene.size_replaceComponent ..).trans (Scene.size_setAnchors ..)

/-- The slot that a widget knows of is not shown by any node. -/
theorem Settled.binds (hs : h.Settled scene) (slot : Option Nat) :
    h.Becomes scene { h with slot } scene where
  settled :=
    { mirrored :=
        ⟨hs.mirrored.node, hs.mirrored.text, hs.mirrored.image, hs.mirrored.fill,
          hs.mirrored.slider, hs.mirrored.checkmark, hs.mirrored.toggle⟩
      live := hs.live
      nodup := hs.nodup
      textPlace := hs.textPlace
      imagePlace := hs.imagePlace
      imageShown := hs.imageShown }
  nodes := rfl
  keeps := fun _ _ _ => id
  size := rfl

theorem Settled.stays (hs : h.Settled scene) : h.Becomes scene h scene :=
  ⟨hs, rfl, fun _ _ _ => id, rfl⟩

end Handle

namespace Canvas

variable {canvas canvas' : Canvas} {id : WidgetId} {h h' : Handle} {f : Handle → Handle}
  {g : Handle → Scene → Scene}

/-- The widget of an id, and no other, becomes another one. -/
def Turns (canvas : Canvas) (id : WidgetId) (h : Handle) (canvas' : Canvas) : Prop :=
  ∃ h', h.Becomes canvas.scene h' canvas'.scene ∧
    ∀ j, canvas'.widget? j = if j = id then some h' else canvas.widget? j

theorem turns_self (hid : canvas.widget? id = some h) (hs : h.Settled canvas.scene) :
    canvas.Turns id h canvas := by
  refine ⟨h, hs.stays, fun j => ?_⟩
  split
  · next he => rw [he, hid]
  · rfl

theorem turns_update (hid : canvas.widget? id = some h)
    (hbecomes : h.Becomes canvas.scene (f h) (g h canvas.scene)) :
    canvas.Turns id h (canvas.update id f g) := by
  refine ⟨f h, scene_update hid ▸ hbecomes, fun j => ?_⟩
  rw [widget?_update]
  split
  · next he => rw [he, hid, Option.map_some]
  · rfl

/-- Every change of a widget reaches its nodes. -/
theorem Change.turns (hchange : Change id canvas canvas') (hid : canvas.widget? id = some h)
    (hs : h.Settled canvas.scene) : canvas.Turns id h canvas' := by
  cases hchange with
  | position v =>
    refine turns_update hid (hs.looks (fun _ => rfl) (fun _ => rfl) (fun _ => rfl) ?_)
    rintro face ⟨htransform, halpha, hinteractable⟩
    exact ⟨by rw [← htransform]; rfl, halpha, hinteractable⟩
  | scale v =>
    refine turns_update hid (hs.looks (fun _ => rfl) (fun _ => rfl) (fun _ => rfl) ?_)
    rintro face ⟨htransform, halpha, hinteractable⟩
    exact ⟨by rw [← htransform]; rfl, halpha, hinteractable⟩
  | alpha v =>
    refine turns_update hid (hs.looks (fun _ => rfl) (fun _ => rfl) (fun _ => rfl) ?_)
    rintro face ⟨htransform, -, hinteractable⟩
    exact ⟨htransform, rfl, hinteractable⟩
  | interactable b =>
    refine turns_update hid (hs.looks (fun _ => rfl) (fun _ => rfl) (fun _ => rfl) ?_)
    rintro face ⟨htransform, halpha, -⟩
    exact ⟨htransform, halpha, rfl⟩
  | toggle b =>
    rw [setToggle, hid, Option.map_some]
    cases hparts : h.parts with
    | toggle checkmark wasOn group => exact turns_update hid (hs.turns hparts b)
    | _ => exact turns_self hid hs
  | progress v =>
    rw [setProgress, hid, Option.map_some]
    cases hparts : h.parts with
    | progressBar bar => exact turns_update hid (hs.fills hparts rfl)
    | _ => exact turns_self hid hs
  | text s =>
    rw [showText, hid, Option.bind_some]
    cases hsurface : h.textSurface with
    | none => exact turns_self hid hs
    | some surface => exact turns_update hid (hs.showsText hsurface s)
  | image p =>
    rw [showImage, hid, Option.bind_some]
    cases hsurface : h.imageSurface with
    | none => exact turns_self hid hs
    | some surface => exact turns_update hid (hs.showsImage hsurface p)

/-- No node shows which slot a widget knows of. -/
theorem setSlot_turns (hid : canvas.widget? id = some h) (hs : h.Settled canvas.scene)
    (slot : Option Nat) : canvas.Turns id h (canvas.setSlot id slot) := by
  refine ⟨{ h with slot }, hs.binds slot, fun j => ?_⟩
  rw [setSlot, widget?_modifyWidget]
  split
  · next he => rw [he, hid, Option.map_some]
  · rfl

/-- A change of a widget that is not there changes nothing. -/
theorem Change.eq_of_widget?_eq_none (hchange : Change id canvas canvas')
    (hid : canvas.widget? id = none) :
    canvas'.scene = canvas.scene ∧ ∀ j, canvas'.widget? j = canvas.widget? j := by
  rcases hchange.update_cases with rfl | ⟨f, g, rfl, -⟩
  · exact ⟨rfl, fun _ => rfl⟩
  · rw [update_of_widget?_eq_none hid]
    exact ⟨rfl, fun _ => rfl⟩

theorem setSlot_of_widget?_eq_none (hid : canvas.widget? id = none) (slot : Option Nat) :
    (canvas.setSlot id slot).scene = canvas.scene ∧
      ∀ j, (canvas.setSlot id slot).widget? j = canvas.widget? j := by
  refine ⟨rfl, fun j => ?_⟩
  rw [setSlot, widget?_modifyWidget]
  split
  · next he => rw [he, hid, Option.map_none]
  · rfl

end Canvas

end Uiml
