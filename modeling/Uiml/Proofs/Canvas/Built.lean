import Uiml.Proofs.Build.Breakdown
import Uiml.Proofs.Build.Sprout
import Uiml.Proofs.Canvas.Local

/-!
# A new widget in the tree

The node of a new widget is the last child of its parent, and the nodes that are made for its parts
hang below it. Where the widgets of elements below it will go depends on its kind alone: into the
content of a container that scrolls, and below the node of any other widget.

## Main definitions

* `Handle.HasContent` — where the widgets of elements below a widget go
* `Canvas.Built` — what has been made for a new widget

## Main results

* `Blueprint.read_kind` — the kind of an element decides what its blueprint is for
* `Canvas.build_built` — building a widget makes its node and those of its parts
-/

namespace Uiml

open Scene (Sprouts)

/-- The widgets of elements below a container that scrolls go into its content, which is in its
viewport; those of elements below any other widget go below its own node. -/
def Handle.HasContent (h : Handle) (scene : Scene) : Prop :=
  if h.kind = .scrollArea then
    ∃ viewport t t', scene.ties? viewport = some t ∧ t.name = "Viewport" ∧ t.parent = some h.node ∧
      scene.ties? h.contentNode = some t' ∧ t'.name = "Content" ∧ t'.parent = some viewport
  else h.contentNode = h.node

/-- A place for elements below a widget stays where it is as long as nodes keep their names and
their parents. -/
theorem Handle.HasContent.mono {h : Handle} {scene scene' : Scene} (hcontent : h.HasContent scene)
    (hkeeps : ∀ {j t}, scene.ties? j = some t →
      ∃ t', scene'.ties? j = some t' ∧ t'.name = t.name ∧ t'.parent = t.parent) :
    h.HasContent scene' := by
  rw [HasContent] at hcontent ⊢
  split at hcontent
  · next hscroll =>
    obtain ⟨viewport, t, s, ht, hname, hparent, hs, hname', hparent'⟩ := hcontent
    obtain ⟨t', ht', hn, hp⟩ := hkeeps ht
    obtain ⟨s', hs', hn', hp'⟩ := hkeeps hs
    rw [if_pos hscroll]
    exact ⟨viewport, t', s', ht', hn.trans hname, hp.trans hparent, hs', hn'.trans hname',
      hp'.trans hparent'⟩
  · next hscroll =>
    rw [if_neg hscroll]
    exact hcontent

namespace Blueprint

/-- The kind of widget that a blueprint is for. -/
def kind : Blueprint → Element.Kind
  | .surface _ => .surface
  | .panel _ => .panel
  | .text _ => .text
  | .button _ _ => .button
  | .image _ => .image
  | .scrollArea _ => .scrollArea
  | .progressBar _ => .progressBar
  | .toggleGroup _ => .toggleGroup
  | .toggle _ _ _ _ => .toggle
  | .inputField _ => .inputField
  | .dropdown _ => .dropdown
  | .layout spec _ =>
    match spec.axis with
    | .horizontal => .horizontalLayout
    | .vertical => .verticalLayout
  | .grid _ _ => .gridLayout

/-- Whether a blueprint is that of a container that scrolls. -/
def isScrollArea : Blueprint → Bool
  | .scrollArea _ => true
  | _ => false

variable {theme : Theme} {e : Element} {r : Resolver} {blueprint : Blueprint}

/-- The kind of an element decides what its blueprint is for. -/
theorem read_kind {kind : Element.Kind} (h : ((read theme e kind).run r).value.1 = .ok blueprint) :
    blueprint.kind = kind := by
  cases kind with
  | surface =>
    have hsurface : ((readSurface e).run r).value.1.kind = .surface := by
      rw [readSurface]
      simp only [StateT.run_bind, Logged.bind_value]
      split <;> rfl
    exact Except.ok.inj h ▸ hsurface
  | button =>
    have hbutton : ((readButton theme e).run r).value.1.kind = .button := by
      rw [readButton]
      simp only [StateT.run_bind, Logged.bind_value]
      split <;> rfl
    exact Except.ok.inj h ▸ hbutton
  | progressBar =>
    rw [read, readProgressBar] at h
    simp only [StateT.run_bind, Logged.bind_value] at h
    split at h
    · cases h
    · simp only [StateT.run_bind, Logged.bind_value] at h
      split at h
      · cases h
      · cases h
        rfl
  | dropdown =>
    rw [read, readDropdown] at h
    simp only [StateT.run_bind, Logged.bind_value] at h
    split at h
    · cases h
    · cases h
      rfl
  | gridLayout =>
    rw [read, readGrid] at h
    simp only [StateT.run_bind, Logged.bind_value] at h
    split at h
    · cases h
    · cases h
      rfl
  | _ => cases h; rfl

theorem read_isScrollArea {kind : Element.Kind}
    (h : ((read theme e kind).run r).value.1 = .ok blueprint) :
    blueprint.isScrollArea = decide (kind = .scrollArea) := by
  rw [← read_kind h]
  cases blueprint with
  | layout spec => cases hspec : spec.axis <;> simp [isScrollArea, Blueprint.kind, hspec]
  | _ => simp [isScrollArea, Blueprint.kind]

variable {scene : Scene} {node : NodeId}

theorem raiseScrollArea_content (plan : ScrollPlan) (hnode : scene.contains node = true) :
    ∃ viewport content t t',
      (raiseScrollArea scene node plan).parts = .scrollArea viewport content ∧
      (raiseScrollArea scene node plan).scene.ties? viewport = some t ∧ t.name = "Viewport" ∧
      t.parent = some node ∧
      (raiseScrollArea scene node plan).scene.ties? content = some t' ∧ t'.name = "Content" ∧
      t'.parent = some viewport := by
  let viewport : NodeId := ⟨scene.nodes.size⟩
  let content : NodeId := ⟨scene.nodes.size + 1⟩
  let framed := (scene.create node "Viewport").2
  have hviewport : framed.ties? viewport = some ⟨"Viewport", some node, []⟩ := by
    rw [Scene.ties?_create hnode, if_pos rfl]
  have hlive := Scene.contains_of_ties? hviewport
  have hsize : framed.nodes.size = scene.nodes.size + 1 := Scene.size_create
  have hne : viewport ≠ content := fun he =>
    Nat.ne_of_lt (Nat.lt_succ_self _) (congrArg NodeId.index he)
  -- the fields that are set on the way tie no node elsewhere
  have hfilled : scene.SameTree (scene.attach node (.fill plan.background)) := ⟨by simp, by simp⟩
  have hframed : framed.SameTree
      (((scene.attach node (.fill plan.background)).createStretched node "Viewport").2.attach
        viewport .mask) :=
    (hfilled.create hnode "Viewport").trans ⟨by simp [Scene.createStretched],
      by simp [Scene.createStretched]⟩
  have hmade : (framed.create viewport "Content").2.SameTree
      (raiseScrollArea scene node plan).scene :=
    (hframed.create hlive "Content").trans
      ⟨by simp [raiseScrollArea, viewport], by simp [raiseScrollArea, viewport]⟩
  refine ⟨viewport, content, (⟨"Viewport", some node, []⟩ : Scene.Node.Ties).adopt content,
    ⟨"Content", some viewport, []⟩, ?_, ?_, rfl, rfl, ?_, rfl, rfl⟩
  · simp [raiseScrollArea, viewport, content]
  · rw [hmade.ties, Scene.ties?_create hlive, hsize, if_neg hne, if_pos rfl, hviewport]
    rfl
  · rw [hmade.ties, Scene.ties?_create hlive, hsize, if_pos rfl]

theorem raise_parts_ne {group : Option GroupRef} {blueprint : Blueprint}
    (h : blueprint.isScrollArea = false) (viewport content : NodeId) :
    (blueprint.raise scene node group).parts ≠ .scrollArea viewport content := by
  cases blueprint with
  | scrollArea => cases h
  | button background label => cases label <;> exact nofun
  | _ => exact nofun

/-- The widgets of elements below a new widget find their place, whatever is made for it. -/
theorem raise_hasContent {h : Handle} {group : Option GroupRef} {blueprint : Blueprint}
    (hlive : scene.contains node = true)
    (hkind : blueprint.isScrollArea = decide (h.kind = .scrollArea)) (hnode : h.node = node)
    (hparts : h.parts = (blueprint.raise scene node group).parts) :
    h.HasContent (blueprint.raise scene node group).scene := by
  rw [Handle.HasContent]
  by_cases hscroll : h.kind = .scrollArea
  · rw [if_pos hscroll]
    cases blueprint with
    | scrollArea plan =>
      obtain ⟨viewport, content, t, t', hraised, ht, hname, hp, ht', hname', hp'⟩ :=
        raiseScrollArea_content plan hlive
      have hcontent : h.contentNode = content := by
        rw [Handle.contentNode, hparts, raise, hraised]
      rw [hcontent, hnode]
      exact ⟨viewport, t, t', ht, hname, hp, ht', hname', hp'⟩
    | _ => simp [isScrollArea, hscroll] at hkind
  · rw [if_neg hscroll]
    rw [decide_eq_false hscroll] at hkind
    rw [Handle.contentNode, hparts]
    split
    · next heq => exact absurd heq (raise_parts_ne hkind _ _)
    · rfl

end Blueprint

namespace Canvas

/-- A widget has been built: its node has been made below a parent, and the nodes of its parts below
its own, and no other node has been touched. -/
structure Built (canvas : Canvas) (parent : NodeId) (h : Handle) (canvas' : Canvas) : Prop where
  node : h.node = ⟨canvas.scene.nodes.size⟩
  size : canvas'.scene.nodes.size = canvas.scene.nodes.size + 1 + h.parts.extent
  old : ∀ j, j.index < canvas.scene.nodes.size → canvas'.scene.ties? j =
    if j = parent then (canvas.scene.ties? j).map (·.adopt h.node) else canvas.scene.ties? j
  own : ∃ t, canvas'.scene.ties? h.node = some t ∧ t.parent = some parent
  parts : ∀ j, h.Owns j → j ≠ h.node →
    ∃ t p, canvas'.scene.ties? j = some t ∧ t.parent = some p ∧ h.Owns p
  content : h.HasContent canvas'.scene

variable {canvas : Canvas} {parent : NodeId}

namespace Built

variable {canvas' : Canvas} {h : Handle} {j : NodeId}

/-- A node that was there keeps its name and its parent. -/
theorem keeps (hb : canvas.Built parent h canvas') {t : Scene.Node.Ties}
    (ht : canvas.scene.ties? j = some t) :
    ∃ t', canvas'.scene.ties? j = some t' ∧ t'.name = t.name ∧ t'.parent = t.parent := by
  rw [hb.old j (Scene.lt_size_of_contains (Scene.contains_of_ties? ht)), ht]
  split
  · exact ⟨_, rfl, rfl, rfl⟩
  · exact ⟨t, rfl, rfl, rfl⟩

/-- The nodes that are there are those that were there and those of the widget. -/
theorem contains_iff (hb : canvas.Built parent h canvas') :
    canvas'.scene.contains j = true ↔ canvas.scene.contains j = true ∨ h.Owns j := by
  have hnode : h.node.index = canvas.scene.nodes.size := congrArg NodeId.index hb.node
  constructor
  · intro hj
    by_cases hlt : j.index < canvas.scene.nodes.size
    · rw [← Scene.isSome_ties?, hb.old j hlt] at hj
      rw [← Scene.isSome_ties?]
      refine .inl ?_
      split at hj
      · rwa [Option.isSome_map] at hj
      · exact hj
    · have hlt' := Scene.lt_size_of_contains hj
      rw [hb.size] at hlt'
      exact .inr ⟨by omega, by omega⟩
  · rintro (hj | hj)
    · obtain ⟨t, ht⟩ := Scene.exists_ties? hj
      obtain ⟨t', ht', -⟩ := hb.keeps ht
      exact Scene.contains_of_ties? ht'
    · by_cases he : j = h.node
      · obtain ⟨t, ht, -⟩ := hb.own
        exact he ▸ Scene.contains_of_ties? ht
      · obtain ⟨t, -, ht, -⟩ := hb.parts j hj he
        exact Scene.contains_of_ties? ht

/-- The new node comes after the children that its parent had. -/
theorem children (hb : canvas.Built parent h canvas') (hj : canvas.scene.contains j = true) :
    canvas'.scene.children j =
      canvas.scene.children j ++ if j = parent then [h.node] else [] := by
  obtain ⟨t, ht⟩ := Scene.exists_ties? hj
  rw [Scene.children_eq, hb.old j (Scene.lt_size_of_contains hj), Scene.children_eq, ht]
  split
  · rfl
  · exact (List.append_nil _).symm

/-- What has been made for a widget stays so when slots and contents change. -/
theorem congr (hb : canvas.Built parent h canvas') {h' : Handle} {canvas'' : Canvas}
    (hstem : h'.stem = h.stem) (hsame : canvas'.scene.SameTree canvas''.scene) :
    canvas.Built parent h' canvas'' := by
  have hnode : h'.node = h.node := (congrArg Handle.node hstem :)
  have hkind : h'.kind = h.kind := (congrArg Handle.kind hstem :)
  have hparts : h'.parts = h.parts := (congrArg Handle.parts hstem :)
  have hcontent : h'.contentNode = h.contentNode := (congrArg Handle.contentNode hstem :)
  have howns (j : NodeId) : h'.Owns j ↔ h.Owns j := by rw [Handle.Owns, Handle.Owns, hnode, hparts]
  refine ⟨hnode.trans hb.node, ?_, fun j hj => ?_, ?_, fun j hj hne => ?_, ?_⟩
  · rw [hsame.size, hb.size, hparts]
  · rw [hsame.ties, hb.old j hj, hnode]
  · rw [hsame.ties, hnode]
    exact hb.own
  · rw [hsame.ties]
    obtain ⟨t, p, ht, hp, hplace⟩ := hb.parts j ((howns j).mp hj) (hnode ▸ hne)
    exact ⟨t, p, ht, hp, (howns p).mpr hplace⟩
  · have hold := hb.content
    rw [Handle.HasContent] at hold ⊢
    rw [hkind, hnode, hcontent]
    simpa only [hsame.ties] using hold

end Built

/-- Building a widget makes its node and those of its parts. -/
theorem build_built (hparent : canvas.scene.contains parent = true) (name : String)
    {kind : Element.Kind} (outfit : Outfit) {blueprint : Blueprint} (group : Option GroupRef)
    (hkind : blueprint.isScrollArea = decide (kind = .scrollArea)) :
    canvas.Built parent (canvas.builtHandle parent name kind outfit blueprint group)
      (canvas.build parent name kind outfit blueprint group) := by
  let made := (canvas.scene.create parent name).2
  let node : NodeId := ⟨canvas.scene.nodes.size⟩
  let raised := blueprint.raise made node group
  let h := canvas.builtHandle parent name kind outfit blueprint group
  have hmade : made.nodes.size = canvas.scene.nodes.size + 1 := Scene.size_create
  have hnode : made.ties? node = some ⟨name, some parent, []⟩ := by
    rw [Scene.ties?_create hparent, if_pos rfl]
  have hlive := Scene.contains_of_ties? hnode
  have hsprouted := (Blueprint.raise_sprouts made node group blueprint).sprouted hlive
  have hsame : raised.scene.SameTree
      (canvas.build parent name kind outfit blueprint group).scene :=
    ⟨by simp [build, furnish, raised, made, node], by simp [build, furnish, raised, made, node]⟩
  have hsize : raised.scene.nodes.size = canvas.scene.nodes.size + 1 + h.parts.extent := by
    rw [← hmade]
    exact Blueprint.size_raise made node group blueprint
  refine ⟨rfl, hsame.size.trans hsize, fun j hj => ?_, ?_, fun j hj hne => ?_, ?_⟩
  · have hne : j ≠ node := Scene.ne_next hj
    rw [hsame.ties, hsprouted.old j (by omega) hne, Scene.ties?_create hparent, if_neg hne]
    rfl
  · obtain ⟨t, t', ht, ht', -, hp⟩ := hsprouted.stem
    obtain rfl := Option.some.inj (hnode.symm.trans ht)
    exact ⟨t', (hsame.ties _).trans ht', hp⟩
  · obtain ⟨hle, hlt⟩ := hj
    have hindex : j.index ≠ canvas.scene.nodes.size := fun he => hne (Scene.ext_index_iff.mpr he)
    change canvas.scene.nodes.size ≤ j.index at hle
    change j.index ≤ canvas.scene.nodes.size + h.parts.extent at hlt
    obtain ⟨t, p, ht, hp, hplace⟩ := hsprouted.fresh j (by omega) (by
      change j.index < raised.scene.nodes.size
      omega)
    refine ⟨t, p, (hsame.ties _).trans ht, hp, ?_⟩
    rcases hplace with rfl | ⟨hle', hlt'⟩
    · exact ⟨Nat.le_refl _, Nat.le_add_right _ _⟩
    · change p.index < raised.scene.nodes.size at hlt'
      refine ⟨?_, ?_⟩
      · change canvas.scene.nodes.size ≤ p.index
        omega
      · change p.index ≤ canvas.scene.nodes.size + h.parts.extent
        omega
  · have hcontent : h.HasContent raised.scene := Blueprint.raise_hasContent hlive hkind rfl rfl
    exact hcontent.mono fun ht => ⟨_, (hsame.ties _).trans ht, rfl, rfl⟩

end Canvas

end Uiml
