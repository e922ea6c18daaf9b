import Uiml.Proofs.Build.Fate
import Uiml.Proofs.Build.Sprout
import Uiml.Proofs.Canvas.Faithful
import Uiml.Proofs.Canvas.Local
import Uiml.Proofs.Scene.Branch
import Uiml.Proofs.Scene.Closed

/-!
# Orderly canvases

The scene of a session is always a tree, its components refer to nodes that have been made, and no
widget writes to the root, which looks as it did at first. New widgets are put into the tree as
leaves, and what is taken back leaves no trace.

## Main definitions

* `Canvas.Orderly` — a faithful canvas with a tree in which nothing refers to what has not been made

## Main results

* `Canvas.Orderly.visit` — a visit keeps a canvas orderly
* `Session.Reachable.bench_induction`, `Session.Reachable.visit_induction` — what changes and visits
  preserve holds of reachable sessions
* `Session.Reachable.orderly` — the canvas of a reachable session is orderly
-/

namespace Uiml

/-- A faithful canvas with a tree, in which nothing refers to nodes that have not been made, and no
widget writes to the root. -/
structure Canvas.Orderly (canvas : Canvas) : Prop where
  faithful : canvas.Faithful
  tree : canvas.scene.IsTree
  within : canvas.scene.Within canvas.scene.nodes.size
  root : ∀ {id h}, canvas.widget? id = some h → Scene.root ∉ h.nodes
  face : canvas.scene.Shows Scene.root fun face => face = { name := "Root" }

namespace Canvas

variable {canvas canvas' : Canvas} {id : WidgetId}

theorem orderly_new : Orderly ⟨.new, #[]⟩ where
  faithful := faithful_new
  tree := .new
  within := by
    intro j node hnode c hc
    have hlt := Scene.lt_size_of_contains (Scene.contains_iff.mpr ⟨node, hnode⟩)
    obtain rfl : j = Scene.root := Scene.ext_index_iff.mpr (Nat.lt_one_iff.mp hlt)
    cases hnode
    cases hc
  root := fun hid => by simp [widget?] at hid
  face := ⟨_, rfl, rfl⟩

theorem within_update {f : Handle → Handle} {g : Handle → Scene → Scene} {n : Nat}
    (h : canvas.scene.Within n) (hg : ∀ h (scene : Scene), scene.Within n → (g h scene).Within n) :
    (canvas.update id f g).scene.Within n := by
  cases hid : canvas.widget? id with
  | none => rwa [update_of_widget?_eq_none hid]
  | some h' =>
    rw [scene_update hid]
    exact hg h' _ h

theorem Change.within (hchange : Change id canvas canvas') {n : Nat} (h : canvas.scene.Within n) :
    canvas'.scene.Within n := by
  cases hchange with
  | position v => exact within_update h fun _ _ h => h.setPosition v
  | scale v => exact within_update h fun _ _ h => h.setScale v
  | alpha v => exact within_update h fun _ _ h => h.setAlpha v
  | interactable b => exact within_update h fun _ _ h => h.setInteractable b
  | toggle b =>
    rw [setToggle]
    split
    · exact within_update h fun _ _ h =>
        (h.setAlpha _).replaceComponent (Scene.keepsRefs_withToggle b)
    · exact h
  | progress v =>
    rw [setProgress]
    split
    · exact within_update h fun _ _ h =>
        (h.setAnchors _ _).replaceComponent (Scene.keepsRefs_withSliderValue _)
    · exact h
  | text s =>
    rw [showText]
    split
    · exact within_update h fun _ _ h => h.replaceComponent (Scene.keepsRefs_withText s)
    · exact h
  | image p =>
    rw [showImage]
    split
    · exact within_update h fun _ _ h => h.setImage p
    · exact h

namespace Orderly

theorem change (hc : canvas.Orderly) (hchange : Change id canvas canvas') : canvas'.Orderly where
  faithful := hc.faithful.change hchange
  tree := hc.tree.congr hchange.sameTree.ties
  within := hchange.sameTree.size ▸ hchange.within hc.within
  root := by
    intro k h hk
    cases hid : canvas.widget? id with
    | none =>
      rw [(hchange.eq_of_widget?_eq_none hid).2] at hk
      exact hc.root hk
    | some old =>
      obtain ⟨new, hbecomes, hwidgets⟩ := hchange.turns hid (hc.faithful.settled hid)
      rw [hwidgets] at hk
      split at hk
      · obtain rfl := Option.some.inj hk
        exact hbecomes.nodes ▸ hc.root hid
      · exact hc.root hk
  face := by
    cases hid : canvas.widget? id with
    | none => exact (hchange.eq_of_widget?_eq_none hid).1 ▸ hc.face
    | some old =>
      obtain ⟨new, hbecomes, -⟩ := hchange.turns hid (hc.faithful.settled hid)
      exact hbecomes.keeps _ (hc.root hid) _ hc.face

theorem slot (hc : canvas.Orderly) (id : WidgetId) (slot : Option Nat) :
    (canvas.setSlot id slot).Orderly where
  faithful := hc.faithful.slot id slot
  tree := hc.tree
  within := hc.within
  root := by
    intro k h hk
    rw [setSlot, widget?_modifyWidget] at hk
    split at hk
    · obtain ⟨old, hold, rfl⟩ := Option.map_eq_some_iff.mp hk
      have hroot := hc.root hold
      exact hroot
    · exact hc.root hk
  face := hc.face

theorem cleared (hc : canvas.Orderly) : canvas.cleared.Orderly where
  faithful := hc.faithful.cleared
  tree := hc.tree.destroy Scene.root
  within := by
    intro j node hnode c hmem
    rw [Canvas.cleared] at hnode
    simp only [hc.tree.node?_destroy_root hc.face] at hnode
    split at hnode
    · obtain rfl := Option.some.inj hnode
      cases hmem
    · cases hnode
  root := fun hid => by simp [Canvas.cleared, widget?] at hid
  face := hc.tree.destroy_root_cases.2.2 _ hc.face

theorem discard (hc : canvas.Orderly) (parent : NodeId) (name : String) :
    (canvas.discard parent name).Orderly where
  faithful := hc.faithful.discard parent name
  tree := (hc.tree.create parent name).destroy _
  within := by
    rw [Canvas.discard]
    simp only [Scene.size_destroy, Scene.size_create]
    exact (hc.within.congr fun j => hc.tree.node?_destroy_create).mono (Nat.le_succ _)
  root := hc.root
  face := (Scene.shows_destroy_create hc.faithful.pos).mpr hc.face

theorem build (hc : canvas.Orderly) (parent : NodeId) (name : String) (kind : Element.Kind)
    (outfit : Outfit) (blueprint : Blueprint) {group : Option GroupRef}
    (hgroup : ∀ g, group = some g → g.node.index < canvas.scene.nodes.size) :
    (canvas.build parent name kind outfit blueprint group).Orderly := by
  let made : Canvas := { canvas with scene := (canvas.scene.create parent name).2 }
  let node : NodeId := ⟨canvas.scene.nodes.size⟩
  have hsprouts := Blueprint.raise_sprouts made.scene node group blueprint
  have hmade : made.scene.nodes.size = canvas.scene.nodes.size + 1 := Scene.size_create
  have hsize : (canvas.build parent name kind outfit blueprint group).scene.nodes.size =
      (blueprint.raise made.scene node group).scene.nodes.size := by
    simp [Canvas.build, Canvas.furnish, made, node]
  have hle : made.scene.nodes.size ≤ (blueprint.raise made.scene node group).scene.nodes.size := by
    rw [Blueprint.size_raise]
    exact Nat.le_add_right _ _
  refine ⟨hc.faithful.build .., ?tree, ?within, ?root, ?face⟩
  case tree =>
    exact (hsprouts.isTree (hc.tree.create parent name)).congr fun j => by
      simp [Canvas.build, Canvas.furnish, made, node]
  case within =>
    -- what is raised refers to nodes that have been made by then, and the group has been before
    have hbefore : made.scene.Within (blueprint.raise made.scene node group).scene.nodes.size :=
      hc.within.create.mono (by omega)
    rw [hsize]
    exact (((Blueprint.raise_within hbefore
      (fun g hg => Nat.lt_of_lt_of_le (hgroup g hg) (by omega)) (Nat.le_refl _)).applyTransform
        _).setAlpha _).setInteractable _
  case root =>
    intro k h hk
    rw [widget?_build] at hk
    split at hk
    · -- the nodes of the new widget are new, and the root is not
      obtain rfl := Option.some.inj hk
      intro hmem
      have hindex : canvas.scene.nodes.size ≤ 0 :=
        canvas.builtHandle_fresh parent name kind outfit blueprint group _ hmem
      exact Nat.not_lt_of_le hindex hc.faithful.pos
    · exact hc.root hk
  case face => exact canvas.build_keeps parent name kind outfit blueprint group hc.faithful.pos hc.face

theorem bind (hc : canvas.Orderly) (board : Slots) (index : Nat) (id : WidgetId) :
    (board.bind canvas index id).value.2.2.Orderly :=
  bind_induction (fun hdisplay hc => hc.change hdisplay.change) (fun slot hc => hc.slot id slot) hc

theorem bindTo {bench : Workbench} (hc : bench.canvas.Orderly) (asked : Option Nat)
    (id : WidgetId) : (bench.bindTo asked id).canvas.Orderly := by
  cases asked with
  | none => exact hc
  | some index => exact hc.bind bench.slots index id

/-- The group of a switch has a node that has been made. -/
theorem groupOf_lt {bench : Workbench} (hc : bench.canvas.Orderly) (blueprint : Blueprint) :
    ∀ g, bench.groupOf blueprint = some g → g.node.index < bench.canvas.scene.nodes.size := by
  intro g hg
  obtain ⟨name, -, hg⟩ := Option.bind_eq_some_iff.mp hg
  obtain ⟨id, -, hg⟩ := Option.bind_eq_some_iff.mp hg
  obtain ⟨h, hid, rfl⟩ := Option.map_eq_some_iff.mp hg
  exact hc.faithful.node_lt hid List.mem_cons_self

/-- A visit keeps a canvas orderly. -/
theorem visit {theme : Theme} {bench bench' : Workbench} {parent : NodeId} {e : Element}
    {below : Option NodeId} (hc : bench.canvas.Orderly)
    (h : (Workbench.visit theme bench parent e).run.value = .ok (below, bench')) :
    bench'.canvas.Orderly := by
  cases Workbench.visit_cases h with
  | unnamed => exact hc
  | unknown => exact hc
  | @failed name => exact hc.discard parent name
  | @kept name kind outfit blueprint =>
    have hgrown : (bench.grow parent name kind outfit blueprint).canvas.Orderly :=
      hc.build parent name kind outfit blueprint (hc.groupOf_lt blueprint)
    exact hgrown.bindTo e.slotAsked _

end Orderly

end Canvas

namespace Session

/-- What holds where there are no widgets and no names, and is preserved by changes of widgets, by
their slots, by the clearing and by visits of elements, holds of the canvas and the names of every
session that is reached. -/
theorem Reachable.bench_induction {p : Canvas → Registry → Prop} (hnew : p ⟨.new, #[]⟩ {})
    (hchange : ∀ {id canvas canvas' registry}, Canvas.Change id canvas canvas' →
      p canvas registry → p canvas' registry)
    (hslot : ∀ {canvas registry} id slot, p canvas registry → p (canvas.setSlot id slot) registry)
    (hclear : ∀ {canvas registry}, p canvas registry → p canvas.cleared {})
    (hvisit : ∀ theme, Workbench.VisitsPreserve theme fun bench => p bench.canvas bench.registry)
    {s : Session} (hs : Reachable s) : p s.stage.canvas s.registry := by
  have hlinks {canvas canvas' : Canvas} {registry : Registry} (h : Canvas.Links canvas canvas')
      (hp : p canvas registry) : p canvas' registry :=
    reflTransGen_preserves (p := fun between => p between registry) (fun hlink hp => by
      cases hlink with
      | slot id slot => exact hslot id slot hp
      | display hdisplay => exact hchange hdisplay.change hp) h hp
  have hchanges {canvas canvas' : Canvas} {registry : Registry}
      (h : Canvas.Changes canvas canvas') (hp : p canvas registry) : p canvas' registry :=
    reflTransGen_preserves (p := fun between => p between registry)
      (fun ⟨_, h⟩ hp => hchange h hp) h hp
  have hcleared {s : Session} (hp : p s.stage.canvas s.registry) :
      p s.clear.value.stage.canvas s.clear.value.registry := by
    rw [clear_value]
    exact hclear hp
  have hclearForLoad {s : Session} (hp : p s.stage.canvas s.registry) :
      p s.clearForLoad.value.stage.canvas s.clearForLoad.value.registry := by
    rw [clearForLoad]
    cases s.config.clearOnLoad with
    | true => exact hcleared hp
    | false => exact hp
  induction hs with
  | new => exact hnew
  | @after s s' op _ hafter ih =>
    cases hop : op.rebuilds with
    | true =>
      rcases after_of_rebuilds hafter hop with rfl | hloading
      · exact hcleared ih
      · cases hloading with
        | unread => exact ih
        | refused => exact hclearForLoad ih
        | compiled root bench hbench =>
          exact Workbench.compileAll_induction (hvisit _) root.children hbench (hclearForLoad ih)
    | false =>
      rw [after_registry hafter hop]
      cases after_effect hafter with
      | loaded hloads => exact absurd (hop.symm.trans hloads) Bool.false_ne_true
      | cleared => cases hop
      | executed element command args => exact hchanges (execute_changes _ element command args) ih
      | scheduled => exact ih
      | progressed element value animate =>
        exact hchanges (setProgress_changes _ element value animate) ih
      | ticked dt => exact hchanges (tick_changes _ dt) ih
      | linked _ _ hcanvas => exact hlinks hcanvas ih

/-- What holds of an empty canvas and is preserved by changes of widgets, by their slots, by the
clearing and by visits of elements holds of every canvas that a session comes to. -/
theorem Reachable.visit_induction {p : Canvas → Prop} (hnew : p ⟨.new, #[]⟩)
    (hchange : ∀ {id canvas canvas'}, Canvas.Change id canvas canvas' → p canvas → p canvas')
    (hslot : ∀ {canvas} id slot, p canvas → p (canvas.setSlot id slot))
    (hclear : ∀ {canvas}, p canvas → p canvas.cleared)
    (hvisit : ∀ theme, Workbench.VisitsPreserve theme fun bench => p bench.canvas)
    {s : Session} (hs : Reachable s) : p s.stage.canvas :=
  hs.bench_induction (p := fun canvas _ => p canvas) hnew hchange hslot hclear hvisit

/-- The canvas of a reachable session is orderly. -/
theorem Reachable.orderly {s : Session} (hs : Reachable s) : s.stage.canvas.Orderly :=
  hs.visit_induction Canvas.orderly_new (fun hchange hc => hc.change hchange)
    (fun id slot hc => hc.slot id slot) (fun hc => hc.cleared) fun _ _ _ _ _ _ h hc => hc.visit h

theorem Reachable.clearForLoad {s : Session} (hs : Reachable s) :
    Reachable s.clearForLoad.value := by
  rw [Session.clearForLoad]
  cases s.config.clearOnLoad with
  | true => exact .after hs (rfl : s.after .clear = .ok s.clear.value)
  | false => exact hs

end Session

end Uiml
