import Uiml.Proofs.Canvas.Local
import Uiml.Proofs.Canvas.Mirror
import Uiml.Proofs.Canvas.Orderly
import Uiml.Proofs.Table.Keys

/-!
# What widgets and names refer to

A widget keeps its name, its kind and its nodes, and a switch keeps its group, whatever is done to
it. So what is known of these when the widget is built stays true until the clearing. The nodes of a
widget hang below its own node. A switch belongs to a group that was there before it. A name leads
to a widget that has it, and that can be found by its kind as well. None of this is changed by what
is done to widgets, and every new widget starts that way.

## Main definitions

* `Handle.Frame`, `Handle.frame` — what a widget is for life
* `Canvas.SameFrames` — the widgets of two canvases differ in nothing of that kind
* `Canvas.Rooted` — the nodes of each widget lie at or below its own node
* `Canvas.Grouped` — the group of a switch is a group that is older than the switch
* `Registry.Names` — every name leads to a widget that has it
* `Canvas.References` — all of this, in an orderly canvas

## Main results

* `Canvas.Change.sameFrames`, `Canvas.sameFrames_setSlot` — neither changes nor bindings touch what
  a widget is for life
* `Canvas.References.visit` — a visit keeps the references intact
* `Session.Reachable.references` — they are intact in every reachable session
-/

namespace Uiml

namespace Handle

/-- The group that a switch belongs to. -/
def Parts.group? : Parts → Option WidgetId
  | .toggle _ _ group => group
  | _ => none

/-- What a widget is for life. -/
structure Frame where
  name : String
  kind : Element.Kind
  node : NodeId
  /-- The nodes that its parts are made of. -/
  parts : List NodeId
  /-- The group that it belongs to, if it is a switch. -/
  group : Option WidgetId

def frame (h : Handle) : Frame := ⟨h.name, h.kind, h.node, h.parts.nodes, h.parts.group?⟩

variable {h h' : Handle}

theorem nodes_of_frame (hframe : h'.frame = h.frame) : h'.nodes = h.nodes := by
  have hnode : h'.node = h.node := congrArg Frame.node hframe
  have hparts : h'.parts.nodes = h.parts.nodes := congrArg Frame.parts hframe
  rw [nodes, nodes, hnode, hparts]

end Handle

namespace Canvas

variable {canvas canvas' : Canvas} {id : WidgetId} {h : Handle}

/-- The widgets of two canvases are the same in all that they are for life. -/
def SameFrames (canvas canvas' : Canvas) : Prop :=
  ∀ j, (canvas'.widget? j).map Handle.frame = (canvas.widget? j).map Handle.frame

namespace SameFrames

theorem refl (canvas : Canvas) : canvas.SameFrames canvas := fun _ => rfl

theorem symm (h : canvas.SameFrames canvas') : canvas'.SameFrames canvas := fun j => (h j).symm

theorem widget? (hsame : canvas.SameFrames canvas') (hid : canvas.widget? id = some h) :
    ∃ h', canvas'.widget? id = some h' ∧ h'.frame = h.frame :=
  Option.map_eq_some_iff.mp ((hsame id).trans (congrArg (Option.map Handle.frame) hid))

end SameFrames

theorem sameFrames_update {f : Handle → Handle} {g : Handle → Scene → Scene}
    (hf : ∀ h, canvas.widget? id = some h → (f h).frame = h.frame) :
    canvas.SameFrames (canvas.update id f g) := map_widget?_update Handle.frame hf

theorem sameFrames_setSlot (canvas : Canvas) (id : WidgetId) (slot : Option Nat) :
    canvas.SameFrames (canvas.setSlot id slot) := by
  intro j
  rw [setSlot, widget?_modifyWidget]
  split
  · rw [Option.map_map]
    rfl
  · rfl

/-- No change of a widget makes it another one. -/
theorem Change.sameFrames (hchange : Change id canvas canvas') : canvas.SameFrames canvas' := by
  cases hchange with
  | position | scale | alpha | interactable => exact sameFrames_update fun _ _ => rfl
  | toggle b =>
    rw [setToggle]
    split
    · next checkmark wasOn group hparts =>
      refine sameFrames_update fun h hid => ?_
      -- the switch keeps its checkmark and its group, and only its state is another one
      rw [hid, Option.map_some, Option.some.injEq] at hparts
      rw [Handle.frame, Handle.frame, hparts]
      rfl
    · exact .refl canvas
  | progress v =>
    rw [setProgress]
    split
    · next bar hparts =>
      refine sameFrames_update fun h hid => ?_
      rw [hid, Option.map_some, Option.some.injEq] at hparts
      rw [Handle.frame, Handle.frame, hparts]
      rfl
    · exact .refl canvas
  | text s =>
    rw [showText]
    split
    · exact sameFrames_update fun _ _ => rfl
    · exact .refl canvas
  | image p =>
    rw [showImage]
    split
    · exact sameFrames_update fun _ _ => rfl
    · exact .refl canvas

end Canvas

/-- The nodes of each widget lie at or below its own node. -/
def Canvas.Rooted (canvas : Canvas) : Prop :=
  ∀ id h, canvas.widget? id = some h → ∀ j ∈ h.nodes, canvas.scene.Below h.node j

/-- The group of a switch is a group that is older than the switch. -/
def Canvas.Grouped (canvas : Canvas) : Prop :=
  ∀ id h g, canvas.widget? id = some h → h.parts.group? = some g →
    g.index < id.index ∧ ∃ group, canvas.widget? g = some group ∧ group.kind = .toggleGroup

/-- Every name leads to a widget that has it, and no name stands twice in a table. -/
structure Registry.Names (registry : Registry) (canvas : Canvas) : Prop where
  distinct : registry.byName.Distinct
  distinctKind : registry.byKind.Distinct
  /-- What is found among all widgets is found among those of its kind too. -/
  named : ∀ {name id}, registry.get? name = some id →
    ∃ h, canvas.widget? id = some h ∧ h.name = name ∧ registry.getKind? h.kind name = some id
  namedKind : ∀ {kind name id}, registry.getKind? kind name = some id →
    ∃ h, canvas.widget? id = some h ∧ h.name = name ∧ h.kind = kind

/-- The references of the widgets of an orderly canvas are intact, and those of their names. -/
structure Canvas.References (canvas : Canvas) (registry : Registry) : Prop where
  orderly : canvas.Orderly
  rooted : canvas.Rooted
  grouped : canvas.Grouped
  names : registry.Names canvas

variable {canvas canvas' : Canvas} {registry : Registry} {id : WidgetId}

/-! ### The nodes of widgets -/

namespace Canvas.Rooted

theorem congr (hc : canvas.Rooted) (hframes : canvas.SameFrames canvas')
    (hties : ∀ j, canvas'.scene.ties? j = canvas.scene.ties? j) : canvas'.Rooted := by
  intro id h hid j hj
  obtain ⟨old, hold, hframe⟩ := hframes.symm.widget? hid
  have hnode : old.node = h.node := congrArg Handle.Frame.node hframe
  have hmem : j ∈ old.nodes := Handle.nodes_of_frame hframe ▸ hj
  exact hnode ▸ (hc id old hold j hmem).mono fun hchild => hchild.congr hties

/-- The parts of a new widget are made below its node, and no other node is moved. -/
theorem build (hc : canvas.Rooted) (hcanvas : canvas.Orderly) (parent : NodeId) (name : String)
    (kind : Element.Kind) (outfit : Outfit) (blueprint : Blueprint) (group : Option GroupRef) :
    (canvas.build parent name kind outfit blueprint group).Rooted := by
  let made := (canvas.scene.create parent name).2
  let node : NodeId := ⟨canvas.scene.nodes.size⟩
  let raised := blueprint.raise made node group
  obtain ⟨bare, hnode, hcomponents, himage⟩ : ∃ bare, made.node? node = some bare ∧
      bare.components = [] ∧ bare.image = none := canvas.exists_bare parent name
  have hlive : made.contains node = true := Scene.contains_iff.mpr ⟨bare, hnode⟩
  have hmade : made.IsTree := hcanvas.tree.create parent name
  have hsprouts := Blueprint.raise_sprouts made node group blueprint
  have hties (j : NodeId) :
      (canvas.build parent name kind outfit blueprint group).scene.ties? j =
        raised.scene.ties? j := by
    simp [Canvas.build, Canvas.furnish, raised, made, node]
  intro id h hid j hj
  rw [widget?_build] at hid
  split at hid
  · -- the parts are newer than the node of the new widget
    obtain rfl := Option.some.inj hid
    suffices hbelow : raised.scene.Below node j from hbelow.mono fun hchild => hchild.congr hties
    have hfits := Blueprint.raise_fits hnode hcomponents himage group blueprint
    rcases List.mem_cons.mp hj with rfl | hpart
    · exact .refl
    · have hfresh : made.nodes.size ≤ j.index := hfits.fresh j hpart
      have hlt := (hfits.live j (List.mem_cons_of_mem _ hpart)).lt_size
      exact (hsprouts.sprouted hlive).below (hsprouts.isTree hmade) hlive hfresh hlt
  · refine (hc id h hid j hj).mono fun hchild => ?_
    have hkept := hsprouts.isChild hmade (hcanvas.tree.isChild_create hchild parent name)
    exact hkept.congr hties

end Canvas.Rooted

/-! ### Names -/

namespace Registry.Names

theorem congr (hn : registry.Names canvas) (hframes : canvas.SameFrames canvas') :
    registry.Names canvas' where
  distinct := hn.distinct
  distinctKind := hn.distinctKind
  named := by
    intro name id hget
    obtain ⟨h, hid, hname, hkind⟩ := hn.named hget
    obtain ⟨h', hid', hframe⟩ := hframes.widget? hid
    have hname' : h'.name = h.name := congrArg Handle.Frame.name hframe
    have hkind' : h'.kind = h.kind := congrArg Handle.Frame.kind hframe
    exact ⟨h', hid', hname'.trans hname, hkind' ▸ hkind⟩
  namedKind := by
    intro kind name id hget
    obtain ⟨h, hid, hname, hkind⟩ := hn.namedKind hget
    obtain ⟨h', hid', hframe⟩ := hframes.widget? hid
    have hname' : h'.name = h.name := congrArg Handle.Frame.name hframe
    have hkind' : h'.kind = h.kind := congrArg Handle.Frame.kind hframe
    exact ⟨h', hid', hname'.trans hname, hkind'.trans hkind⟩

theorem empty (canvas : Canvas) : Registry.Names {} canvas where
  distinct := Table.distinct_empty
  distinctKind := Table.distinct_empty
  named := fun hget => nomatch hget
  namedKind := fun hget => nomatch hget

/-- The name of a new widget leads to it, and every other name to where it led before. -/
theorem insert (hn : registry.Names canvas) {h : Handle} (hid : canvas'.widget? id = some h)
    (hold : ∀ {j old}, canvas.widget? j = some old → canvas'.widget? j = some old) :
    (registry.insert h.name h.kind id).2.Names canvas' where
  distinct := hn.distinct.insert _ _
  distinctKind := hn.distinctKind.insert _ _
  named := by
    intro name j hget
    rw [Registry.insert, Registry.get?, Table.get?_insert] at hget
    simp only [Registry.insert, Registry.getKind?, Table.get?_insert]
    split at hget
    · next he =>
      subst he
      obtain rfl := Option.some.inj hget
      exact ⟨h, hid, rfl, if_pos rfl⟩
    · next hne =>
      -- the name differs from that of the new widget, whatever the kinds
      obtain ⟨old, hj, hname, hkind⟩ := hn.named hget
      refine ⟨old, hold hj, hname, ?_⟩
      rw [if_neg fun he => hne (Prod.mk.inj he).2]
      exact hkind
  namedKind := by
    intro kind name j hget
    simp only [Registry.insert, Registry.getKind?, Table.get?_insert] at hget
    split at hget
    · next he =>
      obtain ⟨rfl, rfl⟩ := Prod.mk.inj he
      obtain rfl := Option.some.inj hget
      exact ⟨h, hid, rfl, rfl⟩
    · obtain ⟨old, hj, hname, hkind⟩ := hn.namedKind hget
      exact ⟨old, hold hj, hname, hkind⟩

end Registry.Names

/-! ### Groups -/

/-- Only a switch has a group, and it has the one that it was built with. -/
theorem Blueprint.group?_raise {scene : Scene} {node : NodeId} {group : Option GroupRef}
    {blueprint : Blueprint} {g : WidgetId}
    (h : (blueprint.raise scene node group).parts.group? = some g) :
    ∃ ref, group = some ref ∧ ref.widget = g := by
  cases blueprint with
  | toggle => exact Option.map_eq_some_iff.mp h
  | button background label => cases label <;> cases h
  | _ => cases h

/-- The group of a switch is found among the groups. -/
theorem Workbench.getKind?_of_groupOf {bench : Workbench} {blueprint : Blueprint} {ref : GroupRef}
    (h : bench.groupOf blueprint = some ref) :
    ∃ name, bench.registry.getKind? .toggleGroup name = some ref.widget := by
  obtain ⟨name, -, h⟩ := Option.bind_eq_some_iff.mp h
  obtain ⟨id, hget, h⟩ := Option.bind_eq_some_iff.mp h
  obtain ⟨group, -, rfl⟩ := Option.map_eq_some_iff.mp h
  exact ⟨name, hget⟩

theorem Canvas.Grouped.congr (hc : canvas.Grouped) (hframes : canvas.SameFrames canvas') :
    canvas'.Grouped := by
  intro id h g hid hg
  obtain ⟨old, hold, hframe⟩ := hframes.symm.widget? hid
  have hgroup : old.parts.group? = h.parts.group? := congrArg Handle.Frame.group hframe
  obtain ⟨hlt, group, hgroup, hkind⟩ := hc id old g hold (hgroup.trans hg)
  obtain ⟨group', hgroup', hframe'⟩ := hframes.widget? hgroup
  have hkind' : group'.kind = group.kind := congrArg Handle.Frame.kind hframe'
  exact ⟨hlt, group', hgroup', hkind'.trans hkind⟩

/-! ### All references -/

namespace Canvas.References

theorem congr (hc : canvas.References registry) (hcanvas : canvas'.Orderly)
    (hframes : canvas.SameFrames canvas')
    (hties : ∀ j, canvas'.scene.ties? j = canvas.scene.ties? j) : canvas'.References registry where
  orderly := hcanvas
  rooted := hc.rooted.congr hframes hties
  grouped := hc.grouped.congr hframes
  names := hc.names.congr hframes

theorem change (hc : canvas.References registry) (hchange : Change id canvas canvas') :
    canvas'.References registry :=
  hc.congr (hc.orderly.change hchange) hchange.sameFrames hchange.sameTree.ties

theorem slot (hc : canvas.References registry) (id : WidgetId) (slot : Option Nat) :
    (canvas.setSlot id slot).References registry :=
  hc.congr (hc.orderly.slot id slot) (sameFrames_setSlot canvas id slot) fun _ => rfl

theorem discard (hc : canvas.References registry) (parent : NodeId) (name : String) :
    (canvas.discard parent name).References registry :=
  hc.congr (hc.orderly.discard parent name) (.refl canvas) fun _ =>
    congrArg (Option.map Scene.Node.ties) hc.orderly.tree.node?_destroy_create

/-- Without widgets and names nothing is referred to. -/
theorem empty (hcanvas : canvas.Orderly) (hwidgets : ∀ id, canvas.widget? id = none) :
    canvas.References {} where
  orderly := hcanvas
  rooted := fun id _ hid => nomatch (hwidgets id).symm.trans hid
  grouped := fun id _ _ hid => nomatch (hwidgets id).symm.trans hid
  names := .empty canvas

/-- A new widget has parts of its own, belongs to a group that is there, and has its name. -/
theorem grow {bench : Workbench} (hc : bench.canvas.References bench.registry) (parent : NodeId)
    (name : String) (kind : Element.Kind) (outfit : Outfit) (blueprint : Blueprint) :
    (bench.grow parent name kind outfit blueprint).canvas.References
      (bench.grow parent name kind outfit blueprint).registry := by
  let built := bench.canvas.build parent name kind outfit blueprint (bench.groupOf blueprint)
  have hnew : built.widget? ⟨bench.canvas.widgets.size⟩ =
      some (bench.canvas.builtHandle parent name kind outfit blueprint
        (bench.groupOf blueprint)) := by
    rw [widget?_build, if_pos rfl]
  have hold : ∀ {j old}, bench.canvas.widget? j = some old → built.widget? j = some old := by
    intro j old hj
    rw [widget?_build, if_neg (ne_next (widget?_lt hj)), hj]
  refine ⟨?orderly, ?rooted, ?grouped, ?names⟩
  case orderly =>
    exact hc.orderly.build parent name kind outfit blueprint (hc.orderly.groupOf_lt blueprint)
  case rooted => exact hc.rooted.build hc.orderly parent name kind outfit blueprint _
  case grouped =>
    intro j h g hj hg
    change built.widget? j = some h at hj
    rw [widget?_build] at hj
    split at hj
    · next he =>
      -- the group has been found by its name, hence it is there already
      obtain rfl := Option.some.inj hj
      obtain ⟨ref, href, rfl⟩ := Blueprint.group?_raise hg
      obtain ⟨groupName, hget⟩ := Workbench.getKind?_of_groupOf href
      obtain ⟨group, hgroup, -, hkind⟩ := hc.names.namedKind hget
      exact ⟨he ▸ widget?_lt hgroup, group, hold hgroup, hkind⟩
    · obtain ⟨hlt, group, hgroup, hkind⟩ := hc.grouped j h g hj hg
      exact ⟨hlt, group, hold hgroup, hkind⟩
  case names => exact hc.names.insert hnew hold

theorem bindTo {bench : Workbench} (hc : bench.canvas.References bench.registry)
    (asked : Option Nat) (id : WidgetId) :
    (bench.bindTo asked id).canvas.References (bench.bindTo asked id).registry := by
  cases asked with
  | none => exact hc
  | some index =>
    exact bind_induction (p := fun between => between.References bench.registry)
      (fun hdisplay hc => hc.change hdisplay.change) (fun slot hc => hc.slot id slot) hc

/-- A visit keeps the references intact. -/
theorem visit {theme : Theme} {bench bench' : Workbench} {parent : NodeId} {e : Element}
    {below : Option NodeId} (hc : bench.canvas.References bench.registry)
    (h : (Workbench.visit theme bench parent e).run.value = .ok (below, bench')) :
    bench'.canvas.References bench'.registry := by
  cases Workbench.visit_cases h with
  | unnamed => exact hc
  | unknown => exact hc
  | @failed name => exact hc.discard parent name
  | @kept name kind outfit blueprint =>
    exact (hc.grow parent name kind outfit blueprint).bindTo e.slotAsked _

end Canvas.References

/-- In every reachable session widgets and names refer to what is there. -/
theorem Session.Reachable.references {s : Session} (hs : Reachable s) :
    s.stage.canvas.References s.registry :=
  hs.bench_induction (.empty Canvas.orderly_new fun _ => rfl) (fun hchange hc => hc.change hchange)
    (fun id slot hc => hc.slot id slot) (fun hc => .empty hc.orderly.cleared fun _ => rfl)
    fun _ _ _ _ _ _ h hc => hc.visit h

end Uiml
