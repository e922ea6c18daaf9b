import Uiml.Proofs.Session.Footprint
import Uiml.Proofs.Session.Structure

/-!
# Loads that clear nothing

If the settings say that a load clears nothing, a load only adds to what is there. The root gets new
children after those that it has, slots list new widgets after those that they list, and a name
leads elsewhere only if the document has an element of that name. This holds although the new
widgets are bound to old slots, switches look up old groups, and nodes are made for elements that
turn out to be faulty and are taken back again.

## Main definitions

* `Canvas.AddedTo`, `Slots.AddedTo`, `Registry.AddedTo` — what is there has been added to
* `Workbench.AddedTo` — the same for all that documents are compiled into

## Main results

* `Workbench.AddedTo.meet`, `Workbench.AddedTo.walk` — an encounter, and a walk, only add
* `Session.Reachable.load_additive` — a load that clears nothing only adds
-/

namespace Uiml

open Element (Encounter encounters encountersAll)

/-! ### Where new widgets go -/

mutual

/-- The widgets of elements below a widget go below that one or below newer ones. -/
theorem Element.encounters_above_le : ∀ (e : Element) {above : Option WidgetId} {first next : Nat},
    (∀ id, above = some id → first ≤ id.index) → first ≤ next →
    ∀ m ∈ encounters above next e, ∀ id, m.above = some id → first ≤ id.index
  | ⟨tag, attributes, children, _⟩, above, first, next, habove, hle => by
    rw [encounters]
    intro m hm
    rcases List.mem_cons.mp hm with rfl | hm
    · exact habove
    · cases hfate : ({ tag, attributes } : Element).fate with
      | unnamed | failed name | broken breakdown =>
        rw [hfate] at hm
        cases hm
      | unknown =>
        rw [hfate] at hm
        exact encountersAll_above_le children habove hle m hm
      | kept name kind =>
        rw [hfate] at hm
        -- the elements below it go below the widget that it gets, which is a new one
        refine encountersAll_above_le children ?_ (Nat.le_succ_of_le hle) m hm
        rintro _ ⟨⟩
        exact hle

theorem Element.encountersAll_above_le : ∀ (es : List Element) {above : Option WidgetId}
    {first next : Nat}, (∀ id, above = some id → first ≤ id.index) → first ≤ next →
    ∀ m ∈ encountersAll above next es, ∀ id, m.above = some id → first ≤ id.index
  | [], _, _, _, _, _ => fun m hm => nomatch hm
  | e :: rest, above, first, next, habove, hle => by
    rw [encountersAll]
    intro m hm
    rcases List.mem_append.mp hm with hm | hm
    · exact encounters_above_le e habove hle m hm
    · exact encountersAll_above_le rest habove (Nat.le_add_right_of_le hle) m hm

end

/-! ### Nodes and widgets -/

theorem Scene.Node.adding_nil (node : Scene.Node) : node.adding [] = node := by
  simp [adding]

theorem Scene.Node.adding_adding (node : Scene.Node) (new newer : List NodeId) :
    (node.adding new).adding newer = node.adding (new ++ newer) := by
  simp [adding]

namespace Canvas

variable {before canvas canvas' : Canvas} {above : Option WidgetId} {id : WidgetId} {w : Handle}

/-- A canvas has been added to: the widgets and the nodes that were there are as they were, but the
root has got new nodes as its last children. -/
structure AddedTo (before after : Canvas) : Prop where
  widgets : ∀ id : WidgetId, id.index < before.widgets.size →
    after.widget? id = before.widget? id
  nodes : ∀ j : NodeId, j.index < before.scene.nodes.size → j ≠ Scene.root →
    after.scene.node? j = before.scene.node? j
  root : ∃ new, (∀ j ∈ new, before.scene.nodes.size ≤ j.index) ∧
    after.scene.node? Scene.root = (before.scene.node? Scene.root).map (·.adding new)
  /-- No id has been given out twice. -/
  size_widgets : before.widgets.size ≤ after.widgets.size
  size_nodes : before.scene.nodes.size ≤ after.scene.nodes.size
  /-- New widgets write to new nodes. -/
  fresh : ∀ {id h}, before.widgets.size ≤ id.index → after.widget? id = some h →
    ∀ j ∈ h.nodes, before.scene.nodes.size ≤ j.index

/-- A widget that is built gives its parent a new last child, and touches no other node. -/
theorem node?_build (hparent : canvas.scene.contains parent = true) (name : String)
    {kind : Element.Kind} (outfit : Outfit) {blueprint : Blueprint} (group : Option GroupRef)
    (hkind : blueprint.isScrollArea = decide (kind = .scrollArea)) {j : NodeId}
    (hj : j.index < canvas.scene.nodes.size) :
    (canvas.build parent name kind outfit blueprint group).scene.node? j =
      (canvas.scene.node? j).map
        (·.adding (if j = parent then [⟨canvas.scene.nodes.size⟩] else [])) := by
  have hbuilt := build_built hparent name outfit group hkind
  refine Scene.node?_of_shows (fun p hp => ?_) ?_
  · exact canvas.build_keeps parent name kind outfit blueprint group hj hp
  · rw [hbuilt.old j hj, hbuilt.node]
    split
    · rfl
    · simp

namespace AddedTo

theorem refl (canvas : Canvas) : canvas.AddedTo canvas where
  widgets := fun _ _ => rfl
  nodes := fun _ _ _ => rfl
  root := by
    refine ⟨[], nofun, ?_⟩
    simp [Scene.Node.adding_nil]
  size_widgets := Nat.le_refl _
  size_nodes := Nat.le_refl _
  fresh := fun hle hid => absurd (widget?_lt hid) (Nat.not_lt_of_le hle)

/-- The place of a new widget is the root or new. -/
theorem place (h : before.AddedTo canvas) (habove : canvas.HasAbove above)
    (hnew : ∀ id, above = some id → before.widgets.size ≤ id.index) :
    canvas.place above = Scene.root ∨
      before.scene.nodes.size ≤ (canvas.place above).index := by
  cases above with
  | none => exact .inl rfl
  | some id =>
    obtain ⟨w, hid⟩ := exists_widget? (habove id rfl)
    rw [Canvas.place, hid]
    exact .inr (h.fresh (hnew id rfl) hid _ w.contentNode_mem)

/-- A widget that is built below the root or below a new widget adds to what was there. -/
theorem build (h : before.AddedTo canvas) (hc : canvas.Orderly) (habove : canvas.HasAbove above)
    (hnew : ∀ id, above = some id → before.widgets.size ≤ id.index) (name : String)
    {kind : Element.Kind} (outfit : Outfit) {blueprint : Blueprint} (group : Option GroupRef)
    (hkind : blueprint.isScrollArea = decide (kind = .scrollArea)) :
    before.AddedTo (canvas.build (canvas.place above) name kind outfit blueprint group) := by
  have hbuilt := build_built (hc.contains_place habove) name outfit group hkind
  have hnode {j : NodeId} (hj : j.index < canvas.scene.nodes.size) :=
    node?_build (hc.contains_place habove) name outfit group hkind hj
  have hsize := hbuilt.size
  have hlarger := h.size_nodes
  refine ⟨fun id hid => ?widgets, fun j hj hne => ?nodes, ?root, ?size_widgets, ?size_nodes,
    fun {id w} hid hw => ?fresh⟩
  case widgets =>
    rw [widget?_build, if_neg (ne_next (Nat.lt_of_lt_of_le hid h.size_widgets)), h.widgets id hid]
  case nodes =>
    -- a node that was there, and is not the root, is not the place of a new widget
    have hother : j ≠ canvas.place above := by
      rintro rfl
      rcases h.place habove hnew with hroot | hle
      · exact hne hroot
      · exact Nat.not_lt_of_le hle hj
    rw [hnode (Nat.lt_of_lt_of_le hj hlarger), if_neg hother, h.nodes j hj hne]
    simp [Scene.Node.adding_nil]
  case root =>
    obtain ⟨new, hfresh, hroot⟩ := h.root
    refine ⟨new ++ if Scene.root = canvas.place above then [⟨canvas.scene.nodes.size⟩] else [],
      fun j hj => ?_, ?_⟩
    · rcases List.mem_append.mp hj with hj | hj
      · exact hfresh j hj
      · split at hj
        · rwa [List.mem_singleton.mp hj]
        · cases hj
    · have hpos : Scene.root.index < canvas.scene.nodes.size := hc.faithful.pos
      rw [hnode hpos, hroot, Option.map_map]
      simp only [Function.comp_def, Scene.Node.adding_adding]
  case size_widgets =>
    rw [Canvas.build, furnish, Array.size_push]
    exact Nat.le_succ_of_le h.size_widgets
  case size_nodes => omega
  case fresh =>
    rw [widget?_build] at hw
    split at hw
    · obtain rfl := Option.some.inj hw
      intro j hj
      exact Nat.le_trans hlarger (canvas.builtHandle_fresh _ name kind outfit blueprint group j hj)
    · exact h.fresh hid hw

/-- A node that is made and taken back again is no addition, but its id is used up. -/
theorem discard (h : before.AddedTo canvas) (hc : canvas.Orderly) (parent : NodeId)
    (name : String) : before.AddedTo (canvas.discard parent name) where
  widgets := h.widgets
  nodes := fun j hj hne => hc.tree.node?_destroy_create.trans (h.nodes j hj hne)
  root := by
    obtain ⟨new, hfresh, hroot⟩ := h.root
    exact ⟨new, hfresh, hc.tree.node?_destroy_create.trans hroot⟩
  size_widgets := h.size_widgets
  size_nodes := by
    rw [Canvas.discard]
    simp only [Scene.size_destroy, Scene.size_create]
    exact Nat.le_succ_of_le h.size_nodes
  fresh := h.fresh

/-- What becomes of a new widget is seen on new nodes only. -/
theorem turns (h : before.AddedTo canvas) (hpos : 0 < before.scene.nodes.size)
    (hnew : before.widgets.size ≤ id.index) (hid : canvas.widget? id = some w)
    (hturns : canvas.Turns id w canvas') (htree : canvas.scene.SameTree canvas'.scene)
    (hsize : canvas'.widgets.size = canvas.widgets.size) : before.AddedTo canvas' := by
  obtain ⟨w', hbecomes, hwidgets⟩ := hturns
  -- the nodes that were there are none of those that the widget writes to
  have hnode {j : NodeId} (hj : j.index < before.scene.nodes.size) :
      canvas'.scene.node? j = canvas.scene.node? j :=
    hbecomes.keeps.node?_eq htree fun hmem => Nat.not_lt_of_le (h.fresh hnew hid j hmem) hj
  refine ⟨fun j hj => ?widgets, fun j hj hne => ?nodes, ?root, ?size_widgets, ?size_nodes,
    fun {j v} hj hv => ?fresh⟩
  case widgets =>
    have hne : j ≠ id := by
      rintro rfl
      exact Nat.not_lt_of_le hnew hj
    rw [hwidgets, if_neg hne, h.widgets j hj]
  case nodes => rw [hnode hj, h.nodes j hj hne]
  case root =>
    obtain ⟨new, hfresh, hroot⟩ := h.root
    exact ⟨new, hfresh, (hnode hpos).trans hroot⟩
  case size_widgets => rw [hsize]; exact h.size_widgets
  case size_nodes => rw [hbecomes.size]; exact h.size_nodes
  case fresh =>
    rw [hwidgets] at hv
    split at hv
    · obtain rfl := Option.some.inj hv
      rw [hbecomes.nodes]
      exact h.fresh hnew hid
    · exact h.fresh hj hv

/-- To bind a new widget to a slot is to do something to it. -/
theorem bindTo {bench : Workbench} (h : before.AddedTo bench.canvas)
    (hpos : 0 < before.scene.nodes.size) (hnew : before.widgets.size ≤ id.index)
    (hid : bench.canvas.widget? id = some w) (hs : w.Settled bench.canvas.scene)
    (asked : Option Nat) : before.AddedTo (bench.bindTo asked id).canvas := by
  cases asked with
  | none => exact h
  | some index =>
    -- on the way the widget stays in agreement with its nodes
    have hturned {canvas canvas' : Canvas} {w : Handle} (h : before.AddedTo canvas)
        (hid : canvas.widget? id = some w) (hturns : canvas.Turns id w canvas')
        (htree : canvas.scene.SameTree canvas'.scene)
        (hsize : canvas'.widgets.size = canvas.widgets.size) :
        before.AddedTo canvas' ∧ ∃ w', canvas'.widget? id = some w' ∧ w'.Settled canvas'.scene := by
      refine ⟨h.turns hpos hnew hid hturns htree hsize, ?_⟩
      obtain ⟨w', hbecomes, hwidgets⟩ := hturns
      exact ⟨w', (hwidgets id).trans (if_pos rfl), hbecomes.settled⟩
    refine (bind_induction (p := fun canvas => before.AddedTo canvas ∧
      ∃ w, canvas.widget? id = some w ∧ w.Settled canvas.scene) ?_ ?_ ⟨h, w, hid, hs⟩).1
    · rintro canvas canvas' hdisplay ⟨h, w, hid, hs⟩
      have hchange := hdisplay.change
      exact hturned h hid (hchange.turns hid hs) hchange.sameTree hchange.size_widgets
    · rintro canvas slot ⟨h, w, hid, hs⟩
      exact hturned h hid (setSlot_turns hid hs slot) (.refl _) (size_modifyWidget _)

end AddedTo

end Canvas

/-! ### Slots and names -/

namespace Slots

variable {before board : Slots} {canvas : Canvas} {id : WidgetId} {h : Handle} {n : Nat}

/-- Slots have been added to: each has its content, its state and its requests, and lists new
widgets, those from a number on, after those that it listed. -/
structure AddedTo (n : Nat) (before after : Slots) : Prop where
  rest : after = { before with slots := after.slots }
  size : after.size = before.size
  slot : ∀ {i slot}, before.slot? i = some slot → ∃ kind new, (∀ id ∈ new, n ≤ id.index) ∧
    after.slot? i = some { slot with kind, bindings := slot.bindings ++ new }

theorem AddedTo.refl (n : Nat) (board : Slots) : AddedTo n board board where
  rest := rfl
  size := rfl
  slot := by
    intro i slot hslot
    refine ⟨slot.kind, [], nofun, ?_⟩
    rw [hslot, List.append_nil]

theorem AddedTo.accept (hadded : AddedTo n before board) (hnew : n ≤ id.index) (index : Nat)
    (h : Handle) : AddedTo n before (board.modify index (·.accept id h)) where
  rest := by
    rw [hadded.rest]
    rfl
  size := Array.size_modify.trans hadded.size
  slot := by
    intro i slot hslot
    obtain ⟨kind, new, hfresh, hafter⟩ := hadded.slot hslot
    rw [slot?_modify, hafter]
    split
    · let listed : Slot := { slot with kind, bindings := slot.bindings ++ new }
      refine ⟨(listed.accept id h).kind, new ++ [id], fun j hj => ?_, ?_⟩
      · rcases List.mem_append.mp hj with hj | hj
        · exact hfresh j hj
        · rwa [List.mem_singleton.mp hj]
      · rw [← List.append_assoc]
        rfl
    · exact ⟨kind, new, hfresh, rfl⟩

/-- A widget that knows of no slot is taken off none when it is bound. -/
theorem Consistent.bind_of_free (hc : board.Consistent canvas) (hid : canvas.widget? id = some h)
    (hfree : h.slot = none) (index : Nat) :
    (board.bind canvas index id).value.2.1 = board.modify index (·.accept id h) := by
  cases hslot : board.slot? index with
  | none =>
    have hslots : board.slots.modify index (·.accept id h) = board.slots :=
      Array.modify_eq_self fun slot hsome => nomatch hslot.symm.trans hsome
    rw [bind_of_slot?_eq_none hslot, modify, hslots]
  | some slot =>
    have hsame : { h with slot := none } = h := by rw [← hfree]
    have hunbound : (canvas.widget? id).bind Handle.slot = none := by rw [hid]; exact hfree
    rw [bind_of_widget? hslot hid, hc.unbind_eq_self hunbound, hsame]

theorem AddedTo.bindTo {bench : Workbench} (hadded : AddedTo n before bench.slots)
    (hnew : n ≤ id.index) (hc : bench.slots.Consistent bench.canvas)
    (hid : bench.canvas.widget? id = some h) (hfree : h.slot = none) (asked : Option Nat) :
    AddedTo n before (bench.bindTo asked id).slots := by
  cases asked with
  | none => exact hadded
  | some index =>
    have haccept := hadded.accept hnew index h
    rwa [← hc.bind_of_free hid hfree index] at haccept

end Slots

/-- Names have been added to: one leads elsewhere only if an element of the name has been kept, and
among the widgets of a kind only if that one is of the kind. -/
structure Registry.AddedTo (before : Registry) (met : List Encounter) (after : Registry) :
    Prop where
  names : ∀ name, after.get? name ≠ before.get? name →
    ∃ m ∈ met, ∃ kind, m.element.fate = .kept name kind
  kinds : ∀ kind name, after.getKind? kind name ≠ before.getKind? kind name →
    ∃ m ∈ met, m.element.fate = .kept name kind

namespace Registry.AddedTo

variable {before registry : Registry} {met : List Encounter} {m : Encounter}

theorem nil (registry : Registry) : registry.AddedTo [] registry where
  names := fun _ hne => absurd rfl hne
  kinds := fun _ _ hne => absurd rfl hne

theorem pass (h : before.AddedTo met registry) (m : Encounter) :
    before.AddedTo (met ++ [m]) registry where
  names := fun name hne => by
    obtain ⟨m', hmem, hkept⟩ := h.names name hne
    exact ⟨m', List.mem_append_left _ hmem, hkept⟩
  kinds := fun kind name hne => by
    obtain ⟨m', hmem, hkept⟩ := h.kinds kind name hne
    exact ⟨m', List.mem_append_left _ hmem, hkept⟩

theorem insert (h : before.AddedTo met registry) {name : String} {kind : Element.Kind}
    (hkept : m.element.fate = .kept name kind) (id : WidgetId) :
    before.AddedTo (met ++ [m]) (registry.insert name kind id).2 where
  names := by
    intro name' hne
    by_cases he : name' = name
    · exact ⟨m, List.mem_append_right _ (List.mem_singleton.mpr rfl), kind, he ▸ hkept⟩
    · rw [Registry.insert, get?, Table.get?_insert, if_neg he] at hne
      exact (h.pass m).names name' hne
  kinds := by
    intro kind' name' hne
    by_cases he : (kind', name') = (kind, name)
    · obtain ⟨rfl, rfl⟩ := Prod.mk.inj he
      exact ⟨m, List.mem_append_right _ (List.mem_singleton.mpr rfl), hkept⟩
    · rw [Registry.insert, getKind?, Table.get?_insert, if_neg he] at hne
      exact (h.pass m).kinds kind' name' hne

end Registry.AddedTo

/-! ### Walks -/

namespace Workbench

variable {theme : Theme} {before bench bench' : Workbench} {met : List Encounter}
  {m : Encounter} {id : WidgetId} {w : Handle}

/-- A new widget that has got its name leaves the records in agreement. -/
theorem linked_grow (hl : Linked bench.slots bench.canvas bench.registry) (parent : NodeId)
    (name : String) (kind : Element.Kind) (outfit : Outfit) (blueprint : Blueprint) :
    Linked (bench.grow parent name kind outfit blueprint).slots
      (bench.grow parent name kind outfit blueprint).canvas
      (bench.grow parent name kind outfit blueprint).registry := by
  rw [grow]
  exact hl.build parent name kind outfit blueprint (bench.groupOf blueprint)

/-- All that documents are compiled into has been added to. -/
structure AddedTo (before : Workbench) (met : List Encounter) (after : Workbench) : Prop where
  canvas : before.canvas.AddedTo after.canvas
  slots : before.slots.AddedTo before.canvas.widgets.size after.slots
  registry : before.registry.AddedTo met after.registry

theorem linked_meet (hl : Linked bench.slots bench.canvas bench.registry)
    (h : meet theme bench m = .ok bench') : Linked bench'.slots bench'.canvas bench'.registry := by
  rw [meet] at h
  cases hvisit : (visit theme bench (bench.canvas.place m.above) m.element).run.value with
  | error breakdown => rw [hvisit] at h; cases h
  | ok visited =>
    rw [hvisit] at h
    cases h
    exact hl.visit (visit_spec hvisit)

namespace AddedTo

theorem refl (bench : Workbench) : bench.AddedTo [] bench :=
  ⟨.refl _, .refl _ _, .nil _⟩

/-- A widget that is built below the root or below a new widget adds to what was there. -/
theorem grow (hadded : before.AddedTo met bench) (hc : bench.canvas.Orderly)
    (habove : bench.canvas.HasAbove m.above)
    (hnew : ∀ id, m.above = some id → before.canvas.widgets.size ≤ id.index) {name : String}
    {kind : Element.Kind} (hkept : m.element.fate = .kept name kind) (outfit : Outfit)
    {blueprint : Blueprint} (hkind : blueprint.isScrollArea = decide (kind = .scrollArea)) :
    before.AddedTo (met ++ [m])
      (bench.grow (bench.canvas.place m.above) name kind outfit blueprint) := by
  rw [Workbench.grow]
  exact ⟨hadded.canvas.build hc habove hnew name outfit _ hkind, hadded.slots,
    hadded.registry.insert hkept _⟩

/-- To bind a new widget adds to the lists of slots only. -/
theorem bindTo (hadded : before.AddedTo met bench) (hpos : 0 < before.canvas.scene.nodes.size)
    (hl : Linked bench.slots bench.canvas bench.registry)
    (hnew : before.canvas.widgets.size ≤ id.index) (hid : bench.canvas.widget? id = some w)
    (hs : w.Settled bench.canvas.scene) (hfree : w.slot = none) (asked : Option Nat) :
    before.AddedTo met (bench.bindTo asked id) where
  canvas := hadded.canvas.bindTo hpos hnew hid hs asked
  slots := hadded.slots.bindTo hnew hl.consistent hid hfree asked
  registry := by
    cases asked with
    | none => exact hadded.registry
    | some index => exact hadded.registry

/-- An encounter only adds to what was there, if it puts its widget below the root or below a new
widget. -/
theorem meet (hadded : before.AddedTo met bench) (hpos : 0 < before.canvas.scene.nodes.size)
    (hc : bench.canvas.Orderly) (hl : Linked bench.slots bench.canvas bench.registry)
    (habove : bench.canvas.HasAbove m.above)
    (hnew : ∀ id, m.above = some id → before.canvas.widgets.size ≤ id.index)
    (h : Workbench.meet theme bench m = .ok bench') : before.AddedTo (met ++ [m]) bench' := by
  obtain ⟨below, hvisited⟩ := meet_cases h
  cases hvisited with
  | unnamed | unknown => exact ⟨hadded.canvas, hadded.slots, hadded.registry.pass m⟩
  | @failed name =>
    exact ⟨hadded.canvas.discard hc _ name, hadded.slots, hadded.registry.pass m⟩
  | @kept name kind outfit blueprint resolver hkept hread =>
    obtain ⟨r, hread⟩ := hread
    have hgrown := hadded.grow hc habove hnew hkept outfit (Blueprint.read_isScrollArea hread)
    have hid : (bench.grow (bench.canvas.place m.above) name kind outfit blueprint).canvas.widget?
        ⟨bench.canvas.widgets.size⟩ = some (bench.canvas.builtHandle (bench.canvas.place m.above)
          name kind outfit blueprint (bench.groupOf blueprint)) := by
      rw [Workbench.grow, Canvas.widget?_build, if_pos rfl]
    have hbound := hgrown.bindTo hpos (linked_grow hl _ name kind outfit blueprint)
      hadded.canvas.size_widgets hid (bench.canvas.build_settled _ name kind outfit blueprint _) rfl
      m.element.slotAsked
    exact ⟨hbound.canvas, hbound.slots, hbound.registry⟩

/-- A walk only adds to what was there. -/
theorem walk (hc : before.canvas.Orderly)
    (hl : Linked before.slots before.canvas before.registry)
    (hnumbered : Encounter.Numbered before.canvas.widgets.size met)
    (hnew : ∀ m ∈ met, ∀ id, m.above = some id → before.canvas.widgets.size ≤ id.index)
    (h : Workbench.walk theme before met = .ok bench') : before.AddedTo met bench' := by
  -- an encounter adds to what is in order, and leaves it in order for the next one
  have hall := walk_numbered_induction (p := fun met bench => before.AddedTo met bench ∧
      bench.canvas.Orderly ∧ Linked bench.slots bench.canvas bench.registry)
    (fun hmem _ habove hmeet ⟨hadded, hc', hl'⟩ =>
      ⟨hadded.meet hc.faithful.pos hc' hl' habove (hnew _ hmem) hmeet, hc'.meet hmeet,
        linked_meet hl' hmeet⟩)
    hnumbered h ⟨.refl before, hc, hl⟩
  exact hall.1

end AddedTo

end Workbench

/-! ### Loads -/

namespace Session

variable {s s' : Session} {root : Element} {stats : CompileStats}

/-- A load that clears nothing only adds to what is there. The widgets, the nodes, what the animator
has in store, the contents of slots and their requests stay as they are; the root has new nodes as
its last children, slots list new widgets after those that they listed, and a name leads elsewhere
only if an element of that name has been kept. -/
theorem Reachable.load_additive (hs : Reachable s) (hkeep : s.config.clearOnLoad = false)
    {load : Building (Except LoadError CompileStats × Session)} (hload : LoadsDocument s root load)
    (h : load.run.value = .ok (.ok stats, s')) :
    s'.stage.animator = s.stage.animator ∧
      s.workbench.AddedTo (encountersAll none s.stage.canvas.widgets.size root.children)
        s'.workbench := by
  have hclear : s.clearForLoad.value = s := by
    rw [Session.clearForLoad, hkeep]
    rfl
  obtain ⟨bench, rfl, hwalk⟩ := hload.exists_walk h
  rw [hclear] at hwalk ⊢
  have horderly : s.workbench.canvas.Orderly := hs.orderly
  have hadded := Workbench.AddedTo.walk horderly hs.isLinked (root.numbered_children _)
    (Element.encountersAll_above_le root.children (by simp) (Nat.le_refl _)) hwalk
  exact ⟨rfl, hadded.canvas, hadded.slots, hadded.registry⟩

/-- Two more texts are bound to the slot of a text that bounces, and take its name from it. -/
theorem load_additive_twoTexts :
    ∃ s s' stats, (((Session.new { clearOnLoad := false } {} {}).after
        (.loadDocument boundText)).bind (·.after (.execute "t" "bounce" ["1"]))) = .ok s ∧
      s.config.clearOnLoad = false ∧
      (s.loadDocument twoTexts).run.value = .ok (.ok stats, s') ∧
      (s.registry.get? "t", s'.registry.get? "t") = (some ⟨0⟩, some ⟨2⟩) ∧
      (s'.slots.slot? 0).map Slot.bindings = some [⟨0⟩, ⟨1⟩, ⟨2⟩] ∧
      s'.scene.children Scene.root = [⟨1⟩, ⟨2⟩, ⟨3⟩] ∧
      s'.stage.animator.bounces.size = 1 ∧ s'.stage.animator = s.stage.animator ∧
      s.workbench.AddedTo (encountersAll none s.stage.canvas.widgets.size twoTexts.children)
        s'.workbench := by
  have hvalue : (((Session.new { clearOnLoad := false } {} {}).after
      (.loadDocument boundText)).bind
      (·.after (.execute "t" "bounce" ["1"]))).toOption.map (fun s => decide (
        s.config.clearOnLoad = false ∧ s.registry.get? "t" = some ⟨0⟩ ∧
          (s.loadDocument twoTexts).run.value.toOption.map (fun loaded => decide (
            loaded.1.toOption.isSome = true ∧ loaded.2.registry.get? "t" = some ⟨2⟩ ∧
              (loaded.2.slots.slot? 0).map Slot.bindings = some [⟨0⟩, ⟨1⟩, ⟨2⟩] ∧
              loaded.2.scene.children Scene.root = [⟨1⟩, ⟨2⟩, ⟨3⟩] ∧
              loaded.2.stage.animator.bounces.size = 1)) = some true)) = some true := by
    decide +kernel
  obtain ⟨s, hafter, hvalue⟩ := exists_of_toOption_map hvalue
  obtain ⟨hkeep, hname, hloaded⟩ := of_decide_eq_true hvalue
  obtain ⟨⟨result, s'⟩, hload, hvalue⟩ := exists_of_toOption_map hloaded
  obtain ⟨hstats, hname', hslot, hchildren, hbounces⟩ := of_decide_eq_true hvalue
  cases result with
  | error e => cases hstats
  | ok stats =>
    obtain ⟨first, hfirst, hsecond⟩ := exists_of_bind_eq_ok hafter
    have hs : Reachable s := .after (.after (.new _ {} {}) hfirst) hsecond
    have htree : LoadsDocument s twoTexts (s.loadDocument twoTexts) := .tree
    obtain ⟨hanimator, hadded⟩ := Reachable.load_additive hs hkeep htree hload
    exact ⟨s, s', stats, hafter, hkeep, hload, Prod.ext hname hname', hslot, hchildren,
      hbounces, hanimator, hadded⟩

end Session

end Uiml
