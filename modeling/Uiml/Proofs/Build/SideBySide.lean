import Uiml.Proofs.Build.Structure
import Uiml.Proofs.Slot.Alike

/-!
# Walks side by side

Two benches are alike if their canvases are, the names lead to the same widgets, and the slots have
the same contents, hidden slots aside. What the caches of the resolvers hold is not seen as long as
it is sound. An element that is kept has the same widget built and bound on both benches; any other
element leaves no trace, so that it may be met on one bench only.

## Main definitions

* `Workbench.Alike` — two benches are the same up to a renumbering of the nodes
* `EndAlike` — two computations both break down, or have related results
* `Workbench.Passed` — a bench is left as it was, except that some ids have been given out

## Main results

* `Workbench.Alike.meet_kept` — the widget of an element that is kept is built on both benches
* `Workbench.meet_dropped` — an element that is dropped leaves no trace
* `Workbench.Alike.pass`, `Workbench.Alike.pass_right` — such an element is met on both, or on one
* `Workbench.Alike.walk` — two walks along the same encounters end alike
-/

namespace Uiml

open Element (Encounter encountersAll)

/-- Two computations break down for the same reason, or neither does and their results are related.
-/
inductive EndAlike {α : Type} (r : α → α → Prop) : Except Breakdown α → Except Breakdown α → Prop
  | broken (breakdown : Breakdown) : EndAlike r (.error breakdown) (.error breakdown)
  | ended {a a' : α} (h : r a a') : EndAlike r (.ok a) (.ok a')

theorem EndAlike.map {α β : Type} {r : α → α → Prop} {q : β → β → Prop} {x x' : Except Breakdown α}
    {g g' : α → β} (h : EndAlike r x x')
    (hq : ∀ a a', x = .ok a → x' = .ok a' → r a a' → q (g a) (g' a')) :
    EndAlike q (x.map g) (x'.map g') := by
  cases h with
  | broken breakdown => exact .broken breakdown
  | ended h => exact .ended (hq _ _ rfl rfl h)

/-- Two benches are the same up to a renumbering of the nodes, up to the contents of hidden widgets,
and up to what has been remembered of attributes. -/
structure Workbench.Alike (f : NodeId → NodeId) (hidden : Nat → Prop) (bench bench' : Workbench) :
    Prop where
  canvas : bench.canvas.Alike f hidden bench'.canvas
  registry : bench'.registry = bench.registry
  slots : bench.slots.Alike hidden bench'.slots
  sound : bench.resolver.Sound
  sound' : bench'.resolver.Sound

variable {f : NodeId → NodeId} {hidden : Nat → Prop}

/-- What widgets below a widget go below is renumbered. -/
theorem Canvas.Alike.place {canvas canvas' : Canvas} (hc : canvas.Alike f hidden canvas')
    (above : Option WidgetId) : canvas'.place above = f (canvas.place above) := by
  cases above with
  | none => exact hc.scene.root.symm
  | some id =>
    cases hid : canvas.widget? id with
    | none =>
      rw [Canvas.place, Canvas.place, hid, hc.widget?_eq_none hid]
      exact hc.scene.root.symm
    | some h =>
      obtain ⟨h', hid', hblank⟩ := hc.exists_widget? hid
      have hcontent : h'.contentNode = (h.renumber f).contentNode :=
        (congrArg Handle.contentNode hblank :)
      rw [Canvas.place, Canvas.place, hid, hid']
      exact hcontent.trans h.contentNode_renumber

/-- Ids of nodes may be given out in one canvas only. The other ids of that canvas then go up. -/
theorem Canvas.Alike.skip {canvas canvas' canvas'' : Canvas} (ha : canvas.Alike f hidden canvas')
    (hc : canvas.Orderly) {count : Nat} (hwidget : ∀ id, canvas''.widget? id = canvas'.widget? id)
    (hwidgets : canvas''.widgets.size = canvas'.widgets.size)
    (hnode : ∀ j, canvas''.scene.node? j = canvas'.scene.node? j)
    (hsize : canvas''.scene.nodes.size = canvas'.scene.nodes.size + count) :
    canvas.Alike (Scene.skipFrom canvas.scene.nodes.size count f) hidden canvas'' := by
  -- the nodes of a widget have been made and keep their numbers
  have hrenumber {id : WidgetId} {h : Handle} (hid : canvas.widget? id = some h) :
      h.renumber (Scene.skipFrom canvas.scene.nodes.size count f) = h.renumber f := by
    have hsettled := hc.faithful.settled hid
    refine Handle.renumber_congr (fun j hj => ?_) hsettled.textPlace hsettled.imagePlace
    exact Scene.skipFrom_of_lt (hc.faithful.node_lt hid hj)
  refine ⟨hwidgets.trans ha.size, fun id => ?_, fun {id h} hid hseen => ?_,
    ha.scene.skip hc.tree hc.within hnode hsize⟩
  · rw [hwidget, ha.blank]
    exact Option.map_congr fun h hid => congrArg Handle.blank (hrenumber hid).symm
  · rw [hwidget, hrenumber hid]
    exact ha.same hid hseen

namespace Workbench.Alike

variable {bench bench' : Workbench} {m : Encounter} {theme : Theme}

theorem groupOf (hb : bench.Alike f hidden bench') (blueprint : Blueprint) :
    bench'.groupOf blueprint = (bench.groupOf blueprint).map (·.renumber f) := by
  rw [Workbench.groupOf, Workbench.groupOf, hb.registry]
  cases blueprint.group? with
  | none => rfl
  | some group =>
    rw [Option.bind_some, Option.bind_some]
    cases bench.registry.getKind? .toggleGroup group with
    | none => rfl
    | some id =>
      rw [Option.bind_some, Option.bind_some]
      cases hid : bench.canvas.widget? id with
      | none => rw [hb.canvas.widget?_eq_none hid]; rfl
      | some h =>
        obtain ⟨h', hid', hblank⟩ := hb.canvas.exists_widget? hid
        have hnode : h'.node = f h.node := (congrArg Handle.node hblank :)
        rw [hid', Option.map_some, hnode]
        rfl

theorem grow (hb : bench.Alike f hidden bench') (parent : NodeId) (name : String)
    (kind : Element.Kind) (outfit : Outfit) (blueprint : Blueprint) :
    (bench.grow parent name kind outfit blueprint).Alike f hidden
      (bench'.grow (f parent) name kind outfit blueprint) where
  canvas := by
    have hcanvas := hb.canvas.build parent name kind outfit blueprint (bench.groupOf blueprint)
    rw [← hb.groupOf] at hcanvas
    exact hcanvas
  registry := by
    change (bench'.registry.insert name kind ⟨bench'.canvas.widgets.size⟩).2 =
      (bench.registry.insert name kind ⟨bench.canvas.widgets.size⟩).2
    rw [hb.registry, hb.canvas.size]
  slots := by
    rw [Workbench.grow, Workbench.grow]
    exact hb.slots
  sound := by
    rw [Workbench.grow]
    exact hb.sound
  sound' := by
    rw [Workbench.grow]
    exact hb.sound'

/-- A widget that is not hidden is bound on both benches. -/
theorem bindTo (hb : bench.Alike f hidden bench') {id : WidgetId}
    (hseen : ∀ h, bench.canvas.widget? id = some h → ¬ h.IsHidden hidden) (asked : Option Nat) :
    (bench.bindTo asked id).Alike f hidden (bench'.bindTo asked id) := by
  cases asked with
  | none => exact hb
  | some index =>
    exact ⟨hb.canvas.bind hb.slots hseen index, hb.registry, hb.slots.bind index id, hb.sound,
      hb.sound'⟩

theorem bindTo_slots (hb : bench.Alike f hidden bench') (hslots : bench'.slots = bench.slots)
    (asked : Option Nat) (id : WidgetId) :
    (bench'.bindTo asked id).slots = (bench.bindTo asked id).slots := by
  cases asked with
  | none => exact hslots
  | some index =>
    change (bench'.slots.bind bench'.canvas index id).value.2.1 = _
    rw [hslots]
    exact hb.canvas.bind_slots bench.slots index id

theorem resolver (hb : bench.Alike f hidden bench') {resolver resolver' : Resolver}
    (hr : resolver.Sound) (hr' : resolver'.Sound) :
    ({ bench with resolver } : Workbench).Alike f hidden
      { bench' with resolver := resolver' } :=
  ⟨hb.canvas, hb.registry, hb.slots, hr, hr'⟩

/-- The widget of an element that is kept is built on both benches. -/
theorem meet_kept (hb : bench.Alike f hidden bench') (theme : Theme) (hkept : m.isKept = true) :
    ∃ next next', meet theme bench m = .ok next ∧ meet theme bench' m = .ok next' ∧
      next.Alike f hidden next' ∧ (bench'.slots = bench.slots → next'.slots = next.slots) := by
  cases hfate : m.element.fate with
  | kept name kind =>
    obtain ⟨outfit, blueprint, resolver, -, hdesign, hmeet⟩ :=
      Workbench.meet_kept theme bench hfate
    obtain ⟨outfit', blueprint', resolver', -, hdesign', hmeet'⟩ :=
      Workbench.meet_kept theme bench' hfate
    obtain ⟨hread, hr⟩ := hdesign hb.sound
    obtain ⟨hread', hr'⟩ := hdesign' hb.sound'
    -- the same is read on both benches, whatever their resolvers remember
    obtain ⟨rfl, hblueprint⟩ := Prod.mk.inj (hread.symm.trans hread')
    obtain rfl := Except.ok.inj hblueprint
    rw [hb.canvas.size, hb.canvas.place] at hmeet'
    have hgrown := hb.grow (bench.canvas.place m.above) name kind outfit blueprint
    have hseen : ∀ h, (bench.grow (bench.canvas.place m.above) name kind outfit
        blueprint).canvas.widget? ⟨bench.canvas.widgets.size⟩ = some h → ¬ h.IsHidden hidden := by
      intro h hid
      -- a new widget is bound to no slot
      rw [Workbench.grow, Canvas.widget?_build, if_pos rfl] at hid
      obtain rfl := Option.some.inj hid
      rintro ⟨_, ⟨⟩, -⟩
    refine ⟨_, _, hmeet, hmeet', (hgrown.bindTo hseen m.element.slotAsked).resolver hr hr',
      fun hslots => hgrown.bindTo_slots ?_ m.element.slotAsked ⟨bench.canvas.widgets.size⟩⟩
    rw [Workbench.grow, Workbench.grow]
    exact hslots
  | _ => simp [Encounter.isKept, hfate, Element.Fate.isKept] at hkept

end Workbench.Alike

/-! ### Elements that are dropped -/

namespace Element

/-- No widget is built for an element, and nothing breaks down. -/
def Fate.isDropped : Fate → Bool
  | .unnamed | .unknown | .failed _ => true
  | .broken _ | .kept _ _ => false

namespace Encounter

def isDropped (m : Encounter) : Bool := m.element.fate.isDropped

/-- An element is kept or dropped, or building it breaks down. -/
theorem fate_cases (m : Encounter) :
    m.isKept = true ∨ m.isDropped = true ∨ ∃ breakdown, m.element.fate = .broken breakdown := by
  rw [isKept, isDropped]
  cases m.element.fate with
  | broken breakdown => exact .inr (.inr ⟨breakdown, rfl⟩)
  | kept name kind => exact .inl rfl
  | _ => exact .inr (.inl rfl)

/-- The number of ids of nodes that are given out for an element that is dropped. -/
def waste (m : Encounter) : Nat := if m.element.fate.isFailed then 1 else 0

end Encounter

end Element

/-- A bench has been left as it was, except that some ids of nodes have been given out. -/
structure Workbench.Passed (bench : Workbench) (count : Nat) (bench' : Workbench) : Prop where
  widgets : bench'.canvas.widgets = bench.canvas.widgets
  nodes : ∀ j, bench'.canvas.scene.node? j = bench.canvas.scene.node? j
  size : bench'.canvas.scene.nodes.size = bench.canvas.scene.nodes.size + count
  registry : bench'.registry = bench.registry
  slots : bench'.slots = bench.slots
  sound : bench.resolver.Sound → bench'.resolver.Sound

namespace Workbench

variable {bench bench' next next' : Workbench} {m : Encounter} {count : Nat}

/-- An element that is dropped leaves no trace. -/
theorem meet_dropped (theme : Theme) (hdropped : m.isDropped = true)
    (htree : bench.canvas.scene.IsTree) :
    ∃ next, meet theme bench m = .ok next ∧ bench.Passed m.waste next := by
  cases hfate : m.element.fate with
  | unnamed =>
    exact ⟨_, meet_unnamed hfate, rfl, fun _ => rfl, by
      rw [Encounter.waste, hfate]; rfl, rfl, rfl, id⟩
  | unknown =>
    exact ⟨_, meet_unknown hfate, rfl, fun _ => rfl, by
      rw [Encounter.waste, hfate]; rfl, rfl, rfl, id⟩
  | failed name =>
    obtain ⟨resolver, hsound, hmeet⟩ := meet_failed theme bench hfate
    refine ⟨_, hmeet, rfl, fun j => htree.node?_destroy_create, ?_, rfl, rfl, hsound⟩
    rw [Encounter.waste, hfate]
    exact Scene.size_destroy.trans Scene.size_create
  | broken breakdown => simp [Encounter.isDropped, hfate, Element.Fate.isDropped] at hdropped
  | kept name kind => simp [Encounter.isDropped, hfate, Element.Fate.isDropped] at hdropped

theorem Passed.widget? (hp : bench.Passed count next) (id : WidgetId) :
    next.canvas.widget? id = bench.canvas.widget? id := by
  rw [Canvas.widget?, hp.widgets, Canvas.widget?]

namespace Alike

/-- The same number of ids is given out on both benches. -/
theorem pass (hb : bench.Alike f hidden bench') (hp : bench.Passed count next)
    (hp' : bench'.Passed count next') : next.Alike f hidden next' where
  canvas :=
    { size := by rw [hp.widgets, hp'.widgets, hb.canvas.size]
      blank := fun id => by rw [hp.widget?, hp'.widget?, hb.canvas.blank]
      same := fun {id h} hid hseen => by
        rw [hp'.widget?]
        exact hb.canvas.same ((hp.widget? id).symm.trans hid) hseen
      scene := (hb.canvas.scene.congr hp.nodes hp'.nodes hp.size hp'.size).weaken
        fun j ⟨id, h, hid, hfree⟩ => ⟨id, h, (hp.widget? id).trans hid, hfree⟩ }
  registry := by rw [hp.registry, hp'.registry, hb.registry]
  slots := by
    rw [hp.slots, hp'.slots]
    exact hb.slots
  sound := hp.sound hb.sound
  sound' := hp'.sound hb.sound'

/-- Ids may be given out on one bench only. -/
theorem pass_right (hb : bench.Alike f hidden bench') (hc : bench.canvas.Orderly)
    (hp' : bench'.Passed count next') :
    bench.Alike (Scene.skipFrom bench.canvas.scene.nodes.size count f) hidden next' where
  canvas := hb.canvas.skip hc hp'.widget? (congrArg Array.size hp'.widgets) hp'.nodes hp'.size
  registry := hp'.registry.trans hb.registry
  slots := by
    rw [hp'.slots]
    exact hb.slots
  sound := hb.sound
  sound' := hp'.sound hb.sound'

/-- Two walks along the same encounters end alike. -/
theorem walk (hb : bench.Alike f hidden bench') (hc : bench.canvas.Orderly)
    (hc' : bench'.canvas.Orderly) (theme : Theme) (met : List Encounter) :
    EndAlike (Workbench.Alike f hidden) (Workbench.walk theme bench met)
      (Workbench.walk theme bench' met) := by
  induction met generalizing bench bench' with
  | nil => exact .ended hb
  | cons m met ih =>
    rw [walk_cons, walk_cons]
    rcases m.fate_cases with hkept | hdropped | ⟨breakdown, hfate⟩
    · obtain ⟨next, next', hmeet, hmeet', hnext, -⟩ := hb.meet_kept theme hkept
      rw [hmeet, hmeet']
      exact ih hnext (hc.meet hmeet) (hc'.meet hmeet')
    · -- as many ids are given out on both sides
      obtain ⟨next, hmeet, hpassed⟩ := meet_dropped theme hdropped hc.tree
      obtain ⟨next', hmeet', hpassed'⟩ := meet_dropped theme hdropped hc'.tree
      rw [hmeet, hmeet']
      exact ih (hb.pass hpassed hpassed') (hc.meet hmeet) (hc'.meet hmeet')
    · rw [meet_broken hfate, meet_broken hfate]
      exact .broken breakdown

end Alike

end Workbench

end Uiml
