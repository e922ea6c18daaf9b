import Uiml.Proofs.Canvas.Widget
import Uiml.Session.Load

/-!
# Visits of elements

Compiling a document is a walk of visits, and a visit does one of four things to what is built: it
passes the element over, makes a node and takes it back, makes a widget, or makes a widget and binds
it to a slot. What is read from the attributes is fixed before any node is made.

## Main definitions

* `Workbench.plan` — what is read from the attributes of an element
* `Canvas.build`, `Canvas.discard` — a widget is made, or only a node that is taken back
* `Workbench.Visit` — what a visit makes of the canvas, the slots and the names

## Main results

* `Workbench.visit_named` — the outcome of a visit, from what is read for the element
* `Workbench.visit_spec` — a visit that does not break down is a `Workbench.Visit`
* `Workbench.compileAll_induction` — what all visits preserve, compiling preserves
-/

namespace Uiml

namespace Building

variable {α β : Type}

@[simp] theorem bind_value (x : Building α) (f : α → Building β) :
    (x >>= f).run.value = x.run.value.bind fun a => (f a).run.value := by
  rw [ExceptT.run_bind, Logged.bind_value]
  cases x.run.value <;> rfl

@[simp] theorem pure_value (a : α) : (pure a : Building α).run.value = .ok a := rfl

@[simp] theorem lift_value (x : Logged α) : (liftM x : Building α).run.value = .ok x.value := rfl

end Building

namespace Canvas

/-- The widget that is made of a node that is there already. -/
def newHandle (canvas : Canvas) (name : String) (kind : Element.Kind) (node : NodeId)
    (outfit : Outfit) (blueprint : Blueprint) (group : Option GroupRef) : Handle :=
  Handle.assemble name kind node outfit (blueprint.raise canvas.scene node group)

/-- The canvas with a node that is there already made the node of a new widget. -/
def furnish (canvas : Canvas) (name : String) (kind : Element.Kind) (node : NodeId)
    (outfit : Outfit) (blueprint : Blueprint) (group : Option GroupRef) : Canvas :=
  let raised := blueprint.raise canvas.scene node group
  let h := canvas.newHandle name kind node outfit blueprint group
  let scene :=
    ((raised.scene.applyTransform node h.transform).setAlpha node h.alpha).setInteractable node
      h.interactable
  ⟨scene, canvas.widgets.push h⟩

/-- The canvas with a new widget, of which the node is made below another. -/
def build (canvas : Canvas) (parent : NodeId) (name : String) (kind : Element.Kind)
    (outfit : Outfit) (blueprint : Blueprint) (group : Option GroupRef) : Canvas :=
  let made := canvas.scene.create parent name
  furnish { canvas with scene := made.2 } name kind made.1 outfit blueprint group

/-- The widget of a new node below another. -/
def builtHandle (canvas : Canvas) (parent : NodeId) (name : String) (kind : Element.Kind)
    (outfit : Outfit) (blueprint : Blueprint) (group : Option GroupRef) : Handle :=
  let made := canvas.scene.create parent name
  newHandle { canvas with scene := made.2 } name kind made.1 outfit blueprint group

theorem widget?_build (canvas : Canvas) (parent : NodeId) (name : String) (kind : Element.Kind)
    (outfit : Outfit) (blueprint : Blueprint) (group : Option GroupRef) (j : WidgetId) :
    (canvas.build parent name kind outfit blueprint group).widget? j =
      if j = ⟨canvas.widgets.size⟩ then
        some (canvas.builtHandle parent name kind outfit blueprint group)
      else canvas.widget? j :=
  widget?_push _

/-- The canvas with a node made below another and taken back again. -/
def discard (canvas : Canvas) (parent : NodeId) (name : String) : Canvas :=
  let made := canvas.scene.create parent name
  { canvas with scene := made.2.destroy made.1 }

end Canvas

namespace Workbench

variable {theme : Theme} {bench bench' : Workbench} {parent : NodeId} {e : Element}
  {name : String} {kind : Element.Kind} {below : Option NodeId}

/-- What is read from the attributes of an element: the outfit, the blueprint unless something is
wrong with it, and the resolver after reading. -/
def plan (theme : Theme) (resolver : Resolver) (kind : Element.Kind) (e : Element) :
    Outfit × Except Setback Blueprint × Resolver :=
  let outfit := ((Outfit.read kind e).run resolver).value
  let blueprint := ((Blueprint.read theme e kind).run outfit.2).value
  (outfit.1, blueprint.1, blueprint.2)

/-- What a visit makes of a canvas, slots and names. A new widget has the next free id. -/
inductive Visit (bench : Workbench) : Canvas → Slots → Registry → Prop
  | passed : Visit bench bench.canvas bench.slots bench.registry
  | discarded (parent : NodeId) (name : String) :
      Visit bench (bench.canvas.discard parent name) bench.slots bench.registry
  | built (parent : NodeId) (name : String) (kind : Element.Kind) (outfit : Outfit)
      (blueprint : Blueprint) (group : Option GroupRef) :
      Visit bench (bench.canvas.build parent name kind outfit blueprint group) bench.slots
        (bench.registry.insert name kind ⟨bench.canvas.widgets.size⟩).2
  | bound (parent : NodeId) (name : String) (kind : Element.Kind) (outfit : Outfit)
      (blueprint : Blueprint) (group : Option GroupRef) (index : Nat)
      {result : Bool × Slots × Canvas}
      (hbind : result = (bench.slots.bind
        (bench.canvas.build parent name kind outfit blueprint group) index
        ⟨bench.canvas.widgets.size⟩).value) :
      Visit bench result.2.2 result.2.1
        (bench.registry.insert name kind ⟨bench.canvas.widgets.size⟩).2

/-! ### One visit -/

/-- An element without a name is passed over with all below it. -/
theorem visit_unnamed (hname : Resolver.nonBlank? e "name" = none) :
    (visit theme bench parent e).run.value =
      .ok (none, bench.count fun stats => { stats with unnamed := stats.unnamed + 1 }) := by
  rw [visit, hname]
  rfl

/-- The children of an element of unknown tag go where it would have gone. -/
theorem visit_unknown (hname : Resolver.nonBlank? e "name" = some name) (hkind : e.kind? = none) :
    (visit theme bench parent e).run.value =
      .ok (some parent, bench.count fun stats => { stats with unknown := stats.unknown + 1 }) := by
  rw [visit, hname, hkind]
  rfl

/-- What becomes of an element with a name and a known tag is settled by what is read for it. -/
theorem visit_named (hname : Resolver.nonBlank? e "name" = some name)
    (hkind : e.kind? = some kind) :
    (visit theme bench parent e).run.value =
      let made := bench.canvas.scene.create parent name
      match plan theme bench.resolver kind e with
      | (outfit, .ok blueprint, resolver) =>
        let bench := { bench with resolver, canvas := { bench.canvas with scene := made.2 } }
        let built := (bench.addWidget e name kind made.1 outfit blueprint).value
        .ok (some built.1, built.2)
      | (_, .error (.fault _), resolver) =>
        let bench := { bench with resolver, canvas := bench.canvas.discard parent name }
        .ok (none, bench.count fun stats => { stats with failed := stats.failed + 1 })
      | (_, .error (.breakdown breakdown), _) => .error breakdown := by
  rw [visit, hname, hkind, plan]
  simp only [Building.bind_value, Building.lift_value]
  -- what is read does not matter, only which way reading the blueprint ends
  generalize ((Outfit.read kind e).run bench.resolver).value = outfit
  obtain ⟨outfit, resolver⟩ := outfit
  simp only [Except.bind]
  generalize ((Blueprint.read theme e kind).run resolver).value = blueprint
  obtain ⟨(fault | breakdown) | blueprint, resolver'⟩ := blueprint
  · rfl
  · rfl
  · rfl

theorem register_value (bench : Workbench) (name : String) (kind : Element.Kind) (id : WidgetId) :
    (bench.register name kind id).value =
      { bench with registry := (bench.registry.insert name kind id).2 } := by
  rw [register]
  generalize bench.registry.insert name kind id = inserted
  obtain ⟨displaced, registry⟩ := inserted
  cases displaced <;> rfl

/-- A new widget is built and gets its name before its element is asked for a slot. -/
theorem addWidget_value (bench : Workbench) (e : Element) (name : String) (kind : Element.Kind)
    (node : NodeId) (outfit : Outfit) (blueprint : Blueprint) :
    ∃ group, (bench.addWidget e name kind node outfit blueprint).value.2 =
      (bindAsked
        { bench with
          canvas := bench.canvas.furnish name kind node outfit blueprint group
          registry := (bench.registry.insert name kind ⟨bench.canvas.widgets.size⟩).2
          stats := { bench.stats with created := bench.stats.created + 1 } }
        e ⟨bench.canvas.widgets.size⟩).value := by
  refine ⟨(bench.findGroup name blueprint.group?).value, ?_⟩
  simp only [addWidget, Logged.bind_value, Logged.pure_value, register_value]
  rfl

theorem bindAsked_value (bench : Workbench) (e : Element) (id : WidgetId) :
    ∃ resolver, (bench.bindAsked e id).value = { bench with resolver } ∨
      ∃ index, (bench.bindAsked e id).value =
        let bound := (bench.slots.bind bench.canvas index id).value
        { bench with resolver, slots := bound.2.1, canvas := bound.2.2 } := by
  rw [bindAsked, Logged.bind_value]
  generalize ((Resolver.int e "bindId" (-1)).run bench.resolver).value = asked
  obtain ⟨asked, resolver⟩ := asked
  refine ⟨resolver, ?_⟩
  simp only
  split
  · exact .inl rfl
  · exact .inr ⟨_, rfl⟩

/-- A visit that does not break down passes the element over, takes its node back, or leaves a new
widget behind, bound to a slot or not. -/
theorem visit_spec (h : (visit theme bench parent e).run.value = .ok (below, bench')) :
    Visit bench bench'.canvas bench'.slots bench'.registry := by
  cases hname : Resolver.nonBlank? e "name" with
  | none =>
    rw [visit_unnamed hname] at h
    cases h
    exact .passed
  | some name =>
    cases hkind : e.kind? with
    | none =>
      rw [visit_unknown hname hkind] at h
      cases h
      exact .passed
    | some kind =>
      -- a fault takes the node back, a breakdown leaves nothing, and a blueprint makes a widget
      rw [visit_named hname hkind] at h
      generalize plan theme bench.resolver kind e = planned at h
      obtain ⟨outfit, (fault | breakdown) | blueprint, resolver⟩ := planned
      · cases h
        exact .discarded parent name
      · cases h
      · cases h
        let made := bench.canvas.scene.create parent name
        let grown := { bench with resolver, canvas := { bench.canvas with scene := made.2 } }
        obtain ⟨group, hvalue⟩ := addWidget_value grown e name kind made.1 outfit blueprint
        rw [hvalue]
        -- the slot is looked for when the widget is there and has its name
        generalize hnamed :
          ({ grown with canvas := _, registry := _, stats := _ } : Workbench) = named
        obtain ⟨resolver', hbound | ⟨index, hbound⟩⟩ :=
          bindAsked_value named e ⟨bench.canvas.widgets.size⟩
        · rw [hbound, ← hnamed]
          exact .built parent name kind outfit blueprint group
        · rw [hbound, ← hnamed]
          exact .bound parent name kind outfit blueprint group index rfl

/-! ### Many visits -/

theorem compileElement_value (theme : Theme) (bench : Workbench) (parent : NodeId) (e : Element) :
    (compileElement theme bench parent e).run.value =
      (visit theme bench parent e).run.value.bind fun visited =>
        match visited.1 with
        | none => .ok visited.2
        | some node => (compileAll theme visited.2 node e.children).run.value := by
  obtain ⟨tag, attributes, children, pos⟩ := e
  rw [compileElement, Building.bind_value]
  congr 1
  funext ⟨below, bench⟩
  cases below <;> rfl

theorem compileAll_cons_value (theme : Theme) (bench : Workbench) (parent : NodeId) (e : Element)
    (rest : List Element) :
    (compileAll theme bench parent (e :: rest)).run.value =
      (compileElement theme bench parent e).run.value.bind fun bench =>
        (compileAll theme bench parent rest).run.value := by
  rw [compileAll, Building.bind_value]

/-- No visit that does not break down ends what is said of a bench. -/
def VisitsPreserve (theme : Theme) (p : Workbench → Prop) : Prop :=
  ∀ {bench bench' : Workbench} {parent : NodeId} {e : Element} {below : Option NodeId},
    (visit theme bench parent e).run.value = .ok (below, bench') → p bench → p bench'

mutual

/-- What every visit preserves is preserved by building an element and all below it. -/
theorem compileElement_induction {p : Workbench → Prop} (hvisit : VisitsPreserve theme p) :
    ∀ (e : Element) {bench bench' : Workbench} {parent : NodeId},
    (compileElement theme bench parent e).run.value = .ok bench' → p bench → p bench'
  | ⟨tag, attributes, children, pos⟩, bench, bench', parent, h, hp => by
    -- the visit comes first, and the children only if it lets them
    rw [compileElement_value] at h
    cases hvisited : (visit theme bench parent ⟨tag, attributes, children, pos⟩).run.value with
    | error breakdown => rw [hvisited] at h; cases h
    | ok visited =>
      obtain ⟨below, between⟩ := visited
      rw [hvisited] at h
      have hbetween : p between := hvisit hvisited hp
      cases below with
      | none => cases h; exact hbetween
      | some node => exact compileAll_induction hvisit children h hbetween

/-- What every visit preserves is preserved by building elements in order. -/
theorem compileAll_induction {p : Workbench → Prop} (hvisit : VisitsPreserve theme p) :
    ∀ (es : List Element) {bench bench' : Workbench} {parent : NodeId},
    (compileAll theme bench parent es).run.value = .ok bench' → p bench → p bench'
  | [], bench, bench', parent, h, hp => by
    rw [compileAll] at h
    cases h
    exact hp
  | e :: rest, bench, bench', parent, h, hp => by
    rw [compileAll_cons_value] at h
    cases hfirst : (compileElement theme bench parent e).run.value with
    | error breakdown => rw [hfirst] at h; cases h
    | ok between =>
      rw [hfirst] at h
      exact compileAll_induction hvisit rest h (compileElement_induction hvisit e hfirst hp)

end

end Workbench

end Uiml
