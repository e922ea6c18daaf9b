import Uiml.Proofs.Attribute.Settled
import Uiml.Proofs.Build.Breakdown

/-!
# What becomes of an element

The attributes of an element settle what becomes of it where it is visited: a widget is built for
it, or it is passed over for one of three reasons, or building breaks down. They also settle how its
widget looks and which slot it asks for, as long as the caches of the resolver are sound.

## Main definitions

* `Element.Fate`, `Element.fate` — what becomes of an element that is visited
* `Element.design`, `Element.slotAsked` — what is read for its widget
* `Workbench.grow`, `Workbench.bindTo` — a widget is added to a bench, and bound
* `Workbench.Visited` — what a visit does that does not break down

## Main results

* `Workbench.visit_kept`, `Workbench.visit_failed`, `Workbench.visit_broken` — how a visit ends
* `Workbench.visit_cases` — the ways in which it may end, by the fate of the element
-/

namespace Uiml

namespace Element

/-- What becomes of an element that is visited. -/
inductive Fate where
  | unnamed
  | unknown
  | failed (name : String)
  | broken (breakdown : Breakdown)
  | kept (name : String) (kind : Kind)
  deriving DecidableEq

/-- An element is kept if it has a name and a known tag and nothing is wrong with it. -/
def fate (e : Element) : Fate :=
  match Resolver.nonBlank? e "name" with
  | none => .unnamed
  | some name =>
    match e.kind? with
    | none => .unknown
    | some kind =>
      match e.setback? kind with
      | none => .kept name kind
      | some (.fault _) => .failed name
      | some (.breakdown breakdown) => .broken breakdown

/-- The slot that an element asks for. -/
def slotAsked (e : Element) : Option Nat :=
  let asked := e.integer "bindId" (-1)
  if asked < 0 then none else some asked.toNat

/-- What is read from the attributes of an element for a widget of a kind. -/
def design (e : Element) (theme : Theme) (kind : Kind) : Outfit × Except Setback Blueprint :=
  let planned := Workbench.plan theme (.new false) kind e
  (planned.1, planned.2.1)

/-- The element by itself, without its children and wherever it is written. -/
def bare (e : Element) : Element := { tag := e.tag, attributes := e.attributes }

variable {e : Element} {name : String} {kind : Kind}

theorem fate_eq_unnamed : e.fate = .unnamed ↔ Resolver.nonBlank? e "name" = none := by
  grind [fate]

theorem fate_eq_unknown : e.fate = .unknown ↔
    (∃ name, Resolver.nonBlank? e "name" = some name) ∧ e.kind? = none := by
  grind [fate]

theorem fate_eq_failed : e.fate = .failed name ↔
    Resolver.nonBlank? e "name" = some name ∧
      ∃ kind fault, e.kind? = some kind ∧ e.setback? kind = some (.fault fault) := by
  grind [fate]

theorem fate_eq_broken {breakdown : Breakdown} : e.fate = .broken breakdown ↔
    ∃ name kind, Resolver.nonBlank? e "name" = some name ∧ e.kind? = some kind ∧
      e.setback? kind = some (.breakdown breakdown) := by
  grind [fate]

theorem fate_eq_kept : e.fate = .kept name kind ↔
    Resolver.nonBlank? e "name" = some name ∧ e.kind? = some kind ∧ e.setback? kind = none := by
  grind [fate]

end Element

namespace Workbench

variable {theme : Theme} {bench bench' : Workbench} {parent : NodeId} {e : Element}
  {below : Option NodeId} {name : String} {kind : Element.Kind}

/-- The group that the switch of a blueprint belongs to. -/
def groupOf (bench : Workbench) (blueprint : Blueprint) : Option GroupRef :=
  blueprint.group?.bind fun group =>
    (bench.registry.getKind? .toggleGroup group).bind fun id =>
      (bench.canvas.widget? id).map fun h => ⟨id, h.node⟩

/-- The bench with a new widget, which has been given its name. -/
def grow (bench : Workbench) (parent : NodeId) (name : String) (kind : Element.Kind)
    (outfit : Outfit) (blueprint : Blueprint) : Workbench :=
  { bench with
    canvas := bench.canvas.build parent name kind outfit blueprint (bench.groupOf blueprint)
    registry := (bench.registry.insert name kind ⟨bench.canvas.widgets.size⟩).2
    stats := { bench.stats with created := bench.stats.created + 1 } }

/-- The bench with a widget bound to a slot, if one is asked for. -/
def bindTo (bench : Workbench) (asked : Option Nat) (id : WidgetId) : Workbench :=
  match asked with
  | none => bench
  | some index =>
    let bound := (bench.slots.bind bench.canvas index id).value
    { bench with slots := bound.2.1, canvas := bound.2.2 }

theorem findGroup_value (bench : Workbench) (name : String) (blueprint : Blueprint) :
    (bench.findGroup name blueprint.group?).value = bench.groupOf blueprint := by
  rw [groupOf]
  cases blueprint.group? with
  | none => rfl
  | some group =>
    rw [findGroup, Option.bind_some]
    cases bench.registry.getKind? .toggleGroup group <;> rfl

/-- Which slot is asked for is settled by the attributes, whatever has been read before. -/
theorem bindAsked_eq_bindTo (bench : Workbench) (e : Element) (id : WidgetId) :
    (bench.bindAsked e id).value =
      { bench.bindTo e.slotAsked id with
        resolver := ((Resolver.int e "bindId" (-1)).run bench.resolver).value.2 } := by
  -- the resolver at hand reads the same number as any other
  rw [bindAsked, Logged.bind_value, Element.slotAsked,
    ← Resolver.int_value e "bindId" bench.resolver]
  generalize ((Resolver.int e "bindId" (-1)).run bench.resolver).value = asked
  obtain ⟨asked, resolver⟩ := asked
  simp only
  split <;> rfl

/-- What is read for a widget is settled by the attributes if the caches are sound. -/
theorem plan_settled (theme : Theme) (kind : Element.Kind) (e : Element) {r : Resolver}
    (hr : r.Sound) :
    e.design theme kind = ((plan theme r kind e).1, (plan theme r kind e).2.1) ∧
      (plan theme r kind e).2.2.Sound := by
  have houtfit := Outfit.read_settled kind e
  have hblueprint := Blueprint.read_settled theme e kind
  -- the outfit is read first, and leaves a sound resolver for the blueprint
  have hnew := houtfit.sound (Resolver.new_sound false)
  refine ⟨Prod.ext (houtfit.value_eq hr).symm ?_, hblueprint.sound (houtfit.sound hr)⟩
  exact (hblueprint.value_eq hnew).trans (hblueprint.value_eq (houtfit.sound hr)).symm

/-- Nothing depends on the place of an element, and nothing but its children on its children. -/
theorem visit_bare (theme : Theme) (bench : Workbench) (parent : NodeId) (e : Element) :
    (visit theme bench parent e.bare).run.value = (visit theme bench parent e).run.value := by
  cases hname : Resolver.nonBlank? e "name" with
  | none => rw [visit_unnamed hname, visit_unnamed (e := e.bare) hname]
  | some name =>
    cases hkind : e.kind? with
    | none => rw [visit_unknown hname hkind, visit_unknown (e := e.bare) hname hkind]
    | some kind =>
      rw [visit_named hname hkind, visit_named (e := e.bare) hname hkind]
      rfl

/-! ### Visits -/

theorem visit_failed (theme : Theme) (bench : Workbench) (parent : NodeId)
    (hfate : e.fate = .failed name) :
    ∃ resolver, (bench.resolver.Sound → resolver.Sound) ∧
      (visit theme bench parent e).run.value =
        .ok (none,
          ({ bench with resolver, canvas := bench.canvas.discard parent name } : Workbench).count
            fun stats => { stats with failed := stats.failed + 1 }) := by
  obtain ⟨hname, kind, fault, hkind, hsetback⟩ := Element.fate_eq_failed.mp hfate
  rw [← Blueprint.read_setback theme e ((Outfit.read kind e).run bench.resolver).value.2]
    at hsetback
  have hsound := fun hr : bench.resolver.Sound => (plan_settled theme kind e hr).2
  change Setback.of? (plan theme bench.resolver kind e).2.1 = _ at hsetback
  rw [visit_named hname hkind]
  generalize plan theme bench.resolver kind e = planned at hsetback hsound
  obtain ⟨outfit, (fault' | breakdown) | blueprint, resolver⟩ := planned
  · exact ⟨resolver, hsound, rfl⟩
  · cases hsetback
  · cases hsetback

theorem visit_broken {breakdown : Breakdown} (hfate : e.fate = .broken breakdown) :
    (visit theme bench parent e).run.value = .error breakdown := by
  obtain ⟨name, kind, hname, hkind, hsetback⟩ := Element.fate_eq_broken.mp hfate
  rw [← Blueprint.read_setback theme e ((Outfit.read kind e).run bench.resolver).value.2]
    at hsetback
  change Setback.of? (plan theme bench.resolver kind e).2.1 = _ at hsetback
  rw [visit_named hname hkind]
  generalize plan theme bench.resolver kind e = planned at hsetback
  obtain ⟨outfit, (fault | breakdown') | blueprint, resolver⟩ := planned
  · cases hsetback
  · cases hsetback
    rfl
  · cases hsetback

/-- A widget is built for an element that is kept, and bound if it asks for a slot. -/
theorem visit_kept (theme : Theme) (bench : Workbench) (parent : NodeId)
    (hfate : e.fate = .kept name kind) :
    ∃ outfit blueprint resolver,
      (∃ r, ((Blueprint.read theme e kind).run r).value.1 = .ok blueprint) ∧
      (bench.resolver.Sound → e.design theme kind = (outfit, .ok blueprint) ∧ resolver.Sound) ∧
      (visit theme bench parent e).run.value =
        .ok (some (bench.canvas.builtHandle parent name kind outfit blueprint
            (bench.groupOf blueprint)).contentNode,
          { (bench.grow parent name kind outfit blueprint).bindTo e.slotAsked
              ⟨bench.canvas.widgets.size⟩ with resolver }) := by
  obtain ⟨hname, hkind, hsetback⟩ := Element.fate_eq_kept.mp hfate
  rw [← Blueprint.read_setback theme e ((Outfit.read kind e).run bench.resolver).value.2]
    at hsetback
  have hread : ((Blueprint.read theme e kind).run
      ((Outfit.read kind e).run bench.resolver).value.2).value.1 =
        (plan theme bench.resolver kind e).2.1 := rfl
  have hsettled := fun hr : bench.resolver.Sound => plan_settled theme kind e hr
  rw [visit_named hname hkind]
  rw [hread] at hsetback
  generalize plan theme bench.resolver kind e = planned at hsetback hread hsettled
  obtain ⟨outfit, (fault | breakdown) | blueprint, resolver⟩ := planned
  · cases hsetback
  · cases hsetback
  · refine ⟨outfit, blueprint, ((Resolver.int e "bindId" (-1)).run resolver).value.2,
      ⟨_, hread⟩, fun hr => ?_, ?_⟩
    · obtain ⟨hdesign, hsound⟩ := hsettled hr
      exact ⟨hdesign, (Resolver.int_settled e "bindId" (-1)).sound hsound⟩
    · -- the resolver is the last to be set, whether a slot is asked for or not
      simp only [addWidget, Logged.bind_value, Logged.pure_value, register_value, findGroup_value,
        bindAsked_eq_bindTo]
      cases e.slotAsked <;> rfl

/-- What a visit does that does not break down: the fate of the element decides how it is counted,
and what becomes of a node that is made for it. -/
inductive Visited (theme : Theme) (bench : Workbench) (parent : NodeId) (e : Element) :
    Option NodeId → Workbench → Prop
  | unnamed (hfate : e.fate = .unnamed) : Visited theme bench parent e none
      (bench.count fun stats => { stats with unnamed := stats.unnamed + 1 })
  | unknown (hfate : e.fate = .unknown) : Visited theme bench parent e (some parent)
      (bench.count fun stats => { stats with unknown := stats.unknown + 1 })
  | failed {name : String} {resolver : Resolver} (hfate : e.fate = .failed name)
      (hsound : bench.resolver.Sound → resolver.Sound) : Visited theme bench parent e none
      (({ bench with resolver, canvas := bench.canvas.discard parent name } : Workbench).count
        fun stats => { stats with failed := stats.failed + 1 })
  | kept {name : String} {kind : Element.Kind} {outfit : Outfit} {blueprint : Blueprint}
      {resolver : Resolver} (hfate : e.fate = .kept name kind)
      (hread : ∃ r, ((Blueprint.read theme e kind).run r).value.1 = .ok blueprint)
      (hsettled : bench.resolver.Sound →
        e.design theme kind = (outfit, .ok blueprint) ∧ resolver.Sound) :
      Visited theme bench parent e
        (some (bench.canvas.builtHandle parent name kind outfit blueprint
          (bench.groupOf blueprint)).contentNode)
        { (bench.grow parent name kind outfit blueprint).bindTo e.slotAsked
            ⟨bench.canvas.widgets.size⟩ with resolver }

theorem visit_cases (h : (visit theme bench parent e).run.value = .ok (below, bench')) :
    Visited theme bench parent e below bench' := by
  cases hfate : e.fate with
  | unnamed =>
    rw [visit_unnamed (Element.fate_eq_unnamed.mp hfate)] at h
    cases h
    exact .unnamed hfate
  | unknown =>
    obtain ⟨⟨name, hname⟩, hkind⟩ := Element.fate_eq_unknown.mp hfate
    rw [visit_unknown hname hkind] at h
    cases h
    exact .unknown hfate
  | broken breakdown =>
    rw [visit_broken hfate] at h
    cases h
  | failed name =>
    obtain ⟨resolver, hsound, hvalue⟩ := visit_failed theme bench parent hfate
    rw [hvalue] at h
    cases h
    exact .failed hfate hsound
  | kept name kind =>
    obtain ⟨outfit, blueprint, resolver, hread, hsettled, hvalue⟩ :=
      visit_kept theme bench parent hfate
    rw [hvalue] at h
    cases h
    exact .kept hfate hread hsettled

end Workbench

end Uiml
