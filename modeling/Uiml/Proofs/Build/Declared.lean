import Uiml.Proofs.Build.Structure

/-!
# What a new widget remembers

A widget that has just been built remembers the place and the looks that it has then, so that it can
be restored to them. If it is a switch, it is in the state that its element declares, whatever has
been read before.

## Main definitions

* `Element.declaredOn?` — the state that an element declares for a switch
* `Handle.Pristine` — a widget is as it has been built

## Main results

* `Blueprint.raise_isOn?`, `Blueprint.read_isOn?` — a switch is built in the state that is declared
* `Workbench.walk_pristine` — what a walk through a document leaves is as it has been built
-/

namespace Uiml

open Element (Encounter)

/-- The truth value that an attribute gives, or a default. -/
def Element.boolean (e : Element) (key : String) (default : Bool) : Bool :=
  ((e.attribute? key).bind Attribute.readBool).getD default

/-- The state that an element declares for a switch. Other kinds of widgets have none. -/
def Element.declaredOn? (e : Element) (kind : Kind) : Option Bool :=
  if kind = .toggle then some (e.boolean "isOn" false) else none

/-- What is read as a truth value does not depend on what the resolver has read before. -/
theorem Resolver.boolean_value (e : Element) (key : String) (r : Resolver) (default : Bool) :
    ((boolean e key default).run r).value.1 = e.boolean key default := by
  rw [boolean, resolve, Element.boolean]
  cases e.attribute? key with
  | none => rfl
  | some raw =>
    cases hread : Attribute.readBool raw <;> simp [hread]

namespace Blueprint

variable {theme : Theme} {e : Element} {kind : Element.Kind} {r : Resolver} {blueprint : Blueprint}

/-- The state that a switch is built in. -/
def isOn? : Blueprint → Option Bool
  | .toggle _ _ isOn _ => some isOn
  | _ => none

theorem readToggle_isOn? :
    ((readToggle theme e).run r).value.1.isOn? = some (e.boolean "isOn" false) := by
  rw [readToggle]
  simp only [StateT.run_bind, Logged.bind_value, Resolver.boolean_value]
  rfl

/-- A blueprint has the state of a switch as the element declares it. -/
theorem read_isOn? (h : ((read theme e kind).run r).value.1 = .ok blueprint) :
    blueprint.isOn? = e.declaredOn? kind := by
  rw [Element.declaredOn?]
  by_cases htoggle : kind = .toggle
  · subst htoggle
    rw [if_pos rfl]
    exact Except.ok.inj h ▸ readToggle_isOn?
  · rw [if_neg htoggle]
    rw [← read_kind h] at htoggle
    cases blueprint with
    | toggle => exact absurd rfl htoggle
    | _ => rfl

variable {scene : Scene} {node : NodeId} {group : Option GroupRef}

/-- The parts that are made for a blueprint have the state of its switch. -/
theorem raise_isOn? (name : String) (kind : Element.Kind) (outfit : Outfit) :
    (Handle.assemble name kind node outfit (blueprint.raise scene node group)).isOn? =
      blueprint.isOn? := by
  cases blueprint with
  | button background label => cases label <;> rfl
  | _ => rfl

end Blueprint

/-- A widget is as it has been built: it can be restored to the place and the looks that it has, and
a switch is in the state that its element declares. -/
structure Handle.Pristine (h : Handle) (e : Element) : Prop where
  home : h.home = ⟨h.transform, h.alpha, h.isOn?⟩
  declared : h.isOn? = e.declaredOn? h.kind

/-- Nothing of this depends on slots and what they show. -/
theorem Handle.pristine_stem {h : Handle} {e : Element} : h.stem.Pristine e ↔ h.Pristine e :=
  ⟨fun hh => ⟨hh.home, hh.declared⟩, fun hh => ⟨hh.home, hh.declared⟩⟩

theorem Canvas.builtHandle_pristine {theme : Theme} {e : Element} {kind : Element.Kind}
    {r : Resolver} {blueprint : Blueprint}
    (h : ((Blueprint.read theme e kind).run r).value.1 = .ok blueprint) (canvas : Canvas)
    (parent : NodeId) (name : String) (outfit : Outfit) (group : Option GroupRef) :
    (canvas.builtHandle parent name kind outfit blueprint group).Pristine e where
  home := rfl
  declared := (Blueprint.raise_isOn? name kind outfit).trans (Blueprint.read_isOn? h)

namespace Workbench

variable {theme : Theme} {bench bench' : Workbench} {met : List Encounter} {m : Encounter}

/-- The widget that an encounter adds is as it has been built. -/
theorem meet_pristine (h : meet theme bench m = .ok bench') (hkept : m.isKept = true) :
    ∃ w, bench'.canvas.widget? ⟨bench.canvas.widgets.size⟩ = some w ∧ w.Pristine m.element := by
  obtain ⟨below, hvisited⟩ := meet_cases h
  cases hvisited with
  | unnamed hfate | unknown hfate | failed hfate =>
    rw [Encounter.isKept, hfate] at hkept
    cases hkept
  | @kept name kind outfit blueprint _ hfate hread =>
    obtain ⟨r, hread⟩ := hread
    -- all that happens to the widget after it has been built is that it is bound to a slot
    obtain ⟨w, hid, hstem⟩ := bench.widget?_bindTo_grow (bench.canvas.place m.above) name kind
      outfit blueprint m.element.slotAsked
    have hbuilt := bench.canvas.builtHandle_pristine hread (bench.canvas.place m.above) name outfit
      (bench.groupOf blueprint)
    refine ⟨w, hid, Handle.pristine_stem.mp ?_⟩
    rw [hstem]
    exact Handle.pristine_stem.mpr hbuilt

/-- The widgets that a walk adds are as they have been built. -/
theorem walk_pristine (hnumbered : Encounter.Numbered bench.canvas.widgets.size met)
    (h : walk theme bench met = .ok bench') :
    ∀ m ∈ met, m.isKept = true →
      ∃ w, bench'.canvas.widget? m.widget = some w ∧ w.Pristine m.element := by
  refine walk_numbered_induction (p := fun before between => ∀ m ∈ before, m.isKept = true →
    ∃ w, between.canvas.widget? m.widget = some w ∧ w.Pristine m.element) ?_ hnumbered h nofun
  intro before between between' m _ hwidget _ hmeet hbefore m' hm' hkept
  rcases List.mem_append.mp hm' with hm' | hm'
  · -- an encounter leaves the widgets of earlier ones alone
    obtain ⟨w, hid, hw⟩ := hbefore m' hm' hkept
    have hold := (meet_widgets hmeet).2 m'.widget (Canvas.widget?_lt hid)
    exact ⟨w, hold.trans hid, hw⟩
  · obtain rfl := List.mem_singleton.mp hm'
    rw [hwidget]
    exact meet_pristine hmeet hkept

end Workbench

end Uiml
