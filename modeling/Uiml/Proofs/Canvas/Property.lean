import Uiml.Proofs.Canvas.Local
import Uiml.Proofs.Session.Linked

/-!
# The value of a property

What changes the value that a property of a widget has: that the property is given a value, and
nothing else. Contents of slots, bindings, and values of other properties or of other widgets leave
it as it is.

## Main definitions

* `Canvas.property?` — the value of a property of a widget
* `Canvas.scale?` — its scale, as a vector
* `TweenValue.Suits` — the values that a property takes as they are

## Main results

* `Canvas.Links.property?_eq` — slots do not touch what can be animated
* `Canvas.property?_applyValue`, `Canvas.property?_applyValue_of_ne` — what giving a value does
* `Session.property?_applyUpdates` — the one update of a property is the value that it gets
-/

namespace Uiml

open Relation

variable {id w : WidgetId} {property : Property} {value : TweenValue}

/-- The values that a property takes as they are. Progress takes none: it is kept in a range. -/
inductive TweenValue.Suits : Property → TweenValue → Prop
  | alpha (v : Float32) : Suits .alpha (.scalar v)
  | position (v : Vec2) : Suits .position (.vec2 v)
  | scale (v : Vec3) : Suits .scale (.vec3 v)

namespace Canvas

/-- The value of a property of a widget. -/
def property? (canvas : Canvas) (w : WidgetId) (property : Property) : Option TweenValue :=
  (canvas.widget? w).bind fun h => h.property? property

variable {canvas canvas' : Canvas} {f : Handle → Handle} {g : Handle → Scene → Scene}

theorem property?_congr (h : canvas'.widget? w = canvas.widget? w) :
    canvas'.property? w property = canvas.property? w property := by
  rw [property?, h, property?]

theorem live_of_property? (h : canvas.property? w property = some value) :
    (canvas.widget? w).isSome := by
  obtain ⟨handle, hw, -⟩ := Option.bind_eq_some_iff.mp h
  rw [hw, Option.isSome_some]

/-- What binding a widget leaves of it has its properties. -/
theorem property?_eq_stem (canvas : Canvas) (w : WidgetId) (property : Property) :
    canvas.property? w property =
      ((canvas.widget? w).map Handle.stem).bind fun h => h.property? property := by
  rw [property?, Option.bind_map]
  cases property <;> rfl

theorem property?_update (hf : ∀ h, (f h).property? property = h.property? property) :
    (canvas.update id f g).property? w property = canvas.property? w property := by
  rw [property?, property?, widget?_update]
  split
  · cases canvas.widget? w with
    | none => rfl
    | some h => exact hf h
  · rfl

/-- An update that sets a property of a widget is seen at the property. -/
theorem property?_update_self (hw : (canvas.widget? w).isSome)
    (hf : ∀ h, (f h).property? property = some value) :
    (canvas.update w f g).property? w property = some value := by
  obtain ⟨h, hw⟩ := Option.isSome_iff_exists.mp hw
  rw [property?, widget?_update, if_pos rfl, hw]
  exact hf h

/-- A change of one widget is not seen at another. -/
theorem Change.property?_of_ne (h : Change id canvas canvas') (hne : w ≠ id) :
    canvas'.property? w property = canvas.property? w property :=
  property?_congr (h.widget?_of_ne hne)

/-- What slots do to widgets does not touch what can be animated. -/
theorem Links.property?_eq (h : Links canvas canvas') :
    canvas'.property? w property = canvas.property? w property := by
  rw [property?_eq_stem, property?_eq_stem, h.stem]

/-! ### Scale -/

/-- The scale of a widget. -/
def scale? (canvas : Canvas) (w : WidgetId) : Option Vec3 :=
  (canvas.widget? w).map fun h => h.transform.scale

theorem property?_scale (canvas : Canvas) (w : WidgetId) :
    canvas.property? w .scale = (canvas.scale? w).map .vec3 := by
  rw [property?, scale?]
  cases canvas.widget? w <;> rfl

theorem property?_scale_eq_some_iff {v : Vec3} :
    canvas.property? w .scale = some (.vec3 v) ↔ canvas.scale? w = some v := by
  rw [property?_scale, Option.map_eq_some_iff]
  simp

theorem scale?_congr (h : canvas'.property? w .scale = canvas.property? w .scale) :
    canvas'.scale? w = canvas.scale? w := by
  rw [property?_scale, property?_scale] at h
  exact Option.map_injective (fun _ _ he => TweenValue.vec3.inj he) h

@[simp] theorem isSome_scale? : (canvas.scale? w).isSome = (canvas.widget? w).isSome :=
  Option.isSome_map

/-! ### Changes of other things -/

section OfNe

variable (canvas)

theorem property?_setPosition_of_ne (hne : property ≠ .position) (v : Vec2) :
    (canvas.setPosition id v).property? w property = canvas.property? w property := by
  refine property?_update fun h => ?_
  cases property <;> first | rfl | exact absurd rfl hne

theorem property?_setScale_of_ne (hne : property ≠ .scale) (v : Vec3) :
    (canvas.setScale id v).property? w property = canvas.property? w property := by
  refine property?_update fun h => ?_
  cases property <;> first | rfl | exact absurd rfl hne

theorem property?_setAlpha_of_ne (hne : property ≠ .alpha) (v : Float32) :
    (canvas.setAlpha id v).property? w property = canvas.property? w property := by
  refine property?_update fun h => ?_
  cases property <;> first | rfl | exact absurd rfl hne

theorem property?_setProgress_of_ne (hne : property ≠ .progress) (v : Float32) :
    (canvas.setProgress id v).2.property? w property = canvas.property? w property := by
  rw [setProgress]
  split
  · refine property?_update fun h => ?_
    cases property <;> first | rfl | exact absurd rfl hne
  · rfl

theorem property?_setInteractable (b : Bool) :
    (canvas.setInteractable id b).property? w property = canvas.property? w property := by
  refine property?_update fun h => ?_
  cases property <;> rfl

end OfNe

/-! ### Giving values -/

/-- A value of another property, or for another widget, is not seen. -/
theorem property?_applyValue_of_ne {other : Property} (hne : (id, other) ≠ (w, property))
    (value : TweenValue) :
    (canvas.applyValue id other value).value.property? w property =
      canvas.property? w property := by
  by_cases hid : w = id
  · subst hid
    have hother : other ≠ property := fun he => hne (by rw [he])
    rw [applyValue]
    cases hw : canvas.widget? w with
    | none => rfl
    | some h =>
      cases other <;> cases value
      case alpha.scalar v => exact canvas.property?_setAlpha_of_ne hother.symm v
      case position.vec2 v => exact canvas.property?_setPosition_of_ne hother.symm v
      case scale.vec3 v => exact canvas.property?_setScale_of_ne hother.symm v
      case progress.scalar v => exact canvas.property?_setProgress_of_ne hother.symm v
      all_goals rfl
  · exact property?_congr ((canvas.applyValue_changesOf id other value).widget?_of_ne hid)

/-- A property takes a value that suits it. -/
theorem property?_applyValue (hsuits : value.Suits property) (hw : (canvas.widget? w).isSome) :
    (canvas.applyValue w property value).value.property? w property = some value := by
  obtain ⟨h, hh⟩ := Option.isSome_iff_exists.mp hw
  rw [applyValue, hh]
  cases hsuits with
  | alpha v | position v | scale v => exact property?_update_self hw fun _ => rfl

end Canvas

namespace Session

variable {stage : Stage} {updates : List TweenUpdate}

theorem applyUpdates_cons (stage : Stage) (u : TweenUpdate) (updates : List TweenUpdate) :
    (applyUpdates stage (u :: updates)).value =
      (applyUpdates (stage.applyValue u.widget u.property u.value).value updates).value := by
  rw [applyUpdates, applyUpdates, Logged.foldlM_value, Logged.foldlM_value, List.foldl_cons]

theorem property?_applyUpdates_of_ne
    (h : ∀ u ∈ updates, (u.widget, u.property) ≠ (w, property)) :
    (applyUpdates stage updates).value.canvas.property? w property =
      stage.canvas.property? w property := by
  induction updates generalizing stage with
  | nil => rfl
  | cons u updates ih =>
    obtain ⟨hu, hrest⟩ := List.forall_mem_cons.mp h
    rw [applyUpdates_cons, ih hrest]
    exact Canvas.property?_applyValue_of_ne hu u.value

/-- If no property of a widget is given a value twice, a value that is given is the one in the
end. -/
theorem property?_applyUpdates (hkeys : (updates.map fun u => (u.widget, u.property)).Nodup)
    {finished : Bool} (hmem : ⟨w, property, value, finished⟩ ∈ updates)
    (hsuits : value.Suits property) (hw : (stage.canvas.widget? w).isSome) :
    (applyUpdates stage updates).value.canvas.property? w property = some value := by
  induction updates generalizing stage with
  | nil => cases hmem
  | cons u updates ih =>
    obtain ⟨hnew, hkeys⟩ := List.nodup_cons.mp hkeys
    rw [applyUpdates_cons]
    rcases List.mem_cons.mp hmem with rfl | hmem
    · -- no later update has a say in the property
      have hlater : ∀ u ∈ updates, (u.widget, u.property) ≠ (w, property) := by
        intro u hu he
        exact hnew (List.mem_map.mpr ⟨u, hu, he⟩)
      rw [property?_applyUpdates_of_ne hlater]
      exact Canvas.property?_applyValue hsuits hw
    · refine ih hkeys hmem ?_
      have hchanges := (stage.applyValue_changesOf u.widget u.property u.value).onCanvas.changes
      exact hchanges.keepsSlots.keepsWidgets w hw

end Session

end Uiml
