import Uiml.Widget.Canvas

/-!
# Widgets after an update

What is found under the id of a widget after one widget of a canvas has been changed, or one more
has been added.

## Main results

* `Canvas.widget?_update`, `Canvas.scene_update` — an update is seen at one id, and in the scene
* `Canvas.map_widget?_update` — what an update leaves of a widget
* `Canvas.widget?_push` — a new widget has the next free id
-/

namespace Uiml

variable {id j : WidgetId}

theorem WidgetId.ext_index_iff : id = j ↔ id.index = j.index := by
  cases id; cases j; simp

namespace Canvas

variable {canvas : Canvas} {f : Handle → Handle} {g : Handle → Scene → Scene} {h : Handle}

@[simp] theorem widget?_modifyWidget : (canvas.modifyWidget id f).widget? j =
    if j = id then (canvas.widget? j).map f else canvas.widget? j := by
  by_cases h : j = id
  · subst h
    simp [widget?, modifyWidget, Array.getElem?_modify]
  · have hne : id.index ≠ j.index := fun he => h (WidgetId.ext_index_iff.mpr he.symm)
    simp [widget?, modifyWidget, Array.getElem?_modify, h, hne]

theorem update_of_widget? (hid : canvas.widget? id = some h) :
    canvas.update id f g = { (canvas.modifyWidget id f) with scene := g h canvas.scene } := by
  rw [update, hid]

theorem update_of_widget?_eq_none (hid : canvas.widget? id = none) :
    canvas.update id f g = canvas := by
  rw [update, hid]

@[simp] theorem widget?_update : (canvas.update id f g).widget? j =
    if j = id then (canvas.widget? j).map f else canvas.widget? j := by
  cases hid : canvas.widget? id with
  | none =>
    rw [update_of_widget?_eq_none hid]
    split
    · next he => rw [he, hid, Option.map_none]
    · rfl
  | some h =>
    rw [update_of_widget? hid]
    exact widget?_modifyWidget

/-- What an update of a widget leaves of it, it leaves of every widget. -/
theorem map_widget?_update {β : Type} (view : Handle → β)
    (hf : ∀ h, canvas.widget? id = some h → view (f h) = view h) (j : WidgetId) :
    ((canvas.update id f g).widget? j).map view = (canvas.widget? j).map view := by
  rw [widget?_update]
  split
  · next he =>
    subst he
    cases hid : canvas.widget? j with
    | none => rfl
    | some h => exact congrArg some (hf h hid)
  · rfl

theorem scene_update (hid : canvas.widget? id = some h) :
    (canvas.update id f g).scene = g h canvas.scene := by
  rw [update_of_widget? hid]

theorem widget?_lt (hid : canvas.widget? id = some h) : id.index < canvas.widgets.size :=
  (Array.getElem?_eq_some_iff.mp hid).1

/-- The next widget to be made is not one that has been made. -/
theorem ne_next (h : id.index < canvas.widgets.size) : id ≠ ⟨canvas.widgets.size⟩ :=
  fun he => Nat.ne_of_lt h (WidgetId.ext_index_iff.mp he)

/-- A widget that is pushed has the next free id. -/
theorem widget?_push (scene : Scene) : (⟨scene, canvas.widgets.push h⟩ : Canvas).widget? j =
    if j = ⟨canvas.widgets.size⟩ then some h else canvas.widget? j := by
  simp only [widget?, Array.getElem?_push, WidgetId.ext_index_iff]

end Canvas

end Uiml
