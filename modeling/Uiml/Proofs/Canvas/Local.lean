import Uiml.Proofs.Canvas.Growth
import Uiml.Proofs.Scene.Tree

/-!
# What changes of a widget leave alone

A change of one widget touches no other widget, and neither makes nor moves nodes. The same goes for
binding a widget to a slot.

## Main definitions

* `Handle.stem` — what binding a widget leaves of it

## Main results

* `Canvas.Change.widget?_of_ne`, `Slots.widget?_bind_of_ne` — other widgets are as they were
* `Canvas.Change.sameTree`, `Slots.sameTree_bind` — the tree is as it was
-/

namespace Uiml

/-- What binding a widget leaves of it: all but its slot, its text and its picture. -/
def Handle.stem (h : Handle) : Handle := { h with slot := none, text := none, image := none }

namespace Canvas

variable {canvas canvas' : Canvas} {id j : WidgetId}

@[simp] theorem size_modifyWidget (f : Handle → Handle) :
    (canvas.modifyWidget id f).widgets.size = canvas.widgets.size := Array.size_modify

@[simp] theorem size_update (f : Handle → Handle) (g : Handle → Scene → Scene) :
    (canvas.update id f g).widgets.size = canvas.widgets.size := by
  rw [update]
  split
  · rfl
  · exact size_modifyWidget f

theorem Change.size_widgets (h : Change id canvas canvas') :
    canvas'.widgets.size = canvas.widgets.size := by
  rcases h.update_cases with rfl | ⟨f, g, rfl, -⟩
  · rfl
  · exact size_update f g

theorem Change.widget?_of_ne (h : Change id canvas canvas') (hne : j ≠ id) :
    canvas'.widget? j = canvas.widget? j := by
  rcases h.update_cases with rfl | ⟨f, g, rfl, -⟩
  · rfl
  · rw [widget?_update, if_neg hne]

theorem ChangesOf.widget?_of_ne (h : ChangesOf id canvas canvas') (hne : j ≠ id) :
    canvas'.widget? j = canvas.widget? j :=
  reflTransGen_preserves (p := fun between => between.widget? j = canvas.widget? j)
    (fun hchange hsame => (hchange.widget?_of_ne hne).trans hsame) h rfl

theorem sameTree_update {f : Handle → Handle} {g : Handle → Scene → Scene}
    (hg : ∀ h (scene : Scene), scene.SameTree (g h scene)) :
    canvas.scene.SameTree (canvas.update id f g).scene := by
  cases hid : canvas.widget? id with
  | none =>
    rw [update_of_widget?_eq_none hid]
    exact .refl _
  | some h =>
    rw [scene_update hid]
    exact hg h canvas.scene

/-- A change of a widget sets fields of nodes. -/
theorem Change.sameTree (h : Change id canvas canvas') :
    canvas.scene.SameTree canvas'.scene := by
  cases h with
  | position | scale | alpha | interactable =>
    exact sameTree_update fun _ _ => ⟨Scene.size_modify _, fun _ => Scene.ties?_modify fun _ => rfl⟩
  | toggle =>
    rw [setToggle]
    split
    · exact sameTree_update fun _ _ => ⟨by simp [Scene.setToggle], by simp [Scene.setToggle]⟩
    · exact .refl _
  | progress =>
    rw [setProgress]
    split
    · exact sameTree_update fun _ _ =>
        ⟨by simp [Scene.setSliderValue], by simp [Scene.setSliderValue]⟩
    · exact .refl _
  | text =>
    rw [showText]
    split
    · exact sameTree_update fun _ _ => ⟨by simp [Scene.setText], by simp [Scene.setText]⟩
    · exact .refl _
  | image =>
    rw [showImage]
    split
    · exact sameTree_update fun _ _ => ⟨by simp, by simp⟩
    · exact .refl _

/-- To show a content changes no more than the text and the picture of a widget. -/
theorem Display.stem (h : Display id canvas canvas') :
    (canvas'.widget? j).map Handle.stem = (canvas.widget? j).map Handle.stem := by
  cases h with
  | text =>
    rw [showText]
    split
    · refine map_widget?_update Handle.stem ?_ j
      exact fun _ _ => rfl
    · rfl
  | image =>
    rw [showImage]
    split
    · refine map_widget?_update Handle.stem ?_ j
      exact fun _ _ => rfl
    · rfl

/-- To take note of a slot is no more than that. -/
theorem stem_setSlot (slot : Option Nat) :
    ((canvas.setSlot id slot).widget? j).map Handle.stem = (canvas.widget? j).map Handle.stem := by
  rw [setSlot, widget?_modifyWidget]
  split
  · rw [Option.map_map]
    rfl
  · rfl

/-- A step that binds widgets leaves of them what binding leaves. -/
theorem Link.stem (h : Link canvas canvas') :
    (canvas'.widget? j).map Handle.stem = (canvas.widget? j).map Handle.stem := by
  cases h with
  | slot id slot => exact stem_setSlot slot
  | display hdisplay => exact hdisplay.stem

theorem Links.stem (h : Links canvas canvas') :
    (canvas'.widget? j).map Handle.stem = (canvas.widget? j).map Handle.stem :=
  reflTransGen_preserves
    (p := fun between => (between.widget? j).map Handle.stem = (canvas.widget? j).map Handle.stem)
    (fun hlink hsame => hlink.stem.trans hsame) h rfl

theorem showContent_displaysOf (canvas : Canvas) (id : WidgetId) (slot : Slot) :
    Relation.ReflTransGen (Display id) canvas (canvas.showContent id slot) := by
  rw [showContent]
  cases slot.text <;> cases slot.image
  case none.none => exact .refl
  case none.some image => exact .single (.image image)
  case some.none text => exact .single (.text text)
  case some.some text image => exact (Relation.ReflTransGen.single (.text text)).tail (.image image)

/-- What lasts when a widget shows a content and when its slot is changed lasts when it is bound. -/
theorem bind_induction {p : Canvas → Prop} {board : Slots} {index : Nat}
    (hdisplay : ∀ {canvas canvas'}, Display id canvas canvas' → p canvas → p canvas')
    (hslot : ∀ {canvas} slot, p canvas → p (canvas.setSlot id slot)) (hp : p canvas) :
    p (board.bind canvas index id).value.2.2 := by
  cases hfound : board.slot? index with
  | none =>
    rw [Slots.bind_of_slot?_eq_none hfound]
    exact hp
  | some slot =>
    cases hid : canvas.widget? id with
    | none =>
      rw [Slots.bind_of_widget?_eq_none hfound hid]
      exact Slots.unbind_canvas board canvas id ▸ hslot none hp
    | some h =>
      rw [Slots.bind_of_widget? hfound hid]
      exact reflTransGen_preserves hdisplay (showContent_displaysOf _ id slot)
        (hslot (some index) (hslot none hp))

end Canvas

namespace Slots

variable {board : Slots} {canvas : Canvas} {index : Nat} {id j : WidgetId}

theorem size_bind :
    (board.bind canvas index id).value.2.2.widgets.size = canvas.widgets.size :=
  Canvas.bind_induction (p := fun between => between.widgets.size = canvas.widgets.size)
    (fun hdisplay hp => hdisplay.change.size_widgets.trans hp)
    (fun _ hp => (Canvas.size_modifyWidget _).trans hp) rfl

theorem widget?_bind_of_ne (hne : j ≠ id) :
    (board.bind canvas index id).value.2.2.widget? j = canvas.widget? j :=
  Canvas.bind_induction (p := fun between => between.widget? j = canvas.widget? j)
    (fun hdisplay hp => (hdisplay.change.widget?_of_ne hne).trans hp)
    (fun _ hp => by rw [Canvas.setSlot, Canvas.widget?_modifyWidget, if_neg hne, hp]) rfl

theorem stem_bind :
    ((board.bind canvas index id).value.2.2.widget? j).map Handle.stem =
      (canvas.widget? j).map Handle.stem := by
  exact Canvas.bind_induction
    (p := fun between => (between.widget? j).map Handle.stem = (canvas.widget? j).map Handle.stem)
    (fun hdisplay hp => hdisplay.stem.trans hp)
    (fun slot hp => (Canvas.stem_setSlot slot).trans hp) rfl

theorem sameTree_bind :
    canvas.scene.SameTree (board.bind canvas index id).value.2.2.scene :=
  Canvas.bind_induction (p := fun between => canvas.scene.SameTree between.scene)
    (fun hdisplay hp => hp.trans hdisplay.change.sameTree) (fun _ hp => hp) (.refl _)

end Slots

end Uiml
