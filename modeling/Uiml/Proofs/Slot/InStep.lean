import Uiml.Proofs.Canvas.Local
import Uiml.Proofs.Slot.Consistent
import Uiml.Proofs.Slot.Stock

/-!
# Widgets in step with their slots

A widget that is bound to a slot shows what the slot holds, as far as it has somewhere to show it.
What a slot holds and which widgets are bound to it change independently, so whichever of the two
changes has to bring the other along. A widget that has been given a text of its own is let off its
slot's text, and off nothing else.

## Main definitions

* `Handle.Follows` — a widget shows a content
* `Slots.InStep` — every widget follows its slot

## Main results

* `Slots.InStep.bind`, `Slots.InStep.rebinds` — a widget catches up with a slot that it is bound to
* `Slots.InStep.setText`, `Slots.InStep.applyAll` — widgets keep up with what a slot is given
* `Slots.Consistent.setText_fst` — a text is counted once for each widget that shows it
-/

namespace Uiml

/-! ### What a widget shows -/

namespace Handle

/-- What a widget has to do with slots: the slot that it is bound to, and what it shows where. -/
def front (h : Handle) :
    Option Nat × (Option NodeId × Option String) × Option NodeId × Option Picture :=
  (h.slot, (h.textSurface, h.text), h.imageSurface, h.image)

/-- A widget shows a picture and a text, if they are there, as far as it has somewhere to show them;
a text of its own may stand in for the text. -/
structure Follows (h : Handle) (content : Option String × Option Picture) (own : Prop) : Prop where
  image : h.imageSurface.isSome = true → ∀ image, content.2 = some image → h.image = some image
  text : ¬ own → h.textSurface.isSome = true → ∀ text, content.1 = some text → h.text = some text

variable {h h' : Handle} {content : Option String × Option Picture} {own own' : Prop}
  {text? : Option String} {image? : Option Picture}

theorem Follows.mono (hf : h.Follows content own) (himp : own → own') : h.Follows content own' :=
  ⟨hf.image, fun hown => hf.text fun ho => hown (himp ho)⟩

theorem Follows.congr (hf : h.Follows content own) (hfront : h'.front = h.front) :
    h'.Follows content own := by
  simp only [front, Prod.mk.injEq] at hfront
  obtain ⟨-, ⟨htextSurface, htext⟩, himageSurface, himage⟩ := hfront
  exact ⟨himageSurface ▸ himage ▸ hf.image, htextSurface ▸ htext ▸ hf.text⟩

theorem follows_nothing (h : Handle) : h.Follows (none, none) own :=
  ⟨fun _ _ => nofun, fun _ _ _ => nofun⟩

theorem Follows.withText (hf : h.Follows (text?, image?) own) (text : String) :
    (h.withText text).Follows (some text, image?) own where
  image := by
    rw [Handle.withText]
    split <;> exact hf.image
  text := by
    intro _ hsurface _ htext
    cases htext
    rw [textSurface_withText] at hsurface
    rw [Handle.withText, if_pos hsurface]

theorem Follows.withImage (hf : h.Follows (text?, image?) own) (image : Picture) :
    (h.withImage image).Follows (text?, some image) own where
  image := by
    intro hsurface _ himage
    cases himage
    rw [imageSurface_withImage] at hsurface
    rw [Handle.withImage, if_pos hsurface]
  text := by
    rw [Handle.withImage]
    split <;> exact hf.text

theorem follows_withContent (h : Handle) (slot : Slot) :
    (h.withContent slot).Follows slot.content own := by
  rw [withContent, Slot.content]
  cases slot.text with
  | none =>
    cases slot.image with
    | none => exact h.follows_nothing
    | some image => exact h.follows_nothing.withImage image
  | some text =>
    cases slot.image with
    | none => exact h.follows_nothing.withText text
    | some image => exact (h.follows_nothing.withText text).withImage image

theorem slot_withContent (h : Handle) (slot : Slot) : (h.withContent slot).slot = h.slot := by
  rw [withContent]
  cases slot.text <;> cases slot.image <;> simp

end Handle

/-- Work on a widget leaves every widget alone, as far as slots are concerned. -/
theorem Canvas.Adjust.front {canvas canvas' : Canvas} {id : WidgetId}
    (h : Canvas.Adjust id canvas canvas') (j : WidgetId) :
    (canvas'.widget? j).map Handle.front = (canvas.widget? j).map Handle.front := by
  cases h with
  | position | scale | alpha | interactable =>
    refine Canvas.map_widget?_update Handle.front ?_ j
    exact fun _ _ => rfl
  | toggle =>
    rw [setToggle]
    split
    · refine Canvas.map_widget?_update Handle.front ?_ j
      exact fun _ _ => rfl
    · rfl
  | progress =>
    rw [setProgress]
    split
    · refine Canvas.map_widget?_update Handle.front ?_ j
      exact fun _ _ => rfl
    · rfl

theorem Stage.WorksOf.front {stage stage' : Stage} {id : WidgetId}
    (h : Stage.WorksOf id stage stage') (j : WidgetId) :
    (stage'.canvas.widget? j).map Handle.front = (stage.canvas.widget? j).map Handle.front := by
  induction h with
  | refl => rfl
  | tail _ hlast ih =>
    cases hlast with
    | widget hadjust => exact (hadjust.front j).trans ih
    | start | cancel | cancelWidget | beginBounce => exact ih

/-- An outcome gives a slot the picture that it brings, if it brings one. -/
theorem Slot.content_resolve (slot : Slot) (outcome : ImageOutcome) :
    (slot.resolve outcome).content =
      (slot.text, match outcome.result with
        | .ok image => some image
        | .error _ => slot.image) := by
  rw [resolve]
  cases outcome.result <;> rfl

namespace Slots

/-- Every widget shows what its slot holds; some may have a text of their own. -/
def InStep (board : Slots) (canvas : Canvas) (own : WidgetId → Prop) : Prop :=
  ∀ id h i content, canvas.widget? id = some h → h.slot = some i →
    board.content? i = some content → h.Follows content (own id)

variable {board board' : Slots} {canvas canvas' : Canvas} {own own' : WidgetId → Prop}
  {index : Nat} {id : WidgetId} {slot : Slot}

/-- A widget that is bound knows its slot, and shows what that holds. -/
theorem widget?_bind {h : Handle} (hslot : board.slot? index = some slot)
    (hid : canvas.widget? id = some h) : (board.bind canvas index id).value.2.2.widget? id =
      some (Handle.withContent { h with slot := some index } slot) := by
  rw [bind_of_widget? hslot hid, Canvas.widget?_showContent, if_pos rfl, Canvas.widget?_setSlot,
    if_pos rfl, Canvas.widget?_setSlot, if_pos rfl, hid]
  rfl

namespace InStep

theorem mono (hs : board.InStep canvas own) (himp : ∀ id, own id → own' id) :
    board.InStep canvas own' :=
  fun id h i content hid hslot hcontent => (hs id h i content hid hslot hcontent).mono (himp id)

theorem congr (hs : board.InStep canvas own)
    (hboard : ∀ i, board'.content? i = board.content? i)
    (hcanvas : ∀ j, (canvas'.widget? j).map Handle.front = (canvas.widget? j).map Handle.front) :
    board'.InStep canvas' own := by
  intro id h i content hid hslot hcontent
  have hfront := hcanvas id
  rw [hid, Option.map_some] at hfront
  obtain ⟨old, hold, hsame⟩ := Option.map_eq_some_iff.mp hfront.symm
  have hslotOld : old.slot = some i := (congrArg Prod.fst hsame).trans hslot
  exact (hs id old i content hold hslotOld (hboard i ▸ hcontent)).congr hsame.symm

/-- Without widgets there is nothing to keep in step. -/
theorem of_no_widgets (hnone : canvas.widgets = #[]) : board.InStep canvas own := by
  intro id h i content hid
  rw [Canvas.widget?, hnone] at hid
  cases hid

/-! ### Texts of their own -/

/-- A text that a widget is given as its own is let stand beside its slot's. -/
theorem showText (hs : board.InStep canvas own) (text : String)
    (himp : ∀ j, own j → own' j) (hown : own' id) :
    board.InStep (canvas.showText id text).2 own' := by
  intro j h i content hj hslot hcontent
  rw [Canvas.widget?_showText] at hj
  split at hj
  · next he =>
    subst he
    obtain ⟨old, hold, rfl⟩ := Option.map_eq_some_iff.mp hj
    rw [Handle.slot_withText] at hslot
    -- the picture is still that of the slot, and the text need not be
    have hfollows := hs j old i content hold hslot hcontent
    exact ⟨(hfollows.withText text).image, fun hnot => absurd hown hnot⟩
  · exact (hs j h i content hj hslot hcontent).mono (himp j)

/-! ### Bindings -/

/-- A widget that is taken off its slot has nothing to keep up with. -/
theorem unbind (hs : board.InStep canvas own) (id : WidgetId) :
    (board.unbind canvas id).2.1.InStep (board.unbind canvas id).2.2 own := by
  intro j h i content hj hslot hcontent
  rw [unbind_canvas, Canvas.widget?_setSlot] at hj
  rw [content?_unbind] at hcontent
  split at hj
  · obtain ⟨old, -, rfl⟩ := Option.map_eq_some_iff.mp hj
    cases hslot
  · exact hs j h i content hj hslot hcontent

/-- A widget that is bound to a slot shows what the slot holds. -/
theorem bind (hs : board.InStep canvas own) (index : Nat) (id : WidgetId) :
    (board.bind canvas index id).value.2.1.InStep (board.bind canvas index id).value.2.2 own := by
  intro j h i content hj hslot hcontent
  rw [content?_bind] at hcontent
  by_cases he : j = id
  · subst he
    cases hfound : board.slot? index with
    | none =>
      rw [bind_of_slot?_eq_none hfound] at hj
      exact hs j h i content hj hslot hcontent
    | some slot =>
      cases hold : canvas.widget? j with
      | none =>
        rw [bind_of_widget?_eq_none hfound hold, unbind_canvas, Canvas.widget?_setSlot, hold,
          Option.map_none, ite_self] at hj
        cases hj
      | some old =>
        -- whatever the widget has shown before, it now shows what the slot holds
        rw [widget?_bind hfound hold] at hj
        cases hj
        rw [Handle.slot_withContent] at hslot
        cases hslot
        rw [content?, hfound] at hcontent
        cases hcontent
        exact Handle.follows_withContent _ slot
  · rw [widget?_bind_of_ne he] at hj
    exact hs j h i content hj hslot hcontent

theorem rebinds (hs : board.InStep canvas own)
    (h : Rebinds (board, canvas) (board', canvas')) : board'.InStep canvas' own :=
  reflTransGen_preserves (p := fun state : Slots × Canvas => state.1.InStep state.2 own)
    (fun hstep hs => by
      cases hstep with
      | unbind board canvas id => exact hs.unbind id
      | bind board canvas index id => exact hs.bind index id) h hs

/-- A new widget is bound to no slot yet. -/
theorem build (hs : board.InStep canvas own) (parent : NodeId) (name : String)
    (kind : Element.Kind) (outfit : Outfit) (blueprint : Blueprint) (group : Option GroupRef) :
    board.InStep (canvas.build parent name kind outfit blueprint group) own := by
  intro j h i content hj hslot hcontent
  rw [Canvas.widget?_build] at hj
  split at hj
  · cases hj
    have hfree : (canvas.builtHandle parent name kind outfit blueprint group).slot = none := rfl
    rw [hfree] at hslot
    cases hslot
  · exact hs j h i content hj hslot hcontent

theorem visit {bench : Workbench} {registry : Registry} (hs : bench.slots.InStep bench.canvas own)
    (h : bench.Visit canvas board registry) : board.InStep canvas own := by
  cases h with
  | passed | discarded => exact hs
  | built parent name kind outfit blueprint group =>
    exact hs.build parent name kind outfit blueprint group
  | bound parent name kind outfit blueprint group index hbind =>
    subst hbind
    exact (hs.build parent name kind outfit blueprint group).bind index _

/-- What is compiled is in step with the slots that are there. -/
theorem compileAll {theme : Theme} {bench bench' : Workbench} {parent : NodeId} {es : List Element}
    (hs : bench.slots.InStep bench.canvas own)
    (h : (Workbench.compileAll theme bench parent es).run.value = .ok bench') :
    bench'.slots.InStep bench'.canvas own :=
  Workbench.compileAll_induction (p := fun between => between.slots.InStep between.canvas own)
    (fun hvisit hs => hs.visit (Workbench.visit_spec hvisit)) es h hs

/-! ### Contents -/

/-- If a slot is given another content and all the widgets that it lists are brought up to it, then
all widgets are in step. -/
theorem give (hs : board.InStep canvas own) (hc : board.Consistent canvas)
    (hslot : board.slot? index = some slot) {f : Handle → Handle}
    (hcanvas : ∀ j, canvas'.widget? j =
      if j ∈ slot.bindings then (canvas.widget? j).map f else canvas.widget? j)
    (hf : ∀ h, (f h).slot = h.slot)
    (hboard : ∀ i, i ≠ index → board'.content? i = board.content? i)
    {content : Option String × Option Picture} (hgiven : board'.content? index = some content)
    (hfollows : ∀ {h own}, h.Follows slot.content own → (f h).Follows content own) :
    board'.InStep canvas' own := by
  intro j h i content' hj hbound hcontent
  rw [hcanvas] at hj
  -- the widgets that are listed are those that are bound to the slot
  split at hj
  · next hmem =>
    obtain ⟨old, hold, rfl⟩ := Option.map_eq_some_iff.mp hj
    have hrecorded := (hc.mem_bindings_of_widget? hslot hold).mp hmem
    obtain rfl : index = i := Option.some.inj (hrecorded.symm.trans ((hf old).symm.trans hbound))
    obtain rfl : content = content' := Option.some.inj (hgiven.symm.trans hcontent)
    exact hfollows (hs j old index slot.content hold hrecorded (by rw [content?, hslot]; rfl))
  · next hmem =>
    have hne : i ≠ index := by
      rintro rfl
      exact hmem ((hc.mem_bindings_of_widget? hslot hj).mpr hbound)
    exact hs j h i content' hj hbound (hboard i hne ▸ hcontent)

/-- Widgets keep up with the texts that slots are given. -/
theorem setText (hs : board.InStep canvas own) (hc : board.Consistent canvas) (index : Nat)
    (text : String) :
    (board.setText canvas index text).value.2.1.InStep
      (board.setText canvas index text).value.2.2 own := by
  cases hslot : board.slot? index with
  | none =>
    rw [setText_of_slot?_eq_none hslot]
    exact hs
  | some slot =>
    rw [setText_of_slot? hslot]
    refine hs.give hc hslot (fun j => Canvas.widget?_showTextOn text slot.bindings)
      (fun h => h.slot_withText text) (fun i hne => ?_) ?_ fun hfollows => hfollows.withText text
    · rw [content?, slot?_modify, if_neg hne, content?]
    · rw [content?, slot?_modify, if_pos rfl, hslot]
      rfl

/-- Widgets keep up with the pictures that come for slots. -/
theorem applyOutcome (hs : board.InStep canvas own) (hc : board.Consistent canvas)
    (outcome : ImageOutcome) :
    (board.applyOutcome canvas outcome).value.1.InStep
      (board.applyOutcome canvas outcome).value.2 own := by
  cases hresult : outcome.result with
  | error e =>
    refine hs.congr (fun i => ?_) fun j => by rw [(applyOutcome_of_error hresult).1]
    rw [content?, content?, slot?_applyOutcome]
    split
    · cases board.slot? i with
      | none => rfl
      | some slot =>
        rw [Option.map_some, Option.map_some, Option.map_some, Slot.content_resolve, hresult]
        rfl
    · rfl
  | ok image =>
    cases hslot : board.slot? outcome.request.slot with
    | none =>
      rw [applyOutcome_of_slot?_eq_none hslot]
      exact hs
    | some slot =>
      refine hs.give hc hslot (f := (·.withImage image)) (fun j => ?_)
        (fun h => h.slot_withImage image) (fun i hne => ?_) ?_
        fun hfollows => hfollows.withImage image
      · rw [applyOutcome_of_slot? hslot, hresult]
        exact Canvas.widget?_showImageOn image slot.bindings
      · rw [content?, slot?_applyOutcome, if_neg hne, content?]
      · rw [content?, slot?_applyOutcome, if_pos rfl, hslot, Option.map_some, Option.map_some,
          Slot.resolve, hresult]
        rfl

theorem applyAll (hs : board.InStep canvas own) (hc : board.Consistent canvas)
    (outcomes : List ImageOutcome) :
    (board.applyAll canvas outcomes).1.InStep (board.applyAll canvas outcomes).2 own := by
  induction outcomes generalizing board canvas with
  | nil => exact hs
  | cons outcome outcomes ih => exact ih (hs.applyOutcome hc outcome) (hc.applyAll [outcome])

/-- Requests for pictures change nothing that is shown. -/
theorem request (hs : board.InStep canvas own) (index : Nat) (source : String)
    (kind : SourceKind) : (board.request index source kind).value.2.InStep canvas own := by
  refine hs.congr (fun i => ?_) fun _ => rfl
  cases hslot : board.slot? index with
  | none => rw [request_of_slot?_eq_none hslot]
  | some slot =>
    rw [request_of_slot? hslot, content?, content?]
    change ((board.modify index _).slot? i).map Slot.content = _
    rw [slot?_modify]
    split
    · rw [Option.map_map]
      rfl
    · rfl

theorem finish (hs : board.InStep canvas own) (number : Nat) :
    (board.finish number).2.InStep canvas own := by
  rw [Slots.finish]
  split
  · exact hs
  · simp only
    split <;> exact hs

theorem arrive (hs : board.InStep canvas own) (number : Nat) (result : Except FetchError Picture) :
    (board.arrive number result).InStep canvas own := by
  rw [Slots.arrive]
  split <;> exact hs

theorem poll (hs : board.InStep canvas own) (hc : board.Consistent canvas) :
    (board.poll canvas).value.2.1.InStep (board.poll canvas).value.2.2 own := by
  have hkept : ({ board with arrived := [] } : Slots).InStep canvas own := hs
  rw [poll_value]
  exact hkept.applyAll (hc.keep (fun _ => rfl) fun _ => rfl) board.arrived

end InStep

end Slots

/-! ### The widgets that a text reaches -/

namespace Canvas

variable {canvas : Canvas} {id : WidgetId}

/-- The ids of all widgets. -/
def ids (canvas : Canvas) : List WidgetId := (List.range canvas.widgets.size).map WidgetId.mk

theorem mem_ids : id ∈ canvas.ids ↔ (canvas.widget? id).isSome = true := by
  obtain ⟨i⟩ := id
  simp [ids, widget?]

theorem nodup_ids (canvas : Canvas) : canvas.ids.Nodup :=
  List.nodup_range.map fun _ _ h => congrArg WidgetId.index h

theorem map_ids (canvas : Canvas) :
    canvas.ids.map canvas.widget? = canvas.widgets.toList.map some := by
  refine List.ext_getElem (by simp [ids]) fun i hi _ => ?_
  have hlt : i < canvas.widgets.size := by simpa [ids] using hi
  simp [ids, widget?, hlt]

/-- Widgets are counted by their ids. -/
theorem countP_ids (canvas : Canvas) (p : Handle → Bool) :
    canvas.ids.countP (fun id => (canvas.widget? id).any p) = canvas.widgets.toList.countP p := by
  have hmap := congrArg (List.countP (Option.any p)) canvas.map_ids
  rwa [List.countP_map, List.countP_map] at hmap

theorem exists_widget?_of_mem {h : Handle} (hmem : h ∈ canvas.widgets.toList) :
    ∃ id, canvas.widget? id = some h := by
  obtain ⟨i, hi⟩ := List.mem_iff_getElem?.mp hmem
  rw [Array.getElem?_toList] at hi
  exact ⟨⟨i⟩, hi⟩

end Canvas

namespace Slots.Consistent

variable {board : Slots} {canvas : Canvas} {index : Nat} {id : WidgetId} {slot : Slot} {h : Handle}

/-- No widget is bound to a slot that is not there. -/
theorem slot_ne (hc : board.Consistent canvas) (hslot : board.slot? index = none)
    (hid : canvas.widget? id = some h) : h.slot ≠ some index := by
  intro hrecorded
  obtain ⟨slot, hfound, -⟩ := hc.recorded hid hrecorded
  rw [hslot] at hfound
  cases hfound

/-- A slot lists the widgets that are bound to it, of all that there are. -/
theorem bindings_perm (hc : board.Consistent canvas) (hslot : board.slot? index = some slot) :
    slot.bindings.Perm
      (canvas.ids.filter fun id => (canvas.widget? id).any (·.slot = some index)) := by
  refine (List.perm_ext_iff_of_nodup (hc.nodup hslot) (canvas.nodup_ids.filter _)).mpr fun id => ?_
  rw [List.mem_filter, Canvas.mem_ids]
  cases hid : canvas.widget? id with
  | none =>
    have hfree : id ∉ slot.bindings := by
      intro hmem
      obtain ⟨h, hlisted, -⟩ := hc.listed hslot hmem
      rw [hid] at hlisted
      cases hlisted
    simp [hfree]
  | some h => simp [hc.mem_bindings_of_widget? hslot hid]

/-- A text is counted once for each widget that is bound to the slot and has somewhere to show a
text. -/
theorem setText_fst (hc : board.Consistent canvas) (index : Nat) (text : String) :
    (board.setText canvas index text).value.1 =
      canvas.widgets.toList.countP fun h => h.slot = some index ∧ h.textSurface.isSome := by
  cases hslot : board.slot? index with
  | none =>
    rw [setText_of_slot?_eq_none hslot, eq_comm, List.countP_eq_zero]
    intro h hmem hbound
    obtain ⟨id, hid⟩ := Canvas.exists_widget?_of_mem hmem
    exact hc.slot_ne hslot hid (of_decide_eq_true hbound).1
  | some slot =>
    rw [setText_of_slot? hslot, (hc.bindings_perm hslot).countP_eq, List.countP_filter,
      ← canvas.countP_ids]
    refine List.countP_congr fun id _ => ?_
    cases canvas.widget? id with
    | none => simp
    | some h => simp [and_comm]

/-- A text is shown on the widgets that are bound to the slot, and on no others. -/
theorem widget?_setText (hc : board.Consistent canvas) (index : Nat) (text : String)
    (j : WidgetId) : (board.setText canvas index text).value.2.2.widget? j =
      (canvas.widget? j).map fun h => if h.slot = some index then h.withText text else h := by
  cases hslot : board.slot? index with
  | none =>
    rw [setText_of_slot?_eq_none hslot]
    cases hj : canvas.widget? j with
    | none => rw [Option.map_none, ← hj]
    | some h => rw [Option.map_some, if_neg (hc.slot_ne hslot hj), ← hj]
  | some slot =>
    rw [setText_of_slot? hslot]
    refine (Canvas.widget?_showTextOn text slot.bindings).trans ?_
    cases hj : canvas.widget? j with
    | none => exact ite_self _
    | some h =>
      rw [Option.map_some, Option.map_some, apply_ite some]
      exact if_congr (hc.mem_bindings_of_widget? hslot hj) rfl rfl

end Slots.Consistent

end Uiml
