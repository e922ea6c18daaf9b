import Mathlib.Data.List.Nodup
import Uiml.Proofs.Canvas.Growth
import Uiml.Proofs.Slot.Apply

/-!
# Slots and widgets know of each other

A slot lists the widgets that are bound to it, and a widget has the number of its slot. The two
records agree: a slot lists just the widgets that know of it, each of them once.

## Main definitions

* `Slots.Consistent` — slots and widgets know of each other
* `Slots.KeepsBindings`, `Canvas.KeepsSlots` — what leaves the two records alone

## Main results

* `Slots.Consistent.mem_bindings_iff`, `Slots.Consistent.nodup_bindings` — what the lists hold
* `Slots.Consistent.slot?_unbind` — a widget that is unbound is on no list any more
* `Slots.Consistent.unbind`, `Slots.Consistent.bind` — the operations that write both records
-/

namespace Uiml

/-- Slots list just the widgets that know of them, each once. -/
structure Slots.Consistent (board : Slots) (canvas : Canvas) : Prop where
  listed : ∀ {i slot id}, board.slot? i = some slot → id ∈ slot.bindings →
    ∃ h, canvas.widget? id = some h ∧ h.slot = some i
  recorded : ∀ {i id h}, canvas.widget? id = some h → h.slot = some i →
    ∃ slot, board.slot? i = some slot ∧ id ∈ slot.bindings
  nodup : ∀ {i slot}, board.slot? i = some slot → slot.bindings.Nodup

/-- All slots have the widgets that they had. -/
def Slots.KeepsBindings (board board' : Slots) : Prop :=
  ∀ i, (board'.slot? i).map Slot.bindings = (board.slot? i).map Slot.bindings

/-- All widgets have the slots that they had. -/
def Canvas.KeepsSlots (canvas canvas' : Canvas) : Prop :=
  ∀ j, (canvas'.widget? j).map Handle.slot = (canvas.widget? j).map Handle.slot

/-! ### What leaves the records alone -/

namespace Canvas

variable {canvas canvas' : Canvas} {id : WidgetId}

theorem KeepsSlots.trans {canvas'' : Canvas} (h : KeepsSlots canvas canvas')
    (h' : KeepsSlots canvas' canvas'') : KeepsSlots canvas canvas'' :=
  fun j => (h' j).trans (h j)

/-- What a widget shows does not touch its slot. -/
theorem Change.keepsSlots (h : Change id canvas canvas') : KeepsSlots canvas canvas' := by
  rcases h.update_cases with rfl | ⟨f, g, rfl, hkeeps⟩
  · exact fun _ => rfl
  · exact map_widget?_update Handle.slot fun h _ => (hkeeps h).1

theorem Changes.keepsSlots (h : Changes canvas canvas') : KeepsSlots canvas canvas' :=
  reflTransGen_preserves (p := KeepsSlots canvas)
    (fun ⟨_, hchange⟩ hkeeps => hkeeps.trans hchange.keepsSlots) h fun _ => rfl

/-- A widget is there after its slot has been recorded if it was there before. -/
theorem widget?_setSlot (slot : Option Nat) (j : WidgetId) :
    (canvas.setSlot id slot).widget? j =
      if j = id then (canvas.widget? j).map ({ · with slot }) else canvas.widget? j :=
  widget?_modifyWidget

theorem KeepsSlots.widget? (hkeeps : KeepsSlots canvas canvas') {h : Handle}
    (hid : canvas.widget? id = some h) : ∃ h', canvas'.widget? id = some h' ∧ h'.slot = h.slot := by
  have hslot := hkeeps id
  rw [hid, Option.map_some] at hslot
  exact Option.map_eq_some_iff.mp hslot

theorem KeepsSlots.symm (hkeeps : KeepsSlots canvas canvas') : KeepsSlots canvas' canvas :=
  fun j => (hkeeps j).symm

end Canvas

namespace Slots

variable {board board' : Slots} {canvas canvas' : Canvas} {index : Nat} {id : WidgetId}

theorem KeepsBindings.refl (board : Slots) : KeepsBindings board board := fun _ => rfl

theorem KeepsBindings.trans {board'' : Slots} (h : KeepsBindings board board')
    (h' : KeepsBindings board' board'') : KeepsBindings board board'' :=
  fun i => (h' i).trans (h i)

theorem KeepsBindings.symm (h : KeepsBindings board board') : KeepsBindings board' board :=
  fun i => (h i).symm

theorem KeepsBindings.slot? (hkeeps : KeepsBindings board board') {i : Nat} {slot : Slot}
    (hslot : board.slot? i = some slot) :
    ∃ slot', board'.slot? i = some slot' ∧ slot'.bindings = slot.bindings := by
  have hbindings := hkeeps i
  rw [hslot, Option.map_some] at hbindings
  exact Option.map_eq_some_iff.mp hbindings

/-- A change of the content of a slot leaves its widgets alone. -/
theorem keepsBindings_modify (board : Slots) {f : Slot → Slot}
    (hf : ∀ slot, board.slot? index = some slot → (f slot).bindings = slot.bindings) :
    KeepsBindings board (board.modify index f) := by
  intro i
  rw [slot?_modify]
  split
  · next he =>
    subst he
    cases hslot : board.slot? i with
    | none => rfl
    | some slot => simp only [Option.map_some, hf slot hslot]
  · rfl

theorem setText_keepsBindings (text : String) :
    KeepsBindings board (board.setText canvas index text).value.2.1 := by
  cases hslot : board.slot? index with
  | none =>
    rw [setText_of_slot?_eq_none hslot]
    exact .refl board
  | some slot =>
    rw [setText_of_slot? hslot]
    exact keepsBindings_modify board fun _ _ => rfl

theorem request_keepsBindings (source : String) (kind : SourceKind) :
    KeepsBindings board (board.request index source kind).value.2 := by
  cases hslot : board.slot? index with
  | none =>
    rw [request_of_slot?_eq_none hslot]
    exact .refl board
  | some slot =>
    rw [request_of_slot? hslot]
    exact keepsBindings_modify board fun _ _ => rfl

theorem finish_keepsBindings (number : Nat) : KeepsBindings board (board.finish number).2 := by
  rw [finish]
  split
  · exact .refl board
  · simp only
    split <;> exact fun _ => rfl

theorem arrive_keepsBindings (number : Nat) (result : Except FetchError Picture) :
    KeepsBindings board (board.arrive number result) := by
  rw [arrive]
  split
  · exact .refl board
  · exact fun _ => rfl

theorem applyOutcome_keepsBindings (outcome : ImageOutcome) :
    KeepsBindings board (board.applyOutcome canvas outcome).value.1 := by
  intro i
  rw [slot?_applyOutcome]
  split
  · cases board.slot? i with
    | none => rfl
    | some slot => exact congrArg some (slot.bindings_resolve outcome)
  · rfl

theorem applyAll_keepsBindings (outcomes : List ImageOutcome) :
    KeepsBindings board (board.applyAll canvas outcomes).1 := by
  induction outcomes generalizing board canvas with
  | nil => exact .refl board
  | cons outcome outcomes ih => exact (applyOutcome_keepsBindings outcome).trans ih

theorem poll_keepsBindings : KeepsBindings board (board.poll canvas).value.2.1 := by
  rw [poll_value]
  exact applyAll_keepsBindings board.arrived

/-! ### What writes the records -/

namespace Consistent

variable {i : Nat} {slot : Slot} {h : Handle}

theorem keep (hc : board.Consistent canvas) (hboard : KeepsBindings board board')
    (hcanvas : canvas.KeepsSlots canvas') : board'.Consistent canvas' where
  listed := by
    intro i slot' id hslot' hmem
    obtain ⟨slot, hslot, hbindings⟩ := hboard.symm.slot? hslot'
    obtain ⟨h, hid, hrecorded⟩ := hc.listed hslot (hbindings ▸ hmem)
    obtain ⟨h', hid', heq⟩ := hcanvas.widget? hid
    exact ⟨h', hid', heq.trans hrecorded⟩
  recorded := by
    intro i id h' hid' hrecorded
    obtain ⟨h, hid, heq⟩ := hcanvas.symm.widget? hid'
    obtain ⟨slot, hslot, hmem⟩ := hc.recorded hid (heq.trans hrecorded)
    obtain ⟨slot', hslot', hbindings⟩ := hboard.slot? hslot
    exact ⟨slot', hslot', hbindings ▸ hmem⟩
  nodup := by
    intro i slot' hslot'
    obtain ⟨slot, hslot, hbindings⟩ := hboard.symm.slot? hslot'
    exact hbindings ▸ hc.nodup hslot

theorem applyAll (hc : board.Consistent canvas) (outcomes : List ImageOutcome) :
    (board.applyAll canvas outcomes).1.Consistent (board.applyAll canvas outcomes).2 :=
  hc.keep (applyAll_keepsBindings outcomes)
    (board.applyAll_displays canvas outcomes).changes.keepsSlots

theorem mem_bindings_of_widget? (hc : board.Consistent canvas) (hslot : board.slot? i = some slot)
    (hid : canvas.widget? id = some h) : id ∈ slot.bindings ↔ h.slot = some i := by
  constructor
  · intro hmem
    obtain ⟨h', hid', hrecorded⟩ := hc.listed hslot hmem
    obtain rfl : h = h' := Option.some.inj (hid.symm.trans hid')
    exact hrecorded
  · intro hrecorded
    obtain ⟨slot', hslot', hmem⟩ := hc.recorded hid hrecorded
    obtain rfl : slot = slot' := Option.some.inj (hslot.symm.trans hslot')
    exact hmem

/-- No slot but its own lists a widget. -/
theorem not_mem_of_slot_ne (hc : board.Consistent canvas) (hid : canvas.widget? id = some h)
    (hslot : board.slot? i = some slot) (hne : h.slot ≠ some i) : id ∉ slot.bindings :=
  fun hmem => hne ((hc.mem_bindings_of_widget? hslot hid).mp hmem)

/-- A widget is on the list of a slot just if it knows of that slot. -/
theorem mem_bindings_iff (hc : board.Consistent canvas) :
    (∃ slot, board.slot? i = some slot ∧ id ∈ slot.bindings) ↔
      ∃ h, canvas.widget? id = some h ∧ h.slot = some i :=
  ⟨fun ⟨_, hslot, hmem⟩ => hc.listed hslot hmem,
    fun ⟨_, hid, hrecorded⟩ => hc.recorded hid hrecorded⟩

/-- No widget is on two lists, or on one list twice. -/
theorem nodup_bindings (hc : board.Consistent canvas) :
    (board.slots.toList.flatMap Slot.bindings).Nodup := by
  refine List.nodup_flatMap.mpr ⟨fun slot hslot => ?_, List.pairwise_iff_getElem.mpr ?_⟩
  · obtain ⟨i, hi, rfl⟩ := List.getElem_of_mem hslot
    exact hc.nodup (slot?_eq_getElem hi)
  · intro i k hi hk hlt id hmem hmem'
    -- the widget knows of one slot only, which would have both numbers
    obtain ⟨h, hid, hrecorded⟩ := hc.listed (slot?_eq_getElem hi) hmem
    exact hc.not_mem_of_slot_ne hid (slot?_eq_getElem hk)
      (fun he => Nat.ne_of_lt hlt (Option.some.inj (hrecorded.symm.trans he))) hmem'

theorem release_of_not_mem (hmem : id ∉ slot.bindings) : slot.release id = slot := by
  have hfilter : slot.bindings.filter (· ≠ id) = slot.bindings := by
    refine List.filter_eq_self.mpr fun j hj => decide_eq_true fun he => hmem (he ▸ hj)
  rw [Slot.release, hfilter]

/-- Unbinding takes a widget off all slots, and does nothing else to them. -/
theorem slot?_unbind (hc : board.Consistent canvas) (i : Nat) :
    (board.unbind canvas id).2.1.slot? i = (board.slot? i).map (·.release id) := by
  cases hrecorded : (canvas.widget? id).bind Handle.slot with
  | none =>
    rw [unbind_of_none hrecorded]
    exact slot?_map _
  | some index =>
    obtain ⟨h, hid, hslot⟩ := Option.bind_eq_some_iff.mp hrecorded
    obtain ⟨slot, hindex, -⟩ := hc.recorded hid hslot
    rw [unbind_of_slot? hrecorded hindex, slot?_modify]
    split
    · rfl
    · next hne =>
      -- another slot is not released, but neither does it list the widget
      cases hi : board.slot? i with
      | none => rfl
      | some other =>
        have hmem : id ∉ other.bindings := hc.not_mem_of_slot_ne hid hi fun he =>
          hne (Option.some.inj (he.symm.trans hslot))
        rw [Option.map_some, release_of_not_mem hmem]

theorem unbind (hc : board.Consistent canvas) (id : WidgetId) :
    (board.unbind canvas id).2.1.Consistent (board.unbind canvas id).2.2 where
  listed := by
    intro i slot' j hslot' hmem
    rw [hc.slot?_unbind] at hslot'
    obtain ⟨slot, hslot, rfl⟩ := Option.map_eq_some_iff.mp hslot'
    obtain ⟨hmem, hne⟩ := List.mem_filter.mp hmem
    obtain ⟨h, hj, hrecorded⟩ := hc.listed hslot hmem
    refine ⟨h, ?_, hrecorded⟩
    rw [unbind_canvas, Canvas.widget?_setSlot, if_neg (of_decide_eq_true hne), hj]
  recorded := by
    intro i j h' hj hrecorded
    rw [unbind_canvas, Canvas.widget?_setSlot] at hj
    split at hj
    · obtain ⟨h, -, rfl⟩ := Option.map_eq_some_iff.mp hj
      cases hrecorded
    · next hne =>
      obtain ⟨slot, hslot, hmem⟩ := hc.recorded hj hrecorded
      refine ⟨slot.release id, by rw [hc.slot?_unbind, hslot, Option.map_some], ?_⟩
      exact List.mem_filter.mpr ⟨hmem, decide_eq_true hne⟩
  nodup := by
    intro i slot' hslot'
    rw [hc.slot?_unbind] at hslot'
    obtain ⟨slot, hslot, rfl⟩ := Option.map_eq_some_iff.mp hslot'
    exact (hc.nodup hslot).filter _

/-- A widget that is on no list is put on one, and told so. -/
theorem accept (hc : board.Consistent canvas) (hid : canvas.widget? id = some h)
    (hfree : h.slot = none) (hindex : (board.slot? index).isSome = true) (h' : Handle) :
    (board.modify index (·.accept id h')).Consistent (canvas.setSlot id (some index)) where
  listed := by
    intro i slot' j hslot' hmem
    rw [slot?_modify] at hslot'
    rw [Canvas.widget?_setSlot]
    by_cases hj : j = id
    · subst hj
      rw [if_pos rfl, hid]
      refine ⟨_, rfl, ?_⟩
      split at hslot'
      · next he => rw [he]
      · -- a free widget is on the list of no other slot
        exact absurd hmem (hc.not_mem_of_slot_ne hid hslot' (by rw [hfree]; exact nofun))
    · rw [if_neg hj]
      split at hslot'
      · obtain ⟨slot, hslot, rfl⟩ := Option.map_eq_some_iff.mp hslot'
        rcases List.mem_append.mp hmem with hmem | hmem
        · exact hc.listed hslot hmem
        · exact absurd (List.mem_singleton.mp hmem) hj
      · exact hc.listed hslot' hmem
  recorded := by
    intro i j new hj hrecorded
    rw [Canvas.widget?_setSlot] at hj
    rw [slot?_modify]
    split at hj
    · next he =>
      subst he
      obtain ⟨old, -, rfl⟩ := Option.map_eq_some_iff.mp hj
      obtain rfl : index = i := Option.some.inj hrecorded
      obtain ⟨slot, hslot⟩ := Option.isSome_iff_exists.mp hindex
      rw [if_pos rfl, hslot]
      exact ⟨_, rfl, List.mem_append_right _ (List.mem_singleton.mpr rfl)⟩
    · obtain ⟨slot, hslot, hmem⟩ := hc.recorded hj hrecorded
      rw [hslot]
      split
      · exact ⟨_, rfl, List.mem_append_left _ hmem⟩
      · exact ⟨slot, rfl, hmem⟩
  nodup := by
    intro i slot' hslot'
    rw [slot?_modify] at hslot'
    split at hslot'
    · obtain ⟨slot, hslot, rfl⟩ := Option.map_eq_some_iff.mp hslot'
      have hmem : id ∉ slot.bindings :=
        hc.not_mem_of_slot_ne hid hslot (by rw [hfree]; exact nofun)
      refine List.nodup_append.mpr ⟨hc.nodup hslot, by simp, ?_⟩
      rintro j hj _ hid rfl
      exact hmem (List.mem_singleton.mp hid ▸ hj)
    · exact hc.nodup hslot'

theorem bind (hc : board.Consistent canvas) (index : Nat) (id : WidgetId) :
    (board.bind canvas index id).value.2.1.Consistent (board.bind canvas index id).value.2.2 := by
  cases hslot : board.slot? index with
  | none =>
    rw [bind_of_slot?_eq_none hslot]
    exact hc
  | some slot =>
    cases hid : canvas.widget? id with
    | none =>
      rw [bind_of_widget?_eq_none hslot hid]
      exact hc.unbind id
    | some h =>
      rw [bind_of_widget? hslot hid]
      -- binding is unbinding, then putting a free widget on a list, then showing the content
      have hunbound : (canvas.setSlot id none).widget? id = some { h with slot := none } := by
        rw [Canvas.widget?_setSlot, if_pos rfl, hid, Option.map_some]
      have hindex : ((board.unbind canvas id).2.1.slot? index).isSome = true := by
        rw [hc.slot?_unbind, hslot]
        rfl
      have hbound := (unbind_canvas board canvas id ▸ hc.unbind id).accept hunbound rfl hindex
        { h with slot := none }
      exact hbound.keep (.refl _) (Canvas.showContent_displays _ id slot).changes.keepsSlots

end Consistent

end Slots

end Uiml
