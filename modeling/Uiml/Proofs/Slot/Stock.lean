import Mathlib.Logic.Relation
import Uiml.Proofs.Build.Visit
import Uiml.Proofs.Slot.Binding

/-!
# The stock of slots

A slot has its contents and its requests whatever widgets are bound to it. What operations on
bindings leave of a board is its stock.

## Main definitions

* `Slot.stock`, `Slots.stock` — all that has nothing to do with widgets
* `Slots.content?` — the text and the picture of a slot
* `Slots.Rebinds` — widgets are taken off slots and bound to slots

## Main results

* `Slots.stock_bind`, `Slots.Rebinds.stock_eq` — bindings leave the stock alone
* `Workbench.compileAll_stock` — so does compiling elements
-/

namespace Uiml

/-- What binding widgets leaves of a slot: all but its kind and its widgets. -/
def Slot.stock (slot : Slot) : Slot := { slot with kind := .unbound, bindings := [] }

/-- The text and the picture of a slot. -/
def Slot.content (slot : Slot) : Option String × Option Picture := (slot.text, slot.image)

namespace Slots

/-- What binding widgets leaves of a board, the assets aside. -/
def stock (board : Slots) : Slots :=
  { board with slots := board.slots.map Slot.stock, assets := default }

/-- The text and the picture of the slot of a number. -/
def content? (board : Slots) (index : Nat) : Option (Option String × Option Picture) :=
  (board.slot? index).map Slot.content

variable {board board' : Slots} {canvas : Canvas} {index i : Nat} {id : WidgetId} {slot : Slot}

theorem map_stock_slot? (h : board'.slots.map Slot.stock = board.slots.map Slot.stock) (i : Nat) :
    (board'.slot? i).map Slot.stock = (board.slot? i).map Slot.stock := by
  rw [slot?, slot?, ← Array.getElem?_map, ← Array.getElem?_map, h]

theorem exists_slot?_of_stock (h : board'.slots.map Slot.stock = board.slots.map Slot.stock)
    (hslot : board'.slot? i = some slot) :
    ∃ slot', board.slot? i = some slot' ∧ slot'.stock = slot.stock := by
  have hmap := map_stock_slot? h i
  rw [hslot] at hmap
  exact Option.map_eq_some_iff.mp hmap.symm

theorem size_of_stock (h : board'.slots.map Slot.stock = board.slots.map Slot.stock) :
    board'.size = board.size := by
  have hsize := congrArg Array.size h
  rwa [Array.size_map, Array.size_map] at hsize

theorem content?_of_stock_eq (h : board'.stock = board.stock) (i : Nat) :
    board'.content? i = board.content? i := by
  have hcontent := congrArg (Option.map Slot.content) (map_stock_slot? (congrArg slots h) i)
  rwa [Option.map_map, Option.map_map] at hcontent

/-! ### Bindings -/

/-- A change of slots that leaves the stock of each alone leaves that of the board alone. -/
theorem stock_of_slot? {slots : Array Slot}
    (h : ∀ i : Nat, slots[i]?.map Slot.stock = board.slots[i]?.map Slot.stock) :
    ({ board with slots } : Slots).stock = board.stock := by
  have hslots : slots.map Slot.stock = board.slots.map Slot.stock := by
    refine Array.ext_getElem? fun i => ?_
    rw [Array.getElem?_map, Array.getElem?_map, h]
  rw [stock, stock, hslots]

theorem stock_modify {f : Slot → Slot} (hf : ∀ slot, (f slot).stock = slot.stock) :
    (board.modify index f).stock = board.stock := by
  refine stock_of_slot? fun i => ?_
  rw [Array.getElem?_modify]
  split
  · rw [Option.map_map]
    exact congrArg (Option.map · _) (funext hf)
  · rfl

theorem stock_map {f : Slot → Slot} (hf : ∀ slot, (f slot).stock = slot.stock) :
    ({ board with slots := board.slots.map f } : Slots).stock = board.stock := by
  refine stock_of_slot? fun i => ?_
  rw [Array.getElem?_map, Option.map_map]
  exact congrArg (Option.map · _) (funext hf)

theorem stock_unbind (board : Slots) (canvas : Canvas) (id : WidgetId) :
    (board.unbind canvas id).2.1.stock = board.stock := by
  rw [unbind]
  split
  · exact stock_modify fun _ => rfl
  · exact stock_map fun _ => rfl

theorem stock_bind (board : Slots) (canvas : Canvas) (index : Nat) (id : WidgetId) :
    (board.bind canvas index id).value.2.1.stock = board.stock := by
  cases hslot : board.slot? index with
  | none => rw [bind_of_slot?_eq_none hslot]
  | some slot =>
    cases hid : canvas.widget? id with
    | none =>
      rw [bind_of_widget?_eq_none hslot hid]
      exact board.stock_unbind canvas id
    | some h =>
      rw [bind_of_widget? hslot hid]
      exact (stock_modify (f := (·.accept id { h with slot := none })) fun _ => rfl).trans
        (board.stock_unbind canvas id)

theorem content?_unbind (i : Nat) : (board.unbind canvas id).2.1.content? i = board.content? i :=
  content?_of_stock_eq (board.stock_unbind canvas id) i

/-- No binding changes the content of a slot. -/
theorem content?_bind (i : Nat) :
    (board.bind canvas index id).value.2.1.content? i = board.content? i :=
  content?_of_stock_eq (board.stock_bind canvas index id) i

theorem stock_clearBindings (board : Slots) : board.clearBindings.stock = board.stock :=
  stock_map fun _ => rfl

/-- A widget is taken off its slot, or bound to one. -/
inductive Rebind : Slots × Canvas → Slots × Canvas → Prop
  | unbind (board : Slots) (canvas : Canvas) (id : WidgetId) :
      Rebind (board, canvas) (board.unbind canvas id).2
  | bind (board : Slots) (canvas : Canvas) (index : Nat) (id : WidgetId) :
      Rebind (board, canvas) (board.bind canvas index id).value.2

/-- Widgets are taken off slots and bound to slots, one after the other. -/
abbrev Rebinds : Slots × Canvas → Slots × Canvas → Prop := Relation.ReflTransGen Rebind

theorem Rebinds.stock_eq {state state' : Slots × Canvas} (h : Rebinds state state') :
    state'.1.stock = state.1.stock := by
  induction h with
  | refl => rfl
  | tail _ hlast ih =>
    cases hlast with
    | unbind board canvas id => exact (board.stock_unbind canvas id).trans ih
    | bind board canvas index id => exact (board.stock_bind canvas index id).trans ih

theorem changeBinding_rebinds (board : Slots) (canvas : Canvas) (id : WidgetId) (index : Nat) :
    Rebinds (board, canvas) (board.changeBinding canvas id index).value.2 :=
  (Relation.ReflTransGen.single (.unbind board canvas id)).tail (.bind _ _ index id)

theorem moveBinding_rebinds (board : Slots) (canvas : Canvas) (source target place : Nat) :
    Rebinds (board, canvas) (board.moveBinding canvas source target place).value.2 := by
  rcases board.moveBinding_cases canvas source target place with h | ⟨_, id, _, -, -, -, h⟩
  · rw [h]
  · rw [h]
    exact .single (.bind board canvas target id)

end Slots

/-! ### Compiling -/

theorem Workbench.Visit.stock_eq {bench : Workbench} {canvas : Canvas} {slots : Slots}
    {registry : Registry} (h : bench.Visit canvas slots registry) :
    slots.stock = bench.slots.stock := by
  cases h with
  | passed | discarded | built => rfl
  | bound parent name kind outfit blueprint group index hbind =>
    subst hbind
    exact bench.slots.stock_bind _ index _

theorem Workbench.compileAll_stock {theme : Theme} {bench bench' : Workbench} {parent : NodeId}
    {es : List Element} (h : (compileAll theme bench parent es).run.value = .ok bench') :
    bench'.slots.stock = bench.slots.stock :=
  compileAll_induction (p := fun between => between.slots.stock = bench.slots.stock)
    (fun hvisit hstock => (visit_spec hvisit).stock_eq.trans hstock) es h rfl

end Uiml
