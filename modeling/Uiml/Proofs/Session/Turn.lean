import Uiml.Proofs.Session.Effect
import Uiml.Proofs.Session.History
import Uiml.Proofs.Slot.Stock

/-!
# Turns of a session

What an operation does to slots and widgets together. It makes or takes away widgets, does something
to widgets, lets outcomes come in, gives a slot a text, requests a picture, fetches one, binds
widgets elsewhere, or does none of these.

## Main definitions

* `Session.Operation.writes` — the operations that may change what slots hold
* `Session.Turn` — what an operation does to slots and widgets
* `Session.pollsOn?` — the canvas on which outcomes are applied

## Main results

* `Session.after_turn` — every operation is a turn
* `Session.after_of_pollsOn?` — a poll applies the outcomes that have come, in their order
-/

namespace Uiml.Session

variable {s s' : Session} {op : Operation} {canvas : Canvas}

/-- Whether an operation may change what slots hold or wait for. -/
def Operation.writes : Operation → Bool
  | .setText _ _ | .request _ _ _ | .tick _ | .wait _ => true
  | _ => false

/-- What an operation does to slots and widgets. -/
inductive Turn (s : Session) : Operation → Session → Prop
  | rebuilt {op : Operation} {s' : Session} (hop : op.rebuilds = true)
      (h : s' = s.clear.value ∨ Loading s s') : Turn s op s'
  | executed (element command : String) (args : List String) :
      Turn s (.execute element command args) (s.execute element command args).value.2
  | progressed (element : String) (value : Float32) (animate : Bool) :
      Turn s (.setProgress element value animate) (s.setProgress element value animate).value.2
  | ticked (dt : Float32) : Turn s (.tick dt) (s.tick dt).value
  | waited (timeout : Span) : Turn s (.wait timeout) (s.wait timeout).value.2
  | texted (slot : Nat) (text : String) : Turn s (.setText slot text) (s.setText slot text).value.2
  | requested (slot : Nat) (source : String) (kind : SourceKind) :
      Turn s (.request slot source kind) (s.request slot source kind).value.2
  | finished (number : Nat) : Turn s (.finish number) (s.finish number).2
  | arrived (number : Nat) (result : Except FetchError Picture) :
      Turn s (.arrive number result) { s with slots := s.slots.arrive number result }
  | rebound {op : Operation} {s' : Session} (hwrites : op.writes = false) (hacts : op.acts = false)
      (hrebuilds : op.rebuilds = false)
      (h : Slots.Rebinds (s.slots, s.stage.canvas) (s'.slots, s'.stage.canvas)) : Turn s op s'
  | aside {op : Operation} {s' : Session} (hwrites : op.writes = false) (hacts : op.acts = false)
      (hrebuilds : op.rebuilds = false) (hslots : ∃ assets, s'.slots = { s.slots with assets })
      (hcanvas : s'.stage.canvas = s.stage.canvas) : Turn s op s'

theorem after_turn (h : s.after op = .ok s') : s.Turn op s' := by
  cases hop : op.rebuilds with
  | true => exact .rebuilt hop (after_of_rebuilds h hop)
  | false =>
    cases op <;> simp only [after] at h
    case load | loadFile | loadDocument | clear => cases hop
    case execute element command args => cases h; exact .executed element command args
    case schedule => cases h; exact .aside rfl rfl rfl ⟨_, rfl⟩ rfl
    case setProgress element value animate => cases h; exact .progressed element value animate
    case tick dt => cases h; exact .ticked dt
    case listen => cases h; exact .aside rfl rfl rfl ⟨_, rfl⟩ rfl
    case invoke element event args =>
      cases h
      have hsame : (s.invoke element event args).value.2.slots = s.slots ∧
          (s.invoke element event args).value.2.stage = s.stage := by
        rw [invoke, Logged.bind_value]
        split <;> exact ⟨rfl, rfl⟩
      exact .aside rfl rfl rfl ⟨s.slots.assets, hsame.1⟩ (congrArg Stage.canvas hsame.2)
    case takeEvents => cases h; exact .aside rfl rfl rfl ⟨_, rfl⟩ rfl
    case setText slot text => cases h; exact .texted slot text
    case request slot source kind => cases h; exact .requested slot source kind
    case finish number => cases h; exact .finished number
    case arrive number result => cases h; exact .arrived number result
    case wait timeout => cases h; exact .waited timeout
    case changeBinding element slot =>
      cases h
      cases hget : s.registry.get? element with
      | none =>
        rw [changeBinding_of_get?_eq_none hget]
        exact .aside rfl rfl rfl ⟨_, rfl⟩ rfl
      | some id =>
        rw [changeBinding_of_get? hget]
        exact .rebound rfl rfl rfl (s.slots.changeBinding_rebinds s.stage.canvas id slot)
    case moveBinding source target place =>
      cases h
      exact .rebound rfl rfl rfl (s.slots.moveBinding_rebinds s.stage.canvas source target place)
    case unbind element =>
      cases h
      cases hget : s.registry.get? element with
      | none =>
        rw [unbind_of_get?_eq_none hget]
        exact .aside rfl rfl rfl ⟨_, rfl⟩ rfl
      | some id =>
        rw [unbind_of_get? hget]
        exact .rebound rfl rfl rfl (.single (.unbind s.slots s.stage.canvas id))
    case addBundle => cases h; exact .aside rfl rfl rfl ⟨_, rfl⟩ rfl
    case removeBundle => cases h; exact .aside rfl rfl rfl ⟨_, rfl⟩ rfl
    case setStrict => cases h; exact .aside rfl rfl rfl ⟨_, rfl⟩ rfl
    case clearCaches => cases h; exact .aside rfl rfl rfl ⟨_, rfl⟩ rfl

theorem clear_stock (s : Session) : s.clear.value.slots.stock = s.slots.stock := by
  rw [clear_value]
  exact s.slots.stock_clearBindings

theorem clearForLoad_stock (s : Session) : s.clearForLoad.value.slots.stock = s.slots.stock := by
  rw [clearForLoad]
  cases s.config.clearOnLoad with
  | true => exact s.clear_stock
  | false => rfl

/-- What slots hold and wait for outlives their widgets. -/
theorem Loading.stock_eq (h : Loading s s') : s'.slots.stock = s.slots.stock := by
  cases h with
  | unread => rfl
  | refused => exact s.clearForLoad_stock
  | compiled root bench hbench =>
    exact (Workbench.compileAll_stock hbench).trans s.clearForLoad_stock

/-! ### Polls -/

/-- The stage on which the outcomes are applied that have come when some time has passed. -/
def ticked (s : Session) (dt : Float32) : Stage :=
  (runSteps s.config s.registry (s.moved dt) (s.stage.animator.advance dt).1.due).value

/-- The canvas on which an operation applies the outcomes that have come, if it does. -/
def pollsOn? (s : Session) : Operation → Option Canvas
  | .tick dt => some (s.ticked dt).canvas
  | .wait _ => some s.stage.canvas
  | _ => none

theorem ticked_changes (s : Session) (dt : Float32) :
    Canvas.Changes s.stage.canvas (s.ticked dt).canvas :=
  (applyUpdates_changes { s.stage with animator := (s.stage.animator.advance dt).2 }
    (s.stage.animator.advance dt).1.updates).trans
    (runSteps_changes s.config s.registry (s.moved dt) (s.stage.animator.advance dt).1.due)

theorem tick_value (s : Session) (dt : Float32) : (s.tick dt).value =
    { s with
      stage := { s.ticked dt with canvas := (s.slots.poll (s.ticked dt).canvas).value.2.2 }
      slots := (s.slots.poll (s.ticked dt).canvas).value.2.1 } := rfl

/-- Outcomes are applied in the order in which they have come. -/
theorem after_of_pollsOn? (h : s.after op = .ok s') (hpolls : s.pollsOn? op = some canvas) :
    (s'.slots, s'.stage.canvas) = (s.slots.poll canvas).value.2 := by
  cases op <;> cases hpolls
  case tick dt =>
    cases h
    rfl
  case wait timeout =>
    cases h
    rfl

end Uiml.Session
