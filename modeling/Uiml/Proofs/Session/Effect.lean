import Uiml.Proofs.Canvas.Growth

/-!
# Effects of operations

What an operation on a session does to its stage. It loads a document, clears the session, does a
command, queues one, moves a progress bar, lets time pass, or leaves the animator alone and at most
binds widgets and shows contents of slots. What is said about all reachable sessions goes through
these seven cases.

## Main definitions

* `Session.Operation.acts`, `Session.Operation.rebuilds` — the operations that do actions to
  widgets, and those that make or take away widgets
* `Session.Effect` — what an operation does to the stage

## Main results

* `Session.after_effect` — every operation has an effect
* `Session.after_of_rebuilds`, `Session.after_registry` — which operations touch names, and how
* `Session.after_steps` — every operation takes the canvas through steps
* `Session.Reachable.canvas_induction` — what all steps preserve holds of reachable sessions
-/

namespace Uiml

open Relation

namespace Session

theorem clear_steps (s : Session) :
    Canvas.Steps s.stage.canvas s.clear.value.stage.canvas := by
  rw [clear_value]
  exact .single .clear

theorem clearForLoad_steps (s : Session) :
    Canvas.Steps s.stage.canvas s.clearForLoad.value.stage.canvas := by
  rw [clearForLoad]
  cases s.config.clearOnLoad with
  | true => exact s.clear_steps
  | false => exact .refl

theorem Loading.steps {s s' : Session} (h : Loading s s') :
    Canvas.Steps s.stage.canvas s'.stage.canvas := by
  cases h with
  | unread => exact .refl
  | refused => exact s.clearForLoad_steps
  | compiled root bench hbench =>
    exact s.clearForLoad_steps.trans (Workbench.compileAll_steps hbench)

/-- Whether an operation does actions to widgets. -/
def Operation.acts : Operation → Bool
  | .execute _ _ _ | .tick _ => true
  | _ => false

/-- Whether an operation makes widgets, or takes them away. -/
def Operation.rebuilds : Operation → Bool
  | .load _ | .loadFile _ | .loadDocument _ | .clear => true
  | _ => false

/-- What an operation that does not break down does to the stage of a session. -/
inductive Effect (s : Session) : Operation → Session → Prop
  | loaded {op : Operation} {s' : Session} (hop : op.rebuilds = true) (h : Loading s s') :
      Effect s op s'
  | cleared : Effect s .clear s.clear.value
  | executed (element command : String) (args : List String) :
      Effect s (.execute element command args) (s.execute element command args).value.2
  | scheduled (delay : Float32) (element command : String) (args : List String) :
      Effect s (.schedule delay element command args) (s.schedule delay element command args)
  | progressed (element : String) (value : Float32) (animate : Bool) :
      Effect s (.setProgress element value animate) (s.setProgress element value animate).value.2
  | ticked (dt : Float32) : Effect s (.tick dt) (s.tick dt).value
  | linked {op : Operation} {s' : Session} (hop : op.acts = false)
      (hanimator : s'.stage.animator = s.stage.animator)
      (hcanvas : Canvas.Links s.stage.canvas s'.stage.canvas) : Effect s op s'

theorem after_effect {s s' : Session} {op : Operation} (h : s.after op = .ok s') :
    s.Effect op s' := by
  cases op <;> simp only [after] at h
  case load source => exact .loaded rfl (loading_of_map load_loading h)
  case loadFile path => exact .loaded rfl (loading_of_map loadFile_loading h)
  case loadDocument root => exact .loaded rfl (loading_of_map loadDocument_loading h)
  case clear => cases h; exact .cleared
  case execute element command args => cases h; exact .executed element command args
  case schedule delay element command args =>
    cases h; exact .scheduled delay element command args
  case setProgress element value animate => cases h; exact .progressed element value animate
  case tick dt => cases h; exact .ticked dt
  case listen => cases h; exact .linked rfl rfl .refl
  case invoke element event args =>
    cases h
    have hstage : (s.invoke element event args).value.2.stage = s.stage := by
      rw [invoke, Logged.bind_value]
      split <;> rfl
    exact .linked rfl (by rw [hstage]) (by rw [hstage])
  case takeEvents => cases h; exact .linked rfl rfl .refl
  case setText slot text =>
    cases h; exact .linked rfl rfl (s.slots.setText_displays s.stage.canvas slot text).links
  case request => cases h; exact .linked rfl rfl .refl
  case finish => cases h; exact .linked rfl rfl .refl
  case arrive => cases h; exact .linked rfl rfl .refl
  case wait timeout =>
    cases h; exact .linked rfl rfl (s.slots.wait_displays s.stage.canvas timeout).links
  case changeBinding element slot =>
    cases h
    cases hget : s.registry.get? element with
    | none =>
      rw [changeBinding_of_get?_eq_none hget]
      exact .linked rfl rfl .refl
    | some id =>
      rw [changeBinding_of_get? hget]
      exact .linked rfl rfl (s.slots.changeBinding_links s.stage.canvas slot id)
  case moveBinding source target place =>
    cases h
    exact .linked rfl rfl (s.slots.moveBinding_links s.stage.canvas source target place)
  case unbind element =>
    cases h
    cases hget : s.registry.get? element with
    | none =>
      rw [unbind_of_get?_eq_none hget]
      exact .linked rfl rfl .refl
    | some id =>
      rw [unbind_of_get? hget]
      exact .linked rfl rfl (s.slots.unbind_links s.stage.canvas id)
  case addBundle => cases h; exact .linked rfl rfl .refl
  case removeBundle => cases h; exact .linked rfl rfl .refl
  case setStrict => cases h; exact .linked rfl rfl .refl
  case clearCaches => cases h; exact .linked rfl rfl .refl

/-- To make widgets or to take them away is to clear or to load. -/
theorem after_of_rebuilds {s s' : Session} {op : Operation} (h : s.after op = .ok s')
    (hop : op.rebuilds = true) : s' = s.clear.value ∨ Loading s s' := by
  cases op <;> simp only [after] at h
  case load source => exact .inr (loading_of_map load_loading h)
  case loadFile path => exact .inr (loading_of_map loadFile_loading h)
  case loadDocument root => exact .inr (loading_of_map loadDocument_loading h)
  case clear => cases h; exact .inl rfl
  all_goals cases hop

/-- Where no widgets are made or taken away, names stay as they are. -/
theorem after_registry {s s' : Session} {op : Operation} (h : s.after op = .ok s')
    (hop : op.rebuilds = false) : s'.registry = s.registry := by
  cases op <;> simp only [after] at h
  case load | loadFile | loadDocument | clear => cases hop
  case setProgress =>
    cases h
    rw [setProgress]
    split <;> rfl
  case invoke =>
    cases h
    rw [invoke, Logged.bind_value]
    split <;> rfl
  case changeBinding =>
    cases h
    rw [changeBinding]
    split <;> rfl
  case unbind =>
    cases h
    rw [unbind]
    split <;> rfl
  all_goals cases h; rfl

/-- Whatever is done to a session, its canvas goes through steps. -/
theorem after_steps {s s' : Session} {op : Operation} (h : s.after op = .ok s') :
    Canvas.Steps s.stage.canvas s'.stage.canvas := by
  cases after_effect h with
  | loaded _ hloading => exact hloading.steps
  | cleared => exact s.clear_steps
  | executed element command args => exact (s.execute_changes element command args).steps
  | scheduled => exact .refl
  | progressed element value animate => exact (s.setProgress_changes element value animate).steps
  | ticked dt => exact (s.tick_changes dt).steps
  | linked _ _ hcanvas => exact hcanvas.steps

/-- What holds of an empty canvas and is preserved by every step holds of every canvas that a
session comes to. -/
theorem Reachable.canvas_induction {p : Canvas → Prop} (hnew : p ⟨.new, #[]⟩)
    (hstep : ∀ {canvas canvas'}, Canvas.Step canvas canvas' → p canvas → p canvas')
    {s : Session} (hs : Reachable s) : p s.stage.canvas := by
  induction hs with
  | new => exact hnew
  | after _ hafter ih => exact reflTransGen_preserves hstep (after_steps hafter) ih

end Session

end Uiml
