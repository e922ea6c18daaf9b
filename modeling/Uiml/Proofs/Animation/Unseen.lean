import Uiml.Proofs.Canvas.Change

/-!
# What cannot be seen of an animator

All that is done on a stage asks the animator for two things only: whether a value is to be given at
once, and the scale that a bounce comes back to. Animators that agree in these, and go on to do so
whatever is done to them, cannot be told apart: what is done on the one stage is done on the other.

## Main definitions

* `Animator.Unseen` — a relation between animators that cannot be told apart
* `Stage.Twins` — stages with the same canvas, and with animators that cannot be told apart

## Main results

* `Animator.Unseen.run` — an action does the same on both stages
* `Animator.Unseen.execute`, `Animator.Unseen.runSteps` — so do commands and steps
-/

namespace Uiml

/-- Animators that are so related give the same answers, and stay so related. -/
structure Animator.Unseen (r : Animator → Animator → Prop) : Prop where
  start : ∀ {a b}, r a b → ∀ id property source target duration,
    r (a.start id property source target duration).2 (b.start id property source target duration).2
  cancel : ∀ {a b}, r a b → ∀ id property, r (a.cancel id property) (b.cancel id property)
  cancelWidget : ∀ {a b}, r a b → ∀ id, r (a.cancelWidget id) (b.cancelWidget id)
  beginBounce : ∀ {a b}, r a b → ∀ id current half,
    (b.beginBounce id current half).1 = (a.beginBounce id current half).1 ∧
      r (a.beginBounce id current half).2 (b.beginBounce id current half).2
  settleBounce : ∀ {a b}, r a b → ∀ id,
    (b.settleBounce id).1 = (a.settleBounce id).1 ∧ r (a.settleBounce id).2 (b.settleBounce id).2

/-- Stages with the same canvas, and with related animators. -/
structure Stage.Twins (r : Animator → Animator → Prop) (stage stage' : Stage) : Prop where
  canvas : stage'.canvas = stage.canvas
  animator : r stage.animator stage'.animator

theorem Stage.Twins.withAnimator {r : Animator → Animator → Prop} {stage stage' : Stage}
    {a b : Animator} (ht : stage.Twins r stage') (h : r a b) :
    Stage.Twins r ⟨stage.canvas, a⟩ ⟨stage'.canvas, b⟩ := ⟨ht.canvas, h⟩

/-- An action fails on both stages for the same reason, or leaves both alike. -/
inductive Stage.TwinRuns (r : Animator → Animator → Prop) :
    Except CommandError (Logged Stage) → Except CommandError (Logged Stage) → Prop
  | error (e : CommandError) : TwinRuns r (.error e) (.error e)
  | ok {ran ran' : Logged Stage} (h : Stage.Twins r ran.value ran'.value) :
      TwinRuns r (.ok ran) (.ok ran')

namespace Animator

/-- Whether a value is to be given at once is a matter of the duration only. -/
theorem start_fst (a b : Animator) (id : WidgetId) (property : Property)
    (source target : TweenValue) (duration : Float32) :
    (b.start id property source target duration).1 =
      (a.start id property source target duration).1 := by
  rw [start, start]
  split <;> rfl

namespace Unseen

variable {r : Animator → Animator → Prop} {stage stage' : Stage} {config : Config}
  {registry : Registry} {id : WidgetId}

theorem widget? (ht : stage.Twins r stage') (id : WidgetId) :
    stage'.widget? id = stage.widget? id := congrArg (fun canvas => canvas.widget? id) ht.canvas

theorem homePosition (ht : stage.Twins r stage') (id : WidgetId) :
    stage'.homePosition id = stage.homePosition id := by
  rw [Stage.homePosition, Stage.homePosition, widget? ht]

theorem applyValue (ht : stage.Twins r stage') (id : WidgetId) (property : Property)
    (value : TweenValue) :
    (stage.applyValue id property value).value.Twins r
      (stage'.applyValue id property value).value :=
  ⟨congrArg (fun canvas => (canvas.applyValue id property value).value) ht.canvas, ht.animator⟩

/-- New values are given alike on both stages. -/
theorem applyUpdates (ht : stage.Twins r stage') (updates : List TweenUpdate) :
    (Session.applyUpdates stage updates).value.Twins r
      (Session.applyUpdates stage' updates).value := by
  rw [Session.applyUpdates, Session.applyUpdates, Logged.foldlM_value, Logged.foldlM_value]
  induction updates generalizing stage stage' with
  | nil => exact ht
  | cons u updates ih => exact ih (applyValue ht u.widget u.property u.value)

variable (hr : Unseen r)

include hr

theorem animate (ht : stage.Twins r stage') (id : WidgetId) (property : Property)
    (target : TweenValue) (duration : Float32) :
    (stage.animate id property target duration).value.Twins r
      (stage'.animate id property target duration).value := by
  rw [Stage.animate, Stage.animate, widget? ht]
  cases (stage.widget? id).bind fun h => h.property? property with
  | none => exact ht
  | some source =>
    have hstart := ht.withAnimator (hr.start ht.animator id property source target duration)
    simp only [start_fst stage.animator stage'.animator]
    split
    · exact hstart
    · exact applyValue hstart id property _

theorem reveal (ht : stage.Twins r stage') (id : WidgetId) (duration : Float32) :
    (stage.reveal id duration).value.Twins r (stage'.reveal id duration).value := by
  simp only [Stage.reveal, Logged.bind_value, homePosition ht]
  exact hr.animate (hr.animate (hr.animate ht ..) ..) ..

theorem slide (ht : stage.Twins r stage') (id : WidgetId) (direction : SlideDirection)
    (duration : Float32) :
    (stage.slide config id direction duration).value.Twins r
      (stage'.slide config id direction duration).value := by
  rw [Stage.slide, Stage.slide, widget? ht]
  cases stage.widget? id with
  | none => exact ht
  | some h => exact hr.animate ht ..

theorem conceal (ht : stage.Twins r stage') (id : WidgetId) (duration : Float32) :
    (stage.conceal config id duration).value.Twins r
      (stage'.conceal config id duration).value := by
  simp only [Stage.conceal, Logged.bind_value]
  exact hr.slide (hr.animate ht ..) ..

theorem bounce (ht : stage.Twins r stage') (id : WidgetId) (duration : Float32) :
    (stage.bounce config id duration).value.Twins r (stage'.bounce config id duration).value := by
  rw [Stage.bounce, Stage.bounce, widget? ht]
  cases stage.widget? id with
  | none => exact ht
  | some h =>
    obtain ⟨hrest, hbegun⟩ := hr.beginBounce ht.animator id h.transform.scale (duration / 2)
    simp only [hrest]
    exact hr.animate (ht.withAnimator hbegun) ..

theorem restore (ht : stage.Twins r stage') (id : WidgetId) :
    (stage.restore id).Twins r (stage'.restore id) := by
  have hcancelled := hr.cancelWidget ht.animator id
  rw [Stage.restore, Stage.restore, widget? ht, ht.canvas]
  cases stage.widget? id with
  | none => exact ⟨rfl, hcancelled⟩
  | some h =>
    simp only
    cases h.home.toggleOn with
    | none => exact ⟨rfl, hcancelled⟩
    | some isOn => exact ⟨rfl, hcancelled⟩

variable (config registry)

/-- An action does the same on both stages. -/
theorem run (ht : stage.Twins r stage') (id : WidgetId) (action : Action) :
    Stage.TwinRuns r (action.run config id stage) (action.run config id stage') := by
  cases action with
  | «show» duration => exact .ok (hr.reveal ht id duration)
  | hide duration => exact .ok (hr.conceal ht id duration)
  | toggle duration =>
    simp only [Action.run, widget? ht]
    refine .ok ?_
    split
    · exact hr.conceal ht id duration
    · exact hr.reveal ht id duration
  | fade alpha duration => exact .ok (hr.animate ht ..)
  | moveTo position duration => exact .ok (hr.animate ht ..)
  | moveHome duration =>
    simp only [Action.run, homePosition ht]
    exact .ok (hr.animate ht ..)
  | scale factor duration => exact .ok (hr.animate ht ..)
  | slide direction duration => exact .ok (hr.slide ht ..)
  | bounce duration => exact .ok (hr.bounce ht id duration)
  | setAlpha alpha =>
    exact .ok (applyValue (ht.withAnimator (hr.cancel ht.animator id .alpha)) ..)
  | setInteractable interactable =>
    simp only [Action.run, ht.canvas]
    exact .ok ⟨rfl, ht.animator⟩
  | setText text =>
    simp only [Action.run, widget? ht, ht.canvas]
    cases stage.widget? id with
    | none => exact .ok ht
    | some h =>
      simp only
      split
      · exact .ok ⟨rfl, ht.animator⟩
      · exact .error _
  | restore => exact .ok (hr.restore ht id)

theorem dispatch (ht : stage.Twins r stage') (element command : String) (args : List String) :
    Stage.TwinRuns r (Command.dispatch config registry stage element command args)
      (Command.dispatch config registry stage' element command args) := by
  rw [Command.dispatch, Command.dispatch]
  cases registry.get? element with
  | none => exact .error _
  | some id =>
    cases Command.ofName? command with
    | none => exact .error _
    | some builtin =>
      simp only
      cases Action.read builtin ⟨command, args, config.defaultDuration⟩ with
      | error e => exact .error e
      | ok action =>
        simp only [bind, Except.bind]
        -- the lines that come before those of the action do not matter
        have hrun := hr.run config ht id action.value
        generalize action.value.run config id stage = ran,
          action.value.run config id stage' = ran' at hrun
        cases hrun with
        | error e => exact .error e
        | ok h => exact .ok h

/-- A command does the same on both stages, and fails for the same reasons. -/
theorem execute (ht : stage.Twins r stage') (element command : String) (args : List String) :
    (Command.execute config registry stage' element command args).value.1 =
      (Command.execute config registry stage element command args).value.1 ∧
    (Command.execute config registry stage element command args).value.2.Twins r
      (Command.execute config registry stage' element command args).value.2 := by
  rw [Command.execute_value, Command.execute_value]
  have hdispatch := hr.dispatch config registry ht element command args
  generalize Command.dispatch config registry stage element command args = done,
    Command.dispatch config registry stage' element command args = done' at hdispatch
  cases hdispatch with
  | error e => exact ⟨rfl, ht⟩
  | ok h => exact ⟨rfl, h⟩

theorem runStep (ht : stage.Twins r stage') (step : Step) :
    (step.run config registry stage).value.Twins r (step.run config registry stage').value := by
  cases step with
  | tween id property target duration => exact hr.animate ht ..
  | settle id duration =>
    obtain ⟨hrest, hsettled⟩ := hr.settleBounce ht.animator id
    simp only [Step.run, hrest]
    split
    · exact ht.withAnimator hsettled
    · exact hr.animate (ht.withAnimator hsettled) ..
  | command element name args => exact (hr.execute config registry ht element name args).2

/-- Steps that have come due do the same on both stages. -/
theorem runSteps (ht : stage.Twins r stage') (steps : List Step) :
    (Session.runSteps config registry stage steps).value.Twins r
      (Session.runSteps config registry stage' steps).value := by
  rw [Session.runSteps, Session.runSteps, Logged.foldlM_value, Logged.foldlM_value]
  induction steps generalizing stage stage' with
  | nil => exact ht
  | cons step steps ih => exact ih (hr.runStep config registry ht step)

end Unseen

end Animator

end Uiml
