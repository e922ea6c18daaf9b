import Uiml.Proofs.Animation.Queue
import Uiml.Proofs.Session.Effect

/-!
# Histories

A run of a session is told by the actions that are done in it: each of them, the widget that it is
done to, and the stage that it finds. Actions are done by commands, at once or when they come due.

## Main definitions

* `Happening` — an action, its widget, and the stage that it is done on
* `Session.happenings` — the actions that an operation does
* `Session.Run` — operations between loads, with all actions that they do

## Main results

* `Step.run_command`, `Step.run_settle` — what the steps do
* `Session.runSteps_history` — what every due step keeps, as the history goes on, holds in the end
-/

namespace Uiml

/-- An action that is done to a widget, and the stage that it finds. -/
structure Happening where
  stage : Stage
  widget : WidgetId
  action : Action

/-- The action that a step comes to. Ways back of bounces are no actions of their own. -/
def Step.happening? (config : Config) (registry : Registry) (stage : Stage) :
    Step → Option Happening
  | .command element name args =>
    (Command.deed? config registry stage element name args).map fun deed =>
      ⟨stage, deed.1, deed.2⟩
  | .tween _ _ _ _ | .settle _ _ => none

/-- A command either comes to nothing and leaves the stage alone, or to its happening. -/
theorem Step.run_command (config : Config) (registry : Registry) (stage : Stage)
    (element name : String) (args : List String) :
    ((Step.command element name args).happening? config registry stage = none ∧
      ((Step.command element name args).run config registry stage).value = stage) ∨
    ∃ id action ran,
      (Step.command element name args).happening? config registry stage =
        some ⟨stage, id, action⟩ ∧
      action.run config id stage = .ok ran ∧
      ((Step.command element name args).run config registry stage).value = ran.value := by
  simp only [happening?, run, Logged.bind_value, Logged.pure_value]
  cases hdeed : Command.deed? config registry stage element name args with
  | none =>
    obtain ⟨e, he⟩ := Command.execute_of_deed?_eq_none hdeed
    exact .inl ⟨rfl, by rw [he]⟩
  | some deed =>
    obtain ⟨ran, hrun, hexecute⟩ := Command.execute_of_deed? hdeed
    exact .inr ⟨deed.1, deed.2, ran, rfl, hrun, by rw [hexecute]⟩

/-- The way back of a bounce leads to the scale that is remembered, if one is. -/
theorem Step.run_settle (config : Config) (registry : Registry) (stage : Stage) (id : WidgetId)
    (duration : Float32) :
    ((Step.settle id duration).run config registry stage).value =
      match stage.animator.bounces.get? id with
      | none => ⟨stage.canvas, (stage.animator.settleBounce id).2⟩
      | some rest =>
        (Stage.animate ⟨stage.canvas, (stage.animator.settleBounce id).2⟩ id .scale
          (.vec3 rest.scale) duration).value := by
  have hrest := stage.animator.settleBounce_fst id
  -- all that matters is the scale that the animator gives back
  rw [run]
  generalize stage.animator.settleBounce id = settled at hrest ⊢
  obtain ⟨rest?, animator⟩ := settled
  simp only at hrest
  subst hrest
  cases stage.animator.bounces.get? id <;> rfl

namespace Session

/-- The actions that steps do, one after the other. -/
def stepHappenings (config : Config) (registry : Registry) : Stage → List Step → List Happening
  | _, [] => []
  | stage, step :: due =>
    (step.happening? config registry stage).toList ++
      stepHappenings config registry (step.run config registry stage).value due

/-- The stage of a session after a number of seconds, before the steps that are due then. -/
def moved (s : Session) (dt : Float32) : Stage :=
  let (advance, animator) := s.stage.animator.advance dt
  (applyUpdates { s.stage with animator } advance.updates).value

/-- The actions that an operation does. -/
def happenings (s : Session) : Operation → List Happening
  | .execute element command args =>
    ((Step.command element command args).happening? s.config s.registry s.stage).toList
  | .tick dt =>
    stepHappenings s.config s.registry (s.moved dt) (s.stage.animator.advance dt).1.due
  | _ => []

theorem happenings_of_acts {s : Session} {op : Operation} (h : op.acts = false) :
    s.happenings op = [] := by
  cases op <;> first | rfl | cases h

theorem acts_of_rebuilds {op : Operation} (hop : op.rebuilds = true) : op.acts = false := by
  cases op <;> first | rfl | cases hop

/-- Operations on a session that neither make nor take away widgets, and the actions that they
do. -/
inductive Run (s : Session) : List Happening → Session → Prop
  | nil : Run s [] s
  | after {t u : Session} {op : Operation} {done : List Happening} (hrun : Run s done t)
      (hop : op.rebuilds = false) (hafter : t.after op = .ok u) :
      Run s (done ++ t.happenings op) u

/-- The run of a list of operations, if none of them breaks down or is none of a run. -/
def play (s : Session) (ops : List Operation) : Option (List Happening × Session) :=
  ops.foldlM (fun (done, t) op =>
    if op.rebuilds then none
    else (t.after op).toOption.map fun u => (done ++ t.happenings op, u)) ([], s)

theorem run_of_play {s t : Session} {ops : List Operation} {done : List Happening}
    (h : s.play ops = some (done, t)) : Run s done t := by
  -- the run so far is carried along
  have hfold : ∀ (ops : List Operation) (before : List Happening × Session),
      Run s before.1 before.2 → ops.foldlM (fun (done, t) op =>
        if op.rebuilds then none
        else (t.after op).toOption.map fun u => (done ++ t.happenings op, u)) before =
          some (done, t) → Run s done t := by
    intro ops
    induction ops with
    | nil =>
      intro before hrun hends
      cases hends
      exact hrun
    | cons op ops ih =>
      intro before hrun hends
      rw [List.foldlM_cons] at hends
      obtain ⟨next, hnext, hends⟩ := Option.bind_eq_some_iff.mp hends
      refine ih next ?_ hends
      cases hop : op.rebuilds with
      | true => simp [hop] at hnext
      | false =>
        cases hafter : before.2.after op with
        | error breakdown => simp [hop, hafter, Except.toOption] at hnext
        | ok u =>
          simp only [hop, hafter, Except.toOption, Bool.false_eq_true, if_false, Option.map_some,
            Option.some.injEq] at hnext
          subst hnext
          exact hrun.after hop hafter
  exact hfold ops ([], s) .nil h

theorem Run.reachable {s t : Session} {done : List Happening} (h : Run s done t)
    (hs : Reachable s) : Reachable t := by
  induction h with
  | nil => exact hs
  | after _ _ hafter ih => exact .after ih hafter

/-- What every step keeps, as the history goes on and the step is taken from those that are due,
holds when none is left. -/
theorem runSteps_history (config : Config) (registry : Registry)
    {p : List Happening → Stage → List Step → Prop}
    (hstep : ∀ {done stage step due}, p done stage (step :: due) →
      p (done ++ (step.happening? config registry stage).toList)
        (step.run config registry stage).value due)
    (due : List Step) (done : List Happening) (stage : Stage) (h : p done stage due) :
    p (done ++ stepHappenings config registry stage due)
      (runSteps config registry stage due).value [] := by
  rw [runSteps, Logged.foldlM_value]
  induction due generalizing done stage with
  | nil =>
    rw [stepHappenings, List.append_nil]
    exact h
  | cons step due ih =>
    rw [stepHappenings, ← List.append_assoc]
    exact ih _ _ (hstep h)

end Session

end Uiml
