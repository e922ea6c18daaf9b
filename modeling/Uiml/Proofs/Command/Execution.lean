import Uiml.Command.Execute

/-!
# What commands come to

A command given by names and texts either fails and leaves the stage alone, or comes to an action
that is done to a widget. Everything that is said about commands goes through this alternative.

## Main definitions

* `Command.deed?` — the action that a command comes to, and the widget that it is done to

## Main results

* `Command.execute_of_deed?_eq_none`, `Command.execute_of_deed?` — the two outcomes of a command
* `Command.get?_of_deed?` — the widget is the one of the element's name
-/

namespace Uiml.Command

variable {config : Config} {registry : Registry} {stage : Stage} {element command : String}
  {args : List String} {id : WidgetId} {action : Action}

/-- The action that a command comes to and the widget that it is done to, if it does not fail. -/
def deed? (config : Config) (registry : Registry) (stage : Stage) (element command : String)
    (args : List String) : Option (WidgetId × Action) := do
  let id ← registry.get? element
  let builtin ← ofName? command
  match Action.read builtin ⟨command, args, config.defaultDuration⟩ with
  | .error _ => none
  | .ok action =>
    match action.value.run config id stage with
    | .error _ => none
    | .ok _ => some (id, action.value)

theorem dispatch_eq_error_of_deed?_eq_none
    (h : deed? config registry stage element command args = none) :
    ∃ e, dispatch config registry stage element command args = .error e := by
  -- the four ways to fail are taken one after the other, as a command takes them
  rw [dispatch]
  cases hget : registry.get? element with
  | none => exact ⟨_, rfl⟩
  | some id =>
    cases hname : ofName? command with
    | none => exact ⟨_, rfl⟩
    | some builtin =>
      cases hread : Action.read builtin ⟨command, args, config.defaultDuration⟩ with
      | error e => exact ⟨e, by simp [hread, bind, Except.bind]⟩
      | ok action =>
        cases hrun : action.value.run config id stage with
        | error e => exact ⟨e, by simp [hread, hrun, bind, Except.bind]⟩
        | ok ran => simp [deed?, hget, hname, hread, hrun] at h

theorem dispatch_of_deed?
    (h : deed? config registry stage element command args = some (id, action)) :
    ∃ ran lines, action.run config id stage = .ok ran ∧
      dispatch config registry stage element command args = .ok ⟨ran.value, lines⟩ := by
  rw [dispatch]
  cases hget : registry.get? element with
  | none => simp [deed?, hget] at h
  | some id' =>
    cases hname : ofName? command with
    | none => simp [deed?, hget, hname] at h
    | some builtin =>
      cases hread : Action.read builtin ⟨command, args, config.defaultDuration⟩ with
      | error e => simp [deed?, hget, hname, hread] at h
      | ok action' =>
        cases hrun : action'.value.run config id' stage with
        | error e => simp [deed?, hget, hname, hread, hrun] at h
        | ok ran =>
          simp only [deed?, hget, hname, hread, hrun, Option.bind_eq_bind, Option.bind_some,
            Option.some.injEq, Prod.mk.injEq] at h
          obtain ⟨rfl, rfl⟩ := h
          exact ⟨ran, _, hrun, by simp [hread, hrun, bind, Except.bind]; rfl⟩

/-- A command leaves the stage to what it is dispatched to, or as it was. -/
theorem execute_value (config : Config) (registry : Registry) (stage : Stage)
    (element command : String) (args : List String) :
    (execute config registry stage element command args).value =
      match (dispatch config registry stage element command args).map Logged.value with
      | .ok ran => (.ok (), ran)
      | .error e => (.error e, stage) := by
  rw [execute]
  cases dispatch config registry stage element command args <;> rfl

/-- A command that comes to nothing fails, and the stage stays as it was. -/
theorem execute_of_deed?_eq_none (h : deed? config registry stage element command args = none) :
    ∃ e, (execute config registry stage element command args).value = (.error e, stage) := by
  obtain ⟨e, he⟩ := dispatch_eq_error_of_deed?_eq_none h
  refine ⟨e, ?_⟩
  rw [execute_value, he]
  rfl

/-- A command that comes to an action succeeds, and leaves the stage to what the action does. -/
theorem execute_of_deed?
    (h : deed? config registry stage element command args = some (id, action)) :
    ∃ ran, action.run config id stage = .ok ran ∧
      (execute config registry stage element command args).value = (.ok (), ran.value) := by
  obtain ⟨ran, lines, hrun, hdispatch⟩ := dispatch_of_deed? h
  refine ⟨ran, hrun, ?_⟩
  rw [execute_value, hdispatch]
  rfl

/-- A command comes to an action on the widget that its element's name leads to. -/
theorem get?_of_deed?
    (h : deed? config registry stage element command args = some (id, action)) :
    registry.get? element = some id := by
  obtain ⟨id', hget, h⟩ := Option.bind_eq_some_iff.mp h
  obtain ⟨builtin, -, h⟩ := Option.bind_eq_some_iff.mp h
  split at h
  · cases h
  · split at h
    · cases h
    · obtain ⟨rfl, -⟩ := Prod.mk.inj (Option.some.inj h)
      exact hget

end Uiml.Command
