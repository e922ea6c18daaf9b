import Uiml.Proofs.Session.History

/-!
# Tidy animators

The animator of a session keeps its books: at most one animation runs for each property of a widget,
no animation is ever queued, and the bounces that are remembered of a widget are no more than those
of which the way back is still to come. When no way back is to come, no bounce is remembered.

## Main definitions

* `Animator.Tidy` — the books are in order

## Main results

* `Stage.Change.tidy`, `Step.run_tidy`, `Animator.Tidy.advance` — what a running session does keeps
  them so
* `Session.Reachable.tidy` — they are in order in every reachable session
-/

namespace Uiml

/-- The books of an animator are in order, if `due` is what is left of the steps that have come
due. -/
structure Animator.Tidy (a : Animator) (due : List Step) : Prop where
  distinct : a.tracks.Distinct
  noTween : ∀ widget property target duration, .tween widget property target duration ∉ a.toDo due
  owed : ∀ w rest, a.bounces.get? w = some rest → 1 ≤ rest.pending ∧ rest.pending ≤ a.waysBack due w

variable {a : Animator} {due : List Step} {id w : WidgetId}

namespace Animator.Tidy

theorem clear (a : Animator) : a.clear.Tidy [] where
  distinct := Table.distinct_empty
  noTween := fun _ _ _ _ h => List.not_mem_nil h
  owed := fun _ _ h => nomatch h

/-- Without a way back to come there is no bounce. -/
theorem get?_bounces_eq_none (h : a.Tidy due) (hnone : a.waysBack due w = 0) :
    a.bounces.get? w = none := by
  cases hrest : a.bounces.get? w with
  | none => rfl
  | some rest =>
    have howed := h.owed w rest hrest
    omega

theorem start (h : a.Tidy due) (property : Property) (source target : TweenValue)
    (duration : Float32) : (a.start id property source target duration).2.Tidy due where
  distinct := start_distinct a id property source target duration h.distinct
  noTween := by
    rw [start_toDo]
    exact h.noTween
  owed := by
    simp only [start_bounces, start_waysBack]
    exact h.owed

theorem cancel (h : a.Tidy due) (property : Property) : (a.cancel id property).Tidy due where
  distinct := h.distinct.erase _
  noTween := h.noTween
  owed := h.owed

theorem cancelWidget (h : a.Tidy due) : (a.cancelWidget id).Tidy due where
  distinct := h.distinct.filterKeys _
  noTween := fun widget property target duration hmem =>
    h.noTween widget property target duration ((a.toDo_cancelWidget_sublist due id).subset hmem)
  owed := by
    intro w rest hrest
    rw [get?_bounces_cancelWidget] at hrest
    split at hrest
    · cases hrest
    · next hne =>
      rw [a.waysBack_cancelWidget_of_ne due id w hne]
      exact h.owed w rest hrest

theorem schedule (h : a.Tidy due) (delay : Float32) {step : Step}
    (hstep : ∀ widget property target duration, step ≠ .tween widget property target duration) :
    (a.schedule delay step).Tidy due where
  distinct := h.distinct
  noTween := by
    intro widget property target duration hmem
    simp only [toDo, Animator.schedule, List.map_append, List.map_cons, List.map_nil,
      List.mem_append, List.mem_singleton] at hmem
    rcases hmem with hmem | hmem | hmem
    · exact h.noTween widget property target duration (List.mem_append_left _ hmem)
    · exact h.noTween widget property target duration (List.mem_append_right _ hmem)
    · exact hstep widget property target duration hmem.symm
  owed := by
    intro w rest hrest
    obtain ⟨hpos, hle⟩ := h.owed w rest hrest
    rw [waysBack_schedule]
    exact ⟨hpos, Nat.le_add_right_of_le hle⟩

theorem beginBounce (h : a.Tidy due) (current : Vec3) (half : Float32) :
    (a.beginBounce id current half).2.Tidy due where
  distinct := h.distinct
  noTween := by
    have hscheduled : (a.schedule half (.settle id half)).Tidy due :=
      h.schedule half fun _ _ _ _ he => nomatch he
    exact hscheduled.noTween
  owed := by
    intro w rest hrest
    rw [get?_bounces_beginBounce] at hrest
    rw [waysBack_beginBounce]
    -- one bounce more is remembered of the widget, and one way back more is to come
    by_cases hw : w = id
    · subst hw
      rw [if_pos rfl] at hrest
      cases hrest
      simp only [if_true]
      cases hold : a.bounces.get? w with
      | none => exact ⟨by simp, by simp⟩
      | some old =>
        have howed := h.owed w old hold
        simp only [Option.getD_some]
        omega
    · rw [if_neg hw] at hrest
      have howed := h.owed w rest hrest
      omega

/-- A step that is not the way back of a bounce makes no difference to the bounces. -/
theorem tail {step : Step} (h : a.Tidy (step :: due)) (hstep : ∀ w, step.isWayBack w = false) :
    a.Tidy due where
  distinct := h.distinct
  noTween := fun widget property target duration hmem =>
    h.noTween widget property target duration (List.mem_cons_of_mem _ hmem)
  owed := by
    intro w rest hrest
    have howed := h.owed w rest hrest
    rw [waysBack_cons, hstep] at howed
    exact howed

/-- The way back of a bounce is one less to come, and one bounce less is remembered. -/
theorem settleBounce {duration : Float32} (h : a.Tidy (.settle id duration :: due)) :
    (a.settleBounce id).2.Tidy due where
  distinct := by
    rw [settleBounce_tracks]
    exact h.distinct
  noTween := by
    rw [settleBounce_toDo]
    exact fun widget property target duration hmem =>
      h.noTween widget property target duration (List.mem_cons_of_mem _ hmem)
  owed := by
    intro w rest hrest
    rw [get?_bounces_settleBounce] at hrest
    rw [settleBounce_waysBack]
    by_cases hw : w = id
    · subst hw
      rw [if_pos rfl] at hrest
      obtain ⟨old, hold, hrest⟩ := Option.bind_eq_some_iff.mp hrest
      have howed := h.owed w old hold
      rw [waysBack_cons] at howed
      simp only [Step.isWayBack, decide_true, if_true] at howed
      -- unless this was the last, at least one is left on either side
      split at hrest
      · cases hrest
      · cases hrest
        simp only
        omega
    · rw [if_neg hw] at hrest
      have howed := h.owed w rest hrest
      rw [waysBack_cons] at howed
      simp only [Step.isWayBack, decide_eq_true_eq, if_neg (Ne.symm hw)] at howed
      exact howed

theorem advance (h : a.Tidy []) (dt : Float32) : (a.advance dt).2.Tidy (a.advance dt).1.due where
  distinct := (a.moved_distinct h.distinct dt).filter _
  noTween := fun widget property target duration hmem =>
    h.noTween widget property target duration ((a.advance_toDo dt).mem_iff.mp hmem)
  owed := by
    intro w rest hrest
    rw [advance_waysBack]
    exact h.owed w rest hrest

end Animator.Tidy

theorem Stage.Change.tidy {stage stage' : Stage} (h : Stage.Change id stage stage')
    (htidy : stage.animator.Tidy due) : stage'.animator.Tidy due := by
  cases h with
  | widget => exact htidy
  | start property source target duration => exact htidy.start property source target duration
  | cancel property => exact htidy.cancel property
  | cancelWidget => exact htidy.cancelWidget
  | beginBounce current half => exact htidy.beginBounce current half

theorem Stage.ChangesOf.tidy {stage stage' : Stage} (h : Stage.ChangesOf id stage stage')
    (htidy : stage.animator.Tidy due) : stage'.animator.Tidy due :=
  reflTransGen_preserves (p := fun stage => stage.animator.Tidy due)
    (fun hchange ht => hchange.tidy ht) h htidy

/-- A step that is done keeps the books in order. -/
theorem Step.run_tidy {config : Config} {registry : Registry} {stage : Stage} {step : Step}
    (h : stage.animator.Tidy (step :: due)) :
    (step.run config registry stage).value.animator.Tidy due := by
  cases step with
  | tween widget property target duration =>
    exact absurd List.mem_cons_self (h.noTween widget property target duration)
  | settle widget duration =>
    have hsettled := h.settleBounce
    rw [run_settle]
    cases stage.animator.bounces.get? widget with
    | none => exact hsettled
    | some rest =>
      have hchanges := Stage.animate_changesOf
        ⟨stage.canvas, (stage.animator.settleBounce widget).2⟩ widget .scale (.vec3 rest.scale)
        duration
      exact Stage.ChangesOf.tidy hchanges hsettled
  | command element name args =>
    obtain ⟨id, -, hchanges⟩ := Command.execute_changesOf config registry stage element name args
    exact hchanges.tidy (h.tail fun _ => rfl)

namespace Session

theorem applyUpdates_animator (stage : Stage) (updates : List TweenUpdate) :
    (applyUpdates stage updates).value.animator = stage.animator := by
  rw [applyUpdates, Logged.foldlM_value]
  induction updates generalizing stage with
  | nil => rfl
  | cons u updates ih => exact ih _

theorem tick_tidy {s : Session} (h : s.stage.animator.Tidy []) (dt : Float32) :
    (s.tick dt).value.stage.animator.Tidy [] := by
  simp only [tick, Logged.bind_value, Logged.pure_value]
  refine runSteps_history s.config s.registry (p := fun _ stage due => stage.animator.Tidy due)
    Step.run_tidy _ [] _ ?_
  rw [applyUpdates_animator]
  exact h.advance dt

theorem clearForLoad_tidy {s : Session} (h : s.stage.animator.Tidy []) :
    s.clearForLoad.value.stage.animator.Tidy [] := by
  rw [clearForLoad]
  cases s.config.clearOnLoad with
  | true => exact .clear s.stage.animator
  | false => exact h

theorem Loading.tidy {s s' : Session} (h : Loading s s') (htidy : s.stage.animator.Tidy []) :
    s'.stage.animator.Tidy [] := by
  cases h with
  | unread => exact htidy
  | refused => exact clearForLoad_tidy htidy
  | compiled => exact clearForLoad_tidy htidy

theorem Effect.tidy {s s' : Session} {op : Operation} (h : Effect s op s')
    (htidy : s.stage.animator.Tidy []) : s'.stage.animator.Tidy [] := by
  cases h with
  | loaded _ hloading => exact hloading.tidy htidy
  | cleared => exact .clear s.stage.animator
  | executed element command args =>
    obtain ⟨id, -, hchanges⟩ :=
      Command.execute_changesOf s.config s.registry s.stage element command args
    exact hchanges.tidy htidy
  | scheduled delay element command args => exact htidy.schedule delay fun _ _ _ _ he => nomatch he
  | progressed element value animate =>
    rw [setProgress]
    cases s.progressBar? element with
    | error e => exact htidy
    | ok id =>
      have hchanges := s.stage.animate_changesOf id .progress (.scalar value)
        (if animate then progressSeconds else 0)
      exact hchanges.tidy htidy
  | ticked dt => exact tick_tidy htidy dt
  | linked _ hanimator =>
    rw [hanimator]
    exact htidy

/-- In every reachable session the books of the animator are in order. -/
theorem Reachable.tidy {s : Session} (hs : Reachable s) : s.stage.animator.Tidy [] := by
  induction hs with
  | new => exact .clear {}
  | after _ hafter ih => exact (after_effect hafter).tidy ih

end Session

end Uiml
