import Uiml.Proofs.Animation.Continuous
import Uiml.Proofs.Animation.Punctual
import Uiml.Proofs.Animation.Target
import Uiml.Proofs.Canvas.Bar
import Uiml.Proofs.Session.Moment

/-!
# Moderate progress

Commands animate the opacity, the place and the size of widgets, and none of them a progress bar. So
whatever action is done, bars show what they showed, and no bar moves that did not move before; at
most a widget that is restored ends the animation of its bar where it is.

As long as bars have bounds that are far from the ends of the line, and move to such numbers only,
an animation of a bar never shows what is no number, however much time passes and in what steps: the
way from the one number to the other is finite, and so is the share of it that has been gone.

## Main definitions

* `Stage.LeavesProgress` — bars are left alone, and no animation of one is started
* `ProgressBar.IsModerate`, `Track.IsModerate` — a bar has moderate bounds, an animation leads from
  a moderate number to another
* `Stage.IsModerate` — all bars of a stage are moderate, and so are the animations of them

## Main results

* `Action.run_leavesProgress`, `Step.run_leavesProgress` — actions and steps leave progress alone
* `ProgressBar.IsModerate.inRange`, `ProgressBar.IsModerate.fits` — a moderate bar is as it should
  be
* `Track.IsModerate.value` — a moderate animation shows numbers
* `Stage.IsModerate.animate`, `Session.tick_isModerate` — moderate stages stay moderate
-/

namespace Uiml

/-! ### What leaves progress alone -/

section LeavingAlone

variable {id w : WidgetId} {property : Property} {stage stage' stage'' : Stage}
  {config : Config} {registry : Registry} {action : Action} {ran : Logged Stage}

/-- What is restored is no other bar than before. -/
theorem Handle.bar?_restored (h : Handle) : h.restored.bar? = h.bar? := by
  cases htoggle : h.home.toggleOn <;> cases hparts : h.parts <;>
    simp [bar?, restored, reset, htoggle, hparts]

namespace Stage

/-- Bars are left alone, and no animation of one is started. -/
structure LeavesProgress (stage stage' : Stage) : Prop where
  bar : ∀ w, stage'.canvas.bar? w = stage.canvas.bar? w
  track : ∀ w track, stage'.animator.tracks.get? (w, .progress) = some track →
    stage.animator.tracks.get? (w, .progress) = some track

theorem LeavesProgress.refl (stage : Stage) : LeavesProgress stage stage :=
  ⟨fun _ => rfl, fun _ _ h => h⟩

theorem LeavesProgress.trans (h : LeavesProgress stage stage')
    (h' : LeavesProgress stage' stage'') : LeavesProgress stage stage'' :=
  ⟨fun w => (h'.bar w).trans (h.bar w),
    fun w track htrack => h.track w track (h'.track w track htrack)⟩

theorem leavesProgress_of_sameCourse (hchanges : ChangesOf id stage stage')
    (h : ∀ w, SameCourse w .progress stage stage') : LeavesProgress stage stage' where
  bar := fun w => hchanges.onCanvas.changes.bar?_eq (h w).value
  track := fun w _ htrack => (h w).track.symm.trans htrack

/-- An animation of something else leaves progress alone. -/
theorem animate_leavesProgress (hne : property ≠ .progress) (target : TweenValue)
    (duration : Float32) :
    LeavesProgress stage (stage.animate id property target duration).value :=
  leavesProgress_of_sameCourse (stage.animate_changesOf id property target duration) fun _ =>
    animate_sameCourse (fun he => hne (congrArg Prod.snd he)) target duration

theorem reveal_leavesProgress (id : WidgetId) (duration : Float32) :
    LeavesProgress stage (stage.reveal id duration).value := by
  simp only [reveal, Logged.bind_value]
  exact ((animate_leavesProgress (by simp) _ _).trans (animate_leavesProgress (by simp) _ _)).trans
    (animate_leavesProgress (by simp) _ _)

theorem slide_leavesProgress (id : WidgetId) (direction : SlideDirection) (duration : Float32) :
    LeavesProgress stage (stage.slide config id direction duration).value := by
  rw [slide]
  cases stage.widget? id with
  | none => exact .refl stage
  | some h => exact animate_leavesProgress (by simp) _ _

theorem conceal_leavesProgress (id : WidgetId) (duration : Float32) :
    LeavesProgress stage (stage.conceal config id duration).value := by
  simp only [conceal, Logged.bind_value]
  exact (animate_leavesProgress (by simp) _ _).trans (slide_leavesProgress id .left duration)

theorem bounce_leavesProgress (id : WidgetId) (duration : Float32) :
    LeavesProgress stage (stage.bounce config id duration).value := by
  rw [bounce]
  cases stage.widget? id with
  | none => exact .refl stage
  | some h =>
    have hbegun : LeavesProgress stage
        ⟨stage.canvas, (stage.animator.beginBounce id h.transform.scale (duration / 2)).2⟩ :=
      ⟨fun _ => rfl, fun _ _ htrack => htrack⟩
    exact hbegun.trans (animate_leavesProgress (by simp) _ _)

/-- A bar that is restored stays where it is, and no longer moves. -/
theorem restore_leavesProgress (stage : Stage) (id : WidgetId) :
    LeavesProgress stage (stage.restore id) where
  bar := by
    intro w
    have hchanges : ChangesOf id stage (stage.restore id) := (stage.restore_works id).changesOf
    by_cases hw : w = id
    · subst hw
      cases hid : stage.canvas.widget? w with
      | none => rw [restore, widget?, hid]
      | some h =>
        rw [Canvas.bar?, Canvas.bar?, widget?_restore hid, hid]
        exact h.bar?_restored
    · rw [Canvas.bar?, Canvas.bar?, hchanges.onCanvas.widget?_of_ne hw]
  track := by
    intro w track htrack
    rw [restore_animator, Animator.cancelWidget, Table.get?_filterKeys] at htrack
    split at htrack
    · exact htrack
    · cases htrack

end Stage

/-- No action has to do with progress, apart from restoring a widget, which ends its animations. -/
theorem Action.run_leavesProgress (h : action.run config id stage = .ok ran) :
    Stage.LeavesProgress stage ran.value := by
  have hchanges : Stage.ChangesOf id stage ran.value := run_changesOf h
  cases action with
  | «show» duration => cases h; exact Stage.reveal_leavesProgress id duration
  | hide duration => cases h; exact Stage.conceal_leavesProgress id duration
  | toggle duration =>
    rw [run_toggle] at h
    cases h
    split
    · exact Stage.conceal_leavesProgress id duration
    · exact Stage.reveal_leavesProgress id duration
  | fade | moveTo | moveHome | scale => cases h; exact Stage.animate_leavesProgress (by simp) _ _
  | slide direction duration => cases h; exact Stage.slide_leavesProgress id direction duration
  | bounce duration => cases h; exact Stage.bounce_leavesProgress id duration
  | restore => cases h; exact stage.restore_leavesProgress id
  | setAlpha alpha =>
    -- to be given an opacity ends an animation, but of the opacity only
    cases h
    exact Stage.leavesProgress_of_sameCourse hchanges fun w =>
      ⟨Canvas.property?_applyValue_of_ne (by simp) _,
        (Table.get?_erase ..).trans (if_neg (by simp)), hchanges.keepsWidgets⟩
  | setInteractable interactable =>
    cases h
    exact Stage.leavesProgress_of_sameCourse hchanges fun w =>
      ⟨stage.canvas.property?_setInteractable interactable, rfl, hchanges.keepsWidgets⟩
  | setText text =>
    simp only [run] at h
    split at h
    · cases h
      exact .refl stage
    · split at h
      · cases h
        exact ⟨fun w => Canvas.bar?_of_stem (Canvas.Display.stem (.text text)), fun _ _ h => h⟩
      · cases h

theorem Command.execute_leavesProgress (config : Config) (registry : Registry) (stage : Stage)
    (element command : String) (args : List String) :
    Stage.LeavesProgress stage (execute config registry stage element command args).value.2 := by
  cases hdeed : deed? config registry stage element command args with
  | none =>
    obtain ⟨e, he⟩ := execute_of_deed?_eq_none hdeed
    rw [he]
    exact .refl stage
  | some deed =>
    obtain ⟨ran, hrun, hexecute⟩ := execute_of_deed? hdeed
    rw [hexecute]
    exact Action.run_leavesProgress hrun

/-- No step has to do with progress unless it is to start an animation. -/
theorem Step.run_leavesProgress {step : Step} (h : ∀ w property target duration,
    step ≠ .tween w property target duration) :
    Stage.LeavesProgress stage (step.run config registry stage).value := by
  cases step with
  | tween w property target duration => exact absurd rfl (h w property target duration)
  | settle w duration =>
    rw [run_settle]
    have hsettled : Stage.LeavesProgress stage
        ⟨stage.canvas, (stage.animator.settleBounce w).2⟩ := by
      refine ⟨fun _ => rfl, fun w' track htrack => ?_⟩
      rwa [Animator.settleBounce_tracks] at htrack
    cases stage.animator.bounces.get? w with
    | none => exact hsettled
    | some rest => exact hsettled.trans (Stage.animate_leavesProgress (by simp) _ _)
  | command element name args => exact Command.execute_leavesProgress ..

end LeavingAlone

/-! ### Moderate bars -/

variable {w : WidgetId} {x seconds : Float32}

namespace ProgressBar

variable {bar : ProgressBar}

/-- The bounds of a bar are far from the ends of the line, and its value is a number. -/
structure IsModerate (bar : ProgressBar) : Prop where
  kept : bar.Kept
  min : Single.IsModerate bar.min
  max : Single.IsModerate bar.max
  number : bar.value.isNaN = false

namespace IsModerate

theorem inRange (h : bar.IsModerate) : bar.InRange := h.kept.inRange_iff.mpr h.number

theorem isModerate_value (h : bar.IsModerate) : Single.IsModerate bar.value :=
  .of_within h.min h.max h.inRange

theorem fits (h : bar.IsModerate) : bar.Fits := by
  rw [fits_iff, IsLost, h.number, h.max.isFinite_sub h.min]
  simp

theorem withValue (h : bar.IsModerate) (hx : x.isNaN = false) : (bar.withValue x).IsModerate :=
  ⟨h.kept.withValue x, h.min, h.max, (h.kept.isNaN_withValue x).trans hx⟩

end IsModerate

end ProgressBar

/-- An animation leads from a moderate number to another in some time. -/
structure Track.IsModerate (track : Track) : Prop where
  start : ∃ x, track.start = .scalar x ∧ Single.IsModerate x
  target : ∃ x, track.target = .scalar x ∧ Single.IsModerate x
  elapsed : Single.isUnsigned track.elapsed.toModel.unpack = true
  duration : 0 < track.duration

namespace Track.IsModerate

variable {track : Track}

theorem after (h : track.IsModerate) (hseconds : Single.isUnsigned seconds.toModel.unpack = true) :
    (track.after seconds).IsModerate :=
  ⟨h.start, h.target, Single.isUnsigned_sum h.elapsed hseconds, h.duration⟩

/-- An animation between moderate numbers shows numbers only. -/
theorem value (h : track.IsModerate) : ∃ x, track.value = .scalar x ∧ x.isNaN = false := by
  obtain ⟨x, hstart, hx⟩ := h.start
  obtain ⟨y, htarget, hy⟩ := h.target
  rw [Track.value]
  split
  · exact ⟨y, htarget, hy.isNaN⟩
  · next hunfinished =>
    -- what has not got there yet has gone a finite share of a finite way
    have hshare := Single.isFinite_share h.elapsed h.duration fun hle =>
      hunfinished (decide_eq_true hle)
    rw [hstart, htarget]
    exact ⟨_, rfl, Single.isNaN_lerp hx.isFinite (hy.isFinite_sub hx) hshare⟩

end Track.IsModerate

/-- The bars of a canvas have moderate bounds, and their values are numbers. -/
def Canvas.IsModerate (canvas : Canvas) : Prop :=
  ∀ w bar, canvas.bar? w = some bar → bar.IsModerate

/-- So have the bars of a stage, and they move between moderate numbers only. -/
structure Stage.IsModerate (stage : Stage) : Prop where
  bars : stage.canvas.IsModerate
  tracks : ∀ w track, stage.animator.tracks.get? (w, .progress) = some track → track.IsModerate

namespace Canvas.IsModerate

variable {canvas canvas' : Canvas}

theorem congr (h : canvas.IsModerate) (hbars : ∀ w, canvas'.bar? w = canvas.bar? w) :
    canvas'.IsModerate := fun w bar hbar => h w bar ((hbars w).symm.trans hbar)

theorem setProgress (h : canvas.IsModerate) (id : WidgetId) (hx : x.isNaN = false) :
    (canvas.setProgress id x).2.IsModerate := by
  intro w bar hbar
  rw [bar?_setProgress] at hbar
  split at hbar
  · obtain ⟨old, hold, rfl⟩ := Option.map_eq_some_iff.mp hbar
    exact (h w old hold).withValue hx
  · exact h w bar hbar

/-- Bars stay moderate as long as they are given numbers. -/
theorem applyValue (h : canvas.IsModerate) (id : WidgetId) (property : Property)
    (value : TweenValue)
    (hvalue : property = .progress → ∃ x, value = .scalar x ∧ x.isNaN = false) :
    (canvas.applyValue id property value).value.IsModerate := by
  by_cases hproperty : property = .progress
  · obtain ⟨x, rfl, hx⟩ := hvalue hproperty
    subst hproperty
    rw [Canvas.applyValue]
    cases canvas.widget? id with
    | none => exact h
    | some handle => exact h.setProgress id hx
  · refine h.congr fun w => (canvas.applyValue_changesOf id property value).changes.bar?_eq ?_
    exact property?_applyValue_of_ne (fun he => hproperty (congrArg Prod.snd he)) value

end Canvas.IsModerate

namespace Stage.IsModerate

variable {stage stage' : Stage}

theorem leavesProgress (h : stage.IsModerate) (hleaves : LeavesProgress stage stage') :
    stage'.IsModerate :=
  ⟨h.bars.congr hleaves.bar, fun w track htrack => h.tracks w track (hleaves.track w track htrack)⟩

/-- A bar that moves to a moderate number, or is given a number at once, stays moderate. -/
theorem animate (h : stage.IsModerate) (id : WidgetId) (animate : Bool)
    (hnumber : x.isNaN = false) (hmoderate : animate = true → Single.IsModerate x) :
    (stage.animate id .progress (.scalar x)
      (if animate then Session.progressSeconds else 0)).value.IsModerate := by
  rw [Stage.animate]
  cases hsource : (stage.widget? id).bind fun h => h.property? .progress with
  | none => exact h
  | some source =>
    cases animate with
    | true =>
      -- the animation starts from the value of the bar
      have hprogress : stage.canvas.property? id .progress = some source := hsource
      rw [Canvas.property?_progress] at hprogress
      obtain ⟨bar, hbar, rfl⟩ := Option.map_eq_some_iff.mp hprogress
      have htime : Animator.takesTime Session.progressSeconds = true := by decide
      have hstart : Single.isUnsigned (0 : Float32).toModel.unpack = true := by decide
      have hduration : 0 < Session.progressSeconds := by decide
      simp only [if_true, Animator.start_of_takesTime _ _ _ _ _ htime, Logged.pure_value]
      refine ⟨h.bars, fun w track htrack => ?_⟩
      rw [Table.get?_insert] at htrack
      split at htrack
      · cases htrack
        exact ⟨⟨_, rfl, (h.bars id bar hbar).isModerate_value⟩, ⟨x, rfl, hmoderate rfl⟩, hstart,
          hduration⟩
      · exact h.tracks w track htrack
    | false =>
      have hnone : ((0 : Float32) ≤ 0 || !Float32.isFinite 0) = true := by decide
      simp only [Bool.false_eq_true, if_false, Animator.start, if_pos hnone, Stage.applyValue,
        Logged.bind_value, Logged.pure_value]
      refine ⟨h.bars.applyValue id .progress (.scalar x) fun _ => ⟨x, rfl, hnumber⟩,
        fun w track htrack => ?_⟩
      rw [Table.get?_erase] at htrack
      split at htrack
      · cases htrack
      · exact h.tracks w track htrack

end Stage.IsModerate

/-! ### Time -/

namespace Session

variable {s : Session}

/-- Moderate updates leave bars moderate. -/
theorem applyUpdates_isModerate {updates : List TweenUpdate} {stage : Stage}
    (h : stage.canvas.IsModerate) (hupdates : ∀ u ∈ updates, u.property = .progress →
      ∃ x, u.value = .scalar x ∧ x.isNaN = false) :
    (applyUpdates stage updates).value.canvas.IsModerate := by
  induction updates generalizing stage with
  | nil => exact h
  | cons u updates ih =>
    obtain ⟨hu, hrest⟩ := List.forall_mem_cons.mp hupdates
    rw [applyUpdates_cons]
    exact ih (h.applyValue u.widget u.property u.value hu) hrest

/-- Animations stay moderate, however far they have got. -/
theorem isModerate_of_moved (h : s.stage.IsModerate) {dt : Float32} {track : Track}
    (hmoved : (s.stage.animator.moved dt).get? (w, .progress) = some track) : track.IsModerate := by
  rw [Animator.moved, Table.get?_mapValues fun track : Track => track.after _] at hmoved
  obtain ⟨before, hbefore, rfl⟩ := Option.map_eq_some_iff.mp hmoved
  exact (h.tracks w before hbefore).after (Animator.isUnsigned_seconds dt)

theorem moved_isModerate (h : s.stage.IsModerate) (hdistinct : s.stage.animator.tracks.Distinct)
    (dt : Float32) : (s.moved dt).IsModerate where
  bars := by
    have hbars : (⟨s.stage.canvas, (s.stage.animator.advance dt).2⟩ : Stage).canvas.IsModerate :=
      h.bars
    have hupdates : ∀ u ∈ (s.stage.animator.advance dt).1.updates, u.property = .progress →
        ∃ x, u.value = .scalar x ∧ x.isNaN = false := by
      intro u hu hprogress
      rw [Animator.advance_updates] at hu
      obtain ⟨⟨⟨w, property⟩, track⟩, hentry, rfl⟩ := List.mem_map.mp hu
      obtain rfl : property = .progress := hprogress
      have hmoved := (s.stage.animator.moved_distinct hdistinct dt).get?_eq_some_iff.mpr hentry
      exact (isModerate_of_moved h hmoved).value
    exact applyUpdates_isModerate hbars hupdates
  tracks := by
    intro w track htrack
    rw [moved_animator, Animator.advance_tracks,
      (s.stage.animator.moved_distinct hdistinct dt).get?_filter] at htrack
    exact isModerate_of_moved h (Option.filter_eq_some_iff.mp htrack).1

/-- Steps that start no animations of bars leave progress alone. -/
theorem steppedThrough_leavesProgress {due : List Step}
    (h : ∀ w property target duration, .tween w property target duration ∉ due) :
    Stage.LeavesProgress s.stage (s.steppedThrough due).stage := by
  induction due generalizing s with
  | nil => exact .refl s.stage
  | cons step due ih =>
    have hstep : Stage.LeavesProgress s.stage (s.stepped step).stage :=
      Step.run_leavesProgress fun w property target duration he =>
        h w property target duration (he ▸ List.mem_cons_self)
    exact hstep.trans (ih fun w property target duration hmem =>
      h w property target duration (List.mem_cons_of_mem _ hmem))

theorem polled_leavesProgress (s : Session) : Stage.LeavesProgress s.stage s.polled.stage :=
  ⟨fun _ => Canvas.bar?_of_stem (s.slots.poll_displays s.stage.canvas).links.stem,
    fun _ _ htrack => htrack⟩

/-- Bars that are moderate stay so, whatever time passes. -/
theorem tick_isModerate (h : s.stage.IsModerate) (htidy : s.stage.animator.Tidy []) (dt : Float32) :
    (s.tick dt).value.stage.IsModerate := by
  rw [tick_eq_polled]
  -- animations first, then the steps that are due, then what the slots have received
  have hmoved : (s.passed dt).stage.IsModerate := moved_isModerate h htidy.distinct dt
  have hsteps : Stage.LeavesProgress (s.passed dt).stage
      ((s.passed dt).steppedThrough (s.stage.animator.advance dt).1.due).stage :=
    steppedThrough_leavesProgress fun w property target duration hmem =>
      (htidy.advance dt).noTween w property target duration (List.mem_append_left _ hmem)
  exact (hmoved.leavesProgress hsteps).leavesProgress (polled_leavesProgress _)

end Session

end Uiml
