import Uiml.Proofs.Animation.LastTarget

/-!
# Where scales settle

A widget that is scaled does not always settle at the scale that it is given. As long as bounces of
it have not begun their way back, the scale that they come from is remembered, and their ways back
lead there, whatever the widget has been given in the meantime. Only without such bounces, or if
they are ended together with the widget's animations, an action has the last word about the scale.

## Main definitions

* `Stage.remembered?` — the scale that bounces come back to which have not begun their way back
* `Action.settledScale?` — the scale at which an action settles its widget
* `Stage.SettlesAt` — where the scale of a widget settles

## Main results

* `Action.run_settlesAt`, `Action.run_sameScale` — what each action does to that
* `settles_scale` — nothing else that happens has a say in it
* `Session.Past.last_scale` — at rest, a widget has the scale at which the last action settles it
* `Session.Past.scale_settles` — after it is scaled, that is the given scale or a remembered one
-/

namespace Uiml

variable {w id : WidgetId} {rest v : Vec3} {stage stage' : Stage} {config : Config}
  {registry : Registry} {action : Action} {ran : Logged Stage} {done : List Happening}

namespace Stage

/-- The scale that bounces of a widget come back to which have not begun their way back. -/
def remembered? (stage : Stage) (w : WidgetId) : Option Vec3 :=
  (stage.animator.bounces.get? w).map BounceRest.scale

/-- Where the scale of a widget settles: where its bounces come from, or else where it heads for. -/
inductive SettlesAt (w : WidgetId) (rest : Vec3) (stage : Stage) : Prop
  | heads (hnone : stage.remembered? w = none) (hheads : stage.Heads w .scale (.vec3 rest))
  | returns (hlive : (stage.canvas.widget? w).isSome) (hrest : stage.remembered? w = some rest)

theorem SettlesAt.live (h : stage.SettlesAt w rest) : (stage.canvas.widget? w).isSome := by
  cases h with
  | heads _ hheads => exact hheads.live
  | returns hlive => exact hlive

theorem remembered?_congr (h : stage'.animator.bounces = stage.animator.bounces) :
    stage'.remembered? w = stage.remembered? w := by
  rw [remembered?, h, remembered?]

@[simp] theorem remembered?_animate (property : Property) (target : TweenValue)
    (duration : Float32) :
    (stage.animate id property target duration).value.remembered? w = stage.remembered? w :=
  remembered?_congr (animate_bounces property target duration)

/-- Nothing is different for the scale of a widget, neither its course nor what is remembered. -/
structure SameScale (w : WidgetId) (stage stage' : Stage) : Prop where
  course : SameCourse w .scale stage stage'
  remembered : stage'.remembered? w = stage.remembered? w

theorem SameScale.trans {stage'' : Stage} (h : SameScale w stage stage')
    (h' : SameScale w stage' stage'') : SameScale w stage stage'' :=
  ⟨h.course.trans h'.course, h'.remembered.trans h.remembered⟩

theorem SettlesAt.congr (h : stage.SettlesAt w rest) (hsame : SameScale w stage stage') :
    stage'.SettlesAt w rest := by
  cases h with
  | heads hnone hheads =>
    exact .heads (hsame.remembered.trans hnone) (hheads.congr hsame.course)
  | returns hlive hrest =>
    exact .returns (hsame.course.live w hlive) (hsame.remembered.trans hrest)

/-- What is done to one widget makes no difference to the scale of another. -/
theorem ChangesOf.sameScale (h : ChangesOf id stage stage') (hne : w ≠ id) :
    SameScale w stage stage' :=
  ⟨h.sameCourse hne, by rw [remembered?, (h.alike hne).bounce, remembered?]⟩

theorem animate_sameScale {property : Property} (hne : (id, property) ≠ (w, .scale))
    (target : TweenValue) (duration : Float32) :
    SameScale w stage (stage.animate id property target duration).value :=
  ⟨animate_sameCourse hne target duration, remembered?_animate ..⟩

theorem Aside.sameScale (h : stage.Aside stage') (hw : (stage.canvas.widget? w).isSome) :
    SameScale w stage stage' := by
  refine ⟨h.sameCourse (by simp) hw, ?_⟩
  cases h with
  | linked | scheduled => rfl
  | grown h => exact remembered?_congr (by rw [h.animator])
  | progressed => exact remembered?_animate ..

/-! ### What decides about the scale -/

/-- A widget that is animated to a scale settles there, unless bounces are to take it back. -/
theorem animate_settlesAt (hlive : (stage.canvas.widget? w).isSome) (v : Vec3)
    (duration : Float32) :
    (stage.animate w .scale (.vec3 v) duration).value.SettlesAt w
      ((stage.remembered? w).getD v) := by
  cases hrest : stage.remembered? w with
  | none =>
    exact .heads ((remembered?_animate ..).trans hrest) (animate_heads (.scale v) hlive duration)
  | some rest =>
    have hstays := (stage.animate_changesOf w .scale (.vec3 v) duration).keepsWidgets w hlive
    exact .returns hstays ((remembered?_animate ..).trans hrest)

theorem reveal_books (w : WidgetId) (duration : Float32) :
    SameBooks stage (stage.reveal w duration).value := by
  simp only [reveal, Logged.bind_value]
  exact ((animate_books ..).trans (animate_books ..)).trans (animate_books ..)

theorem slide_books (w : WidgetId) (direction : SlideDirection) (duration : Float32) :
    SameBooks stage (stage.slide config w direction duration).value := by
  rw [slide]
  cases stage.widget? w with
  | none => exact .refl stage
  | some h => exact animate_books ..

theorem conceal_books (w : WidgetId) (duration : Float32) :
    SameBooks stage (stage.conceal config w duration).value := by
  simp only [conceal, Logged.bind_value]
  exact (animate_books ..).trans (slide_books w .left duration)

/-- A widget that is revealed gets its own size, unless bounces are to take it back. -/
theorem reveal_settlesAt (hlive : (stage.canvas.widget? w).isSome) (duration : Float32) :
    (stage.reveal w duration).value.SettlesAt w ((stage.remembered? w).getD .one) := by
  simp only [reveal, Logged.bind_value]
  let lit : Stage := (stage.animate w .alpha (.scalar 1) duration).value
  let placed : Stage := (lit.animate w .position (.vec2 (stage.homePosition w)) duration).value
  have hlit : SameScale w stage lit := animate_sameScale (by simp) _ _
  have hplaced : SameScale w stage placed := hlit.trans (animate_sameScale (by simp) _ _)
  rw [← hplaced.remembered]
  exact animate_settlesAt (hplaced.course.live w hlive) .one duration

/-- A widget that bounces settles where its bounces come from. -/
theorem bounce_settlesAt (hscale : stage.canvas.scale? w = some v) (duration : Float32) :
    (stage.bounce config w duration).value.SettlesAt w ((stage.remembered? w).getD v) := by
  obtain ⟨handle, hw, rfl⟩ := Option.map_eq_some_iff.mp hscale
  rw [bounce, widget?, hw]
  simp only
  let begun : Stage := ⟨stage.canvas,
    (stage.animator.beginBounce w handle.transform.scale (duration / 2)).2⟩
  have hlive : (begun.canvas.widget? w).isSome := Option.isSome_iff_exists.mpr ⟨handle, hw⟩
  have hbegun : begun.remembered? w =
      some ((stage.remembered? w).getD handle.transform.scale) := by
    rw [remembered?, Animator.get?_bounces_beginBounce, if_pos rfl, remembered?]
    cases stage.animator.bounces.get? w <;> rfl
  have hstays := (begun.animate_changesOf w .scale (.vec3 ((stage.animator.beginBounce w
    handle.transform.scale (duration / 2)).1 * config.bounceScale)) (duration / 2)).keepsWidgets
  exact .returns (hstays w hlive) ((remembered?_animate ..).trans hbegun)

/-- A widget that is restored has its own size, and no bounces. -/
theorem restore_settlesAt (hlive : (stage.canvas.widget? w).isSome) :
    (stage.restore w).SettlesAt w .one := by
  refine .heads ?_ (restore_heads hlive).2.2
  rw [remembered?, restore_animator, Animator.get?_bounces_cancelWidget, if_pos rfl, Option.map_none]

/-- The way back of a bounce leads to where it comes from. If the bounce has been forgotten it is no
way at all. -/
theorem SettlesAt.settle {duration : Float32} (h : stage.SettlesAt w rest) :
    ((Step.settle id duration).run config registry stage).value.SettlesAt w rest := by
  let settled : Stage := ⟨stage.canvas, (stage.animator.settleBounce id).2⟩
  have hcourse : SameCourse w .scale stage settled :=
    ⟨rfl, by rw [Animator.settleBounce_tracks], fun _ hj => hj⟩
  have hbounce := stage.animator.get?_bounces_settleBounce id w
  rw [Step.run_settle]
  by_cases hid : id = w
  · subst hid
    rw [if_pos rfl] at hbounce
    cases hget : stage.animator.bounces.get? id with
    | none =>
      refine h.congr ⟨hcourse, ?_⟩
      rw [remembered?, hbounce, remembered?, hget, Option.bind_none]
    | some bounce =>
      simp only
      -- the bounce is remembered, so that it comes back to where the scale settles anyway
      have hrest : bounce.scale = rest := by
        cases h with
        | heads hnone => rw [remembered?, hget] at hnone; cases hnone
        | returns _ hrest => rw [remembered?, hget] at hrest; exact Option.some.inj hrest
      have hleft : (settled.remembered? id).getD bounce.scale = rest := by
        rw [remembered?, hbounce, hget, Option.bind_some]
        split <;> exact hrest
      have hlive : (settled.canvas.widget? id).isSome := h.live
      have hanimated := animate_settlesAt hlive bounce.scale duration
      rwa [hleft] at hanimated
  · rw [if_neg (Ne.symm hid)] at hbounce
    have hsettled : SameScale w stage settled :=
      ⟨hcourse, by rw [remembered?, hbounce, remembered?]⟩
    have hne : (id, Property.scale) ≠ (w, .scale) := fun he => hid (congrArg Prod.fst he)
    cases stage.animator.bounces.get? id with
    | none => exact h.congr hsettled
    | some bounce => exact h.congr (hsettled.trans (animate_sameScale hne _ duration))

end Stage

namespace Action

/-- Whether an action ends the bounces of its widget. -/
def endsBounces : Action → Bool
  | .restore => true
  | _ => false

/-- The scale at which a widget settles after an action. A scale that is remembered for bounces goes
before the one that is given, unless the action ends the bounces. -/
def settledScale? (stage : Stage) (w : WidgetId) (action : Action) : Option Vec3 :=
  (action.scaleTarget? stage w).map fun v =>
    if action.endsBounces then v else (stage.remembered? w).getD v

/-- An action that gives a scale settles the widget at it, or at the one that is remembered. -/
theorem run_settlesAt (h : action.run config w stage = .ok ran)
    (hlive : (stage.canvas.widget? w).isSome)
    (hsettled : action.settledScale? stage w = some rest) : ran.value.SettlesAt w rest := by
  obtain ⟨v, hv, hrest⟩ := Option.map_eq_some_iff.mp hsettled
  subst hrest
  cases action with
  | «show» duration => cases h; cases hv; exact Stage.reveal_settlesAt hlive duration
  | toggle duration =>
    rw [run_toggle] at h
    cases h
    obtain ⟨hhidden, hone⟩ := Option.ite_none_left_eq_some.mp hv
    cases hone
    rw [if_neg hhidden]
    exact Stage.reveal_settlesAt hlive duration
  | scale factor duration => cases h; cases hv; exact Stage.animate_settlesAt hlive _ duration
  | bounce duration => cases h; exact Stage.bounce_settlesAt hv duration
  | restore => cases h; cases hv; exact Stage.restore_settlesAt hlive
  | hide | fade | moveTo | moveHome | slide | setAlpha | setInteractable | setText => cases hv

/-- The books of bounces are only touched by bounces and by what ends them. -/
theorem run_books (h : action.run config w stage = .ok ran) (hbounce : action.isBounce = false)
    (hends : action.endsBounces = false) : Stage.SameBooks stage ran.value := by
  cases action with
  | bounce => cases hbounce
  | restore => cases hends
  | «show» duration => cases h; exact Stage.reveal_books w duration
  | hide duration => cases h; exact Stage.conceal_books w duration
  | toggle duration =>
    rw [run_toggle] at h
    cases h
    split
    · exact Stage.conceal_books w duration
    · exact Stage.reveal_books w duration
  | fade | moveTo | moveHome | scale => cases h; exact Stage.animate_books ..
  | slide direction duration => cases h; exact Stage.slide_books w direction duration
  | setAlpha | setInteractable => cases h; exact ⟨rfl, rfl⟩
  | setText text =>
    simp only [run] at h
    split at h
    · cases h
      exact .refl stage
    · split at h <;> cases h
      exact ⟨rfl, rfl⟩

/-- An action that gives no scale makes no difference to the scale. -/
theorem run_sameScale (h : action.run config w stage = .ok ran)
    (hlive : (stage.canvas.widget? w).isSome)
    (hsettled : action.settledScale? stage w = none) : Stage.SameScale w stage ran.value := by
  have hscale : action.scaleTarget? stage w = none := Option.map_eq_none_iff.mp hsettled
  refine ⟨run_sameCourse h hlive hscale, Stage.remembered?_congr (run_books h ?_ ?_).bounces⟩
  · cases action with
    | bounce =>
      -- a bounce of a widget that is there finds a scale
      have hnone : stage.canvas.scale? w = none := hscale
      rw [← Canvas.isSome_scale?, hnone] at hlive
      cases hlive
    | _ => rfl
  · cases action with
    | restore => cases hscale
    | _ => rfl

end Action

/-! ### Histories -/

/-- The scale at which the action of a happening settles a widget. -/
def Happening.settledScale? (w : WidgetId) (happening : Happening) : Option Vec3 :=
  if happening.widget = w then happening.action.settledScale? happening.stage w else none

/-- Actions that give a scale settle where the widget comes to rest, and nothing else does. -/
theorem settles_scale :
    Session.Settles config (Happening.settledScale? w)
      fun rest stage => stage.SettlesAt w rest where
  acted := by
    intro rest stage id action ran hran hlive hword
    obtain ⟨rfl, hsettled⟩ := Option.ite_none_right_eq_some.mp hword
    exact Action.run_settlesAt hran hlive hsettled
  passed := by
    intro rest stage id action ran hran hlive hword h
    by_cases hid : id = w
    · subst hid
      rw [Happening.settledScale?, if_pos rfl] at hword
      exact h.congr (Action.run_sameScale hran hlive hword)
    · exact h.congr ((Action.run_changesOf hran).sameScale (Ne.symm hid))
  cameBack := fun _ _ _ h => h.settle
  moved := by
    intro rest s dt htidy h
    have hsame : (s.moved dt).remembered? w = s.stage.remembered? w :=
      Stage.remembered?_congr (by rw [Session.moved_animator, Animator.advance_bounces])
    cases h with
    | heads hnone hheads =>
      exact .heads (hsame.trans hnone) (Session.moved_heads hheads (.scale rest) htidy dt)
    | returns hlive hrest =>
      exact .returns (Session.moved_keepsWidgets dt w hlive) (hsame.trans hrest)
  aside := fun haside h => h.congr (haside.sameScale h.live)

namespace Session

variable {s t : Session} {before later : List Happening}

/-- At rest, a widget has the scale at which the last action that gave it one has settled it. -/
theorem Past.last_scale (hpast : Past done s)
    (hlast : latest? (Happening.settledScale? w) done = some rest) (hrest : s.stage.AtRest w) :
    s.stage.canvas.scale? w = some rest := by
  cases hpast.latest settles_scale rest hlast with
  | heads _ hheads => exact Canvas.property?_scale_eq_some_iff.mp (hheads.value hrest.1)
  | returns _ hremembered =>
    -- without a way back to come no scale is remembered
    have hnone := hpast.reachable.tidy.get?_bounces_eq_none hrest.2
    rw [Stage.remembered?, hnone] at hremembered
    cases hremembered

end Session

/-- Whether an action is one of those that can give a scale to their widget. -/
def Action.rescales : Action → Bool
  | .show _ | .toggle _ | .scale _ _ | .bounce _ | .restore => true
  | _ => false

/-- No action that can give a scale is done to the widget. -/
def LeavesScale (w : WidgetId) (done : List Happening) : Prop :=
  ∀ happening ∈ done, happening.widget = w → happening.action.rescales = false

instance (w : WidgetId) (done : List Happening) : Decidable (LeavesScale w done) :=
  inferInstanceAs (Decidable (∀ happening ∈ done, _ → _))

theorem Action.settledScale?_of_not_rescales (h : action.rescales = false) :
    action.settledScale? stage w = none := by
  cases action <;> first | rfl | cases h

theorem LeavesScale.latest?_eq_none (h : LeavesScale w done) :
    latest? (Happening.settledScale? w) done = none := by
  refine Uiml.latest?_eq_none fun happening hmem => ?_
  rw [Happening.settledScale?]
  split
  · exact Action.settledScale?_of_not_rescales (h happening hmem ‹_›)
  · rfl

namespace Session

variable {s t : Session} {before later : List Happening} {factor duration : Float32}

/-- A widget that has been scaled, and is at rest after no other action has given it a scale, has
the scale that was remembered for bounces when it was scaled, and the given scale if none was. So
the scale that it was given lasts exactly if no other was remembered then. -/
theorem Past.scale_settles
    (hpast : Past (before ++ ⟨stage, w, .scale factor duration⟩ :: later) t)
    (hlater : LeavesScale w later) (hrest : t.stage.AtRest w) :
    t.stage.canvas.scale? w = some ((stage.remembered? w).getD (.splat factor)) ∧
      (t.stage.canvas.scale? w = some (.splat factor) ↔
        ∀ found ∈ stage.remembered? w, found = .splat factor) := by
  have hlast : latest? (Happening.settledScale? w)
      (before ++ ⟨stage, w, .scale factor duration⟩ :: later) =
        some ((stage.remembered? w).getD (.splat factor)) := by
    rw [latest?_append, ← List.singleton_append, latest?_append, hlater.latest?_eq_none,
      Option.none_or, latest?_singleton, Happening.settledScale?, if_pos rfl]
    rfl
  have hsettled := hpast.last_scale hlast hrest
  refine ⟨hsettled, ?_⟩
  rw [hsettled]
  cases stage.remembered? w <;> simp

/-- Whether operations end with an action on a widget, and others that give it no scale then bring
it to rest with one. -/
def comesToScale (s : Session) (w : WidgetId) (action : Action) (found : Vec3)
    (ops more : List Operation) : Bool :=
  (s.play ops).any fun (done, t) =>
    (done.getLast?.any fun happening =>
      decide (happening.widget = w) && decide (happening.action = action)) &&
    (t.play more).any fun (later, u) =>
      decide (LeavesScale w later) && decide (u.stage.AtRest w) &&
        decide (u.stage.canvas.scale? w = some found)

theorem exists_of_comesToScale {found : Vec3} {ops more : List Operation} (hs : Past [] s)
    (h : s.comesToScale w action found ops more = true) :
    ∃ before stage later u, Past (before ++ ⟨stage, w, action⟩ :: later) u ∧
      LeavesScale w later ∧ u.stage.AtRest w ∧ u.stage.canvas.scale? w = some found := by
  simp only [comesToScale, Option.any_eq_true, Bool.and_eq_true, decide_eq_true_eq] at h
  obtain ⟨⟨done, t⟩, hplay, ⟨happening, hlast, rfl, rfl⟩, ⟨later, u⟩, hmore, ⟨hlater, hrest⟩,
    hfound⟩ := h
  obtain ⟨before, rfl⟩ := List.getLast?_eq_some_iff.mp hlast
  have hpast := (hs.run (run_of_play hplay)).run (run_of_play hmore)
  rw [List.nil_append, List.append_assoc] at hpast
  exact ⟨before, happening.stage, later, u, hpast, hlater, hrest, hfound⟩

/-- A panel that is scaled, and fades later, has the scale that it was given. -/
theorem scale_settles_panel :
    ∃ before stage later t, Past (before ++ ⟨stage, ⟨0⟩, .scale 2 1⟩ :: later) t ∧
      t.stage.canvas.scale? ⟨0⟩ = some ((stage.remembered? ⟨0⟩).getD (.splat 2)) ∧
      t.stage.canvas.scale? ⟨0⟩ = some (.splat 2) := by
  obtain ⟨s, hs, hvalue⟩ := exists_past_panel
    (p := (comesToScale · ⟨0⟩ (.scale 2 1) (.splat 2) [.execute "b" "scale" ["1", "2"]]
      [.tick 0.5, .execute "b" "fade" ["2", "0"], .tick 0.5])) (by decide +kernel)
  obtain ⟨before, stage, later, t, hpast, hlater, hrest, hfound⟩ := exists_of_comesToScale hs hvalue
  exact ⟨before, stage, later, t, hpast, (Past.scale_settles hpast hlater hrest).1, hfound⟩

/-- A panel that is scaled on the way out of a bounce is taken back to where it comes from. -/
theorem scale_duringBounce :
    ∃ before stage later t, Past (before ++ ⟨stage, ⟨0⟩, .scale 2 0.1⟩ :: later) t ∧
      LeavesScale ⟨0⟩ later ∧ t.stage.AtRest ⟨0⟩ ∧
      t.stage.canvas.scale? ⟨0⟩ ≠ some (.splat 2) := by
  obtain ⟨s, hs, hvalue⟩ := exists_past_panel
    (p := (comesToScale · ⟨0⟩ (.scale 2 0.1) .one
      [.execute "b" "bounce" ["1"], .execute "b" "scale" ["0.1", "2"]] [.tick 0.5, .tick 0.5]))
    (by decide +kernel)
  obtain ⟨before, stage, later, t, hpast, hlater, hrest, hfound⟩ := exists_of_comesToScale hs hvalue
  refine ⟨before, stage, later, t, hpast, hlater, hrest, ?_⟩
  rw [hfound]
  decide +kernel

end Session

end Uiml
