import Uiml.Proofs.Animation.Heading

/-!
# Bounces

A bounce takes a widget up to a peak and back. While the way back of some bounce of a widget is
still to begin, further bounces come back to the scale that the first of them found. When the last
way back begins that scale is forgotten: a bounce that comes then, before the widget is back, finds
it half way and takes the scale that it finds for the one to come back to.

## Main definitions

* `Stage.AtRest` — no bounce of a widget is under way, and its scale is not animated
* `Stage.Bouncing` — how far the bounces of a widget have got, and where they come back to
* `Stage.SameBooks` — two stages do not differ in what is remembered and queued for bounces
* `restScale` — the scale that the bounces of a history come back to

## Main results

* `Step.run_bouncing`, `Session.moved_bouncing` — steps and time keep to where the bounces go
* `Session.Run.bouncing` — so does every run in which nothing but bounces is done to the widget
* `Session.Reachable.bounce_settles` — at rest again, the widget has the scale of the history
-/

namespace Uiml

variable {w id : WidgetId} {rest : Vec3} {stage stage' : Stage} {due : List Step}

namespace Stage

/-- The scale of a widget is not animated, and no bounce of it is to begin its way back. -/
def AtRest (stage : Stage) (w : WidgetId) : Prop :=
  stage.animator.isAnimating w .scale = false ∧ stage.animator.waysBack [] w = 0

instance (stage : Stage) (w : WidgetId) : Decidable (stage.AtRest w) :=
  inferInstanceAs (Decidable (_ ∧ _))

/-- The bounces of a widget come back to a scale. -/
inductive Bouncing (w : WidgetId) (rest : Vec3) (stage : Stage) (due : List Step) : Prop
  /-- They have come back, or there was none. -/
  | back (hscale : stage.canvas.scale? w = some rest)
      (htrack : stage.animator.tracks.get? (w, .scale) = none)
      (hbounce : stage.animator.bounces.get? w = none)
      (hback : stage.animator.waysBack due w = 0)
  /-- The last of them is on its way back. -/
  | comingBack (hlive : (stage.canvas.scale? w).isSome) (track : Track)
      (htrack : stage.animator.tracks.get? (w, .scale) = some track)
      (htarget : track.target = .vec3 rest)
      (hbounce : stage.animator.bounces.get? w = none)
      (hback : stage.animator.waysBack due w = 0)
  /-- Some of them have not begun their way back. -/
  | out (hlive : (stage.canvas.scale? w).isSome) (pending : Nat) (hpos : 0 < pending)
      (hbounce : stage.animator.bounces.get? w = some ⟨rest, pending⟩)
      (hback : stage.animator.waysBack due w = pending)

theorem Bouncing.live (h : stage.Bouncing w rest due) : (stage.canvas.scale? w).isSome := by
  cases h with
  | back hscale => rw [hscale, Option.isSome_some]
  | comingBack hlive => exact hlive
  | out hlive => exact hlive

/-- A widget at rest is where its bounces come back to. -/
theorem Bouncing.scale_of_atRest (h : stage.Bouncing w rest []) (hrest : stage.AtRest w) :
    stage.canvas.scale? w = some rest := by
  obtain ⟨hstill, hnone⟩ := hrest
  cases h with
  | back hscale => exact hscale
  | comingBack _ track htrack =>
    have hget : stage.animator.tracks.get? (w, .scale) = none := Table.get?_eq_none_iff.mpr hstill
    rw [hget] at htrack
    cases htrack
  | out _ pending hpos _ hback => omega

/-- At rest no bounce is remembered, so that the next one starts afresh. -/
theorem AtRest.bouncing (hrest : stage.AtRest w) (htidy : stage.animator.Tidy [])
    (hscale : stage.canvas.scale? w = some rest) : stage.Bouncing w rest [] :=
  .back hscale (Table.get?_eq_none_iff.mpr hrest.1) (htidy.get?_bounces_eq_none hrest.2) hrest.2

/-! ### What does not touch the bounces of a widget -/

/-- Two stages do not differ in anything that the bounces of a widget depend on. -/
structure Alike (w : WidgetId) (stage stage' : Stage) : Prop where
  scale : stage'.canvas.scale? w = stage.canvas.scale? w
  track : stage'.animator.tracks.get? (w, .scale) = stage.animator.tracks.get? (w, .scale)
  bounce : stage'.animator.bounces.get? w = stage.animator.bounces.get? w
  back : ∀ due, stage'.animator.waysBack due w = stage.animator.waysBack due w

theorem Alike.refl (w : WidgetId) (stage : Stage) : Alike w stage stage :=
  ⟨rfl, rfl, rfl, fun _ => rfl⟩

theorem Alike.trans {stage'' : Stage} (h : Alike w stage stage') (h' : Alike w stage' stage'') :
    Alike w stage stage'' :=
  ⟨h'.scale.trans h.scale, h'.track.trans h.track, h'.bounce.trans h.bounce,
    fun due => (h'.back due).trans (h.back due)⟩

theorem Bouncing.congr (h : stage.Bouncing w rest due) (halike : Alike w stage stage') :
    stage'.Bouncing w rest due := by
  cases h with
  | back hscale htrack hbounce hback =>
    exact .back (halike.scale.trans hscale) (halike.track.trans htrack)
      (halike.bounce.trans hbounce) ((halike.back due).trans hback)
  | comingBack hlive track htrack htarget hbounce hback =>
    exact .comingBack (halike.scale ▸ hlive) track (halike.track.trans htrack) htarget
      (halike.bounce.trans hbounce) ((halike.back due).trans hback)
  | out hlive pending hpos hbounce hback =>
    exact .out (halike.scale ▸ hlive) pending hpos (halike.bounce.trans hbounce)
      ((halike.back due).trans hback)

/-- What leaves the scale on its course has only the books of the bounces to leave alone. -/
theorem SameCourse.alike (h : SameCourse w .scale stage stage')
    (hbounce : stage'.animator.bounces.get? w = stage.animator.bounces.get? w)
    (hback : ∀ due, stage'.animator.waysBack due w = stage.animator.waysBack due w) :
    Alike w stage stage' :=
  ⟨Canvas.scale?_congr h.value, h.track, hbounce, hback⟩

/-- What is done to one widget does not touch the bounces of another. -/
theorem Change.alike (h : Change id stage stage') (hne : w ≠ id) : Alike w stage stage' := by
  have hcourse : SameCourse w .scale stage stage' := h.sameCourse hne
  cases h with
  | widget | cancel => exact hcourse.alike rfl fun _ => rfl
  | start property source target duration =>
    refine hcourse.alike ?_ fun due => ?_
    · rw [Animator.start_bounces]
    · rw [Animator.start_waysBack]
  | cancelWidget =>
    refine hcourse.alike ?_ fun due => ?_
    · rw [Animator.get?_bounces_cancelWidget, if_neg hne]
    · exact Animator.waysBack_cancelWidget_of_ne _ due id w hne
  | beginBounce current half =>
    refine hcourse.alike ?_ fun due => ?_
    · rw [Animator.get?_bounces_beginBounce, if_neg hne]
    · rw [Animator.waysBack_beginBounce, if_neg hne.symm, Nat.add_zero]

theorem ChangesOf.alike (h : ChangesOf id stage stage') (hne : w ≠ id) : Alike w stage stage' :=
  reflTransGen_preserves (p := Alike w stage)
    (fun hchange halike => halike.trans (hchange.alike hne)) h (.refl w stage)

/-! ### Animations -/

/-- Two stages have the same books of bounces: what is remembered, and what is queued. -/
structure SameBooks (stage stage' : Stage) : Prop where
  bounces : stage'.animator.bounces = stage.animator.bounces
  steps : stage'.animator.steps = stage.animator.steps

theorem SameBooks.refl (stage : Stage) : SameBooks stage stage := ⟨rfl, rfl⟩

theorem SameBooks.trans {stage'' : Stage} (h : SameBooks stage stage')
    (h' : SameBooks stage' stage'') : SameBooks stage stage'' :=
  ⟨h'.bounces.trans h.bounces, h'.steps.trans h.steps⟩

theorem SameBooks.waysBack (h : SameBooks stage stage') (due : List Step) (w : WidgetId) :
    stage'.animator.waysBack due w = stage.animator.waysBack due w := by
  rw [Animator.waysBack, Animator.toDo, h.steps, Animator.waysBack, Animator.toDo]

section Animate

variable (property : Property) (target : TweenValue) (duration : Float32)

/-- An animation touches no books of bounces. -/
theorem animate_books : SameBooks stage (stage.animate id property target duration).value := by
  rw [animate]
  cases (stage.widget? id).bind fun h => h.property? property with
  | none => exact .refl stage
  | some source =>
    simp only
    split <;> exact ⟨Animator.start_bounces .., Animator.start_steps ..⟩

@[simp] theorem animate_bounces :
    (stage.animate id property target duration).value.animator.bounces =
      stage.animator.bounces := (animate_books property target duration).bounces

@[simp] theorem animate_waysBack :
    (stage.animate id property target duration).value.animator.waysBack due w =
      stage.animator.waysBack due w := (animate_books property target duration).waysBack due w

end Animate

/-- An animation of another property, or of another widget, does not touch the bounces. -/
theorem animate_alike {property : Property} (hne : (id, property) ≠ (w, .scale))
    (target : TweenValue) (duration : Float32) :
    Alike w stage (stage.animate id property target duration).value :=
  (animate_sameCourse hne target duration).alike (by rw [animate_bounces])
    fun _ => animate_waysBack property target duration

/-! ### What the widget itself is put to -/

theorem ChangesOf.isSome_scale? (h : ChangesOf id stage stage')
    (hlive : (stage.canvas.scale? w).isSome) : (stage'.canvas.scale? w).isSome := by
  rw [Canvas.isSome_scale?] at hlive ⊢
  exact h.keepsWidgets w hlive

/-- A widget of which no bounce is remembered has come back, or is on its way, to where its scale
heads for. -/
theorem Heads.bouncing (h : stage.Heads w .scale (.vec3 rest))
    (hbounce : stage.animator.bounces.get? w = none) (hback : stage.animator.waysBack due w = 0) :
    stage.Bouncing w rest due := by
  cases h with
  | there hvalue htrack =>
    exact .back (Canvas.property?_scale_eq_some_iff.mp hvalue) htrack hbounce hback
  | underWay hlive track htrack htarget =>
    exact .comingBack (Canvas.isSome_scale?.trans hlive) track htrack htarget hbounce hback

theorem Bouncing.heads_or_out (h : stage.Bouncing w rest due) :
    (stage.Heads w .scale (.vec3 rest) ∧ stage.animator.bounces.get? w = none ∧
      stage.animator.waysBack due w = 0) ∨
    ∃ pending, 0 < pending ∧ stage.animator.bounces.get? w = some ⟨rest, pending⟩ ∧
      stage.animator.waysBack due w = pending := by
  cases h with
  | back hscale htrack hbounce hback =>
    exact .inl ⟨.there (Canvas.property?_scale_eq_some_iff.mpr hscale) htrack, hbounce, hback⟩
  | comingBack hlive track htrack htarget hbounce hback =>
    rw [Canvas.isSome_scale?] at hlive
    exact .inl ⟨.underWay hlive track htrack htarget, hbounce, hback⟩
  | out _ pending hpos hbounce hback => exact .inr ⟨pending, hpos, hbounce, hback⟩

/-- The way back of a bounce leads to where it comes from. -/
theorem Bouncing.settle {config : Config} {registry : Registry} {duration : Float32}
    (h : stage.Bouncing w rest (.settle w duration :: due)) :
    ((Step.settle w duration).run config registry stage).value.Bouncing w rest due := by
  have hcons := stage.animator.waysBack_cons due w (.settle w duration)
  simp only [Step.isWayBack, decide_true, if_true] at hcons
  -- as the step counts as a way back to come, a bounce is still remembered
  cases h with
  | back _ _ _ hback => omega
  | comingBack _ _ _ _ _ hback => omega
  | out hlive pending hpos hbounce hback =>
    rw [Step.run_settle, hbounce]
    simp only
    let settled : Stage := ⟨stage.canvas, (stage.animator.settleBounce w).2⟩
    have hstays : ((settled.animate w .scale (.vec3 rest) duration).value.canvas.scale? w).isSome :=
      (settled.animate_changesOf w .scale (.vec3 rest) duration).isSome_scale? hlive
    have hleft : (settled.animate w .scale (.vec3 rest) duration).value.animator.waysBack due w =
        pending - 1 := by
      rw [animate_waysBack, Animator.settleBounce_waysBack]
      omega
    have hremembered :
        (settled.animate w .scale (.vec3 rest) duration).value.animator.bounces.get? w =
          if pending - 1 = 0 then none else some ⟨rest, pending - 1⟩ := by
      rw [animate_bounces, Animator.get?_bounces_settleBounce, if_pos rfl, hbounce,
        Option.bind_some]
    -- with the last way back the scale is forgotten, but the animation now leads there
    by_cases hlast : pending - 1 = 0
    · rw [if_pos hlast] at hremembered
      rw [hlast] at hleft
      have hsettled : (settled.canvas.widget? w).isSome := Canvas.isSome_scale?.symm.trans hlive
      exact (animate_heads (.scale rest) hsettled duration).bouncing hremembered hleft
    · rw [if_neg hlast] at hremembered
      exact .out hstays (pending - 1) (Nat.pos_of_ne_zero hlast) hremembered hleft

/-- The scale that a bounce of a widget comes back to if it starts now, unless it shares that of
bounces which have not begun their way back. -/
def freshRest? (stage : Stage) (w : WidgetId) : Option Vec3 :=
  if (stage.animator.bounces.get? w).isNone then stage.canvas.scale? w else none

/-- A bounce goes out from the scale at rest, or else makes the present scale the one at rest. -/
theorem Bouncing.bounce (h : stage.Bouncing w rest due) (config : Config) (duration : Float32) :
    (stage.bounce config w duration).value.Bouncing w ((stage.freshRest? w).getD rest) due := by
  obtain ⟨current, hcurrent⟩ := Option.isSome_iff_exists.mp h.live
  obtain ⟨handle, hw, hscale⟩ := Option.map_eq_some_iff.mp hcurrent
  subst hscale
  rw [Stage.bounce, widget?, hw]
  simp only
  have hone : ∀ target, (Stage.animate ⟨stage.canvas,
      (stage.animator.beginBounce w handle.transform.scale (duration / 2)).2⟩ w .scale target
      (duration / 2)).value.animator.waysBack due w = stage.animator.waysBack due w + 1 := by
    intro target
    rw [animate_waysBack, Animator.waysBack_beginBounce, if_pos rfl]
  have hremembered : ∀ target, (Stage.animate ⟨stage.canvas,
      (stage.animator.beginBounce w handle.transform.scale (duration / 2)).2⟩ w .scale target
      (duration / 2)).value.animator.bounces.get? w =
        some ⟨((stage.animator.bounces.get? w).getD ⟨handle.transform.scale, 0⟩).scale,
          ((stage.animator.bounces.get? w).getD ⟨handle.transform.scale, 0⟩).pending + 1⟩ := by
    intro target
    rw [animate_bounces, Animator.get?_bounces_beginBounce, if_pos rfl]
  refine .out ?_ (stage.animator.waysBack due w + 1) (Nat.succ_pos _) ?_ (hone _)
  · exact (animate_changesOf _ w .scale _ _).isSome_scale? h.live
  · rw [hremembered, freshRest?]
    cases h with
    | back _ _ hbounce hback | comingBack _ _ _ _ hbounce hback =>
      rw [hbounce, hcurrent, hback]
      rfl
    | out _ pending _ hbounce hback =>
      rw [hbounce, hback]
      rfl

end Stage

/-! ### Histories of bounces -/

/-- The scale that the bounce of a happening comes back to, if it is a bounce of the widget and
shares no other's. -/
def Happening.freshRest? (w : WidgetId) (happening : Happening) : Option Vec3 :=
  match happening.action with
  | .bounce _ => if happening.widget = w then happening.stage.freshRest? w else none
  | _ => none

/-- The scale that the bounces of a widget come back to in the end: what the last one that started
afresh found, and the first scale if none did. -/
def restScale (w : WidgetId) (rest : Vec3) (done : List Happening) : Vec3 :=
  (done.filterMap (Happening.freshRest? w)).getLast?.getD rest

/-- Whether an action is a bounce. -/
def Action.isBounce : Action → Bool
  | .bounce _ => true
  | _ => false

/-- No action other than a bounce is done to the widget. -/
def OnlyBounces (w : WidgetId) (done : List Happening) : Prop :=
  ∀ happening ∈ done, happening.widget = w → happening.action.isBounce

instance (w : WidgetId) (done : List Happening) : Decidable (OnlyBounces w done) :=
  inferInstanceAs (Decidable (∀ happening ∈ done, _ → _))

variable {done more : List Happening} {config : Config} {registry : Registry}

theorem restScale_append :
    restScale w rest (done ++ more) = restScale w (restScale w rest done) more := by
  simp only [restScale, List.filterMap_append, List.getLast?_append]
  cases (more.filterMap (Happening.freshRest? w)).getLast? <;> rfl

theorem OnlyBounces.left (h : OnlyBounces w (done ++ more)) : OnlyBounces w done :=
  fun happening hmem => h happening (List.mem_append_left _ hmem)

theorem OnlyBounces.right (h : OnlyBounces w (done ++ more)) : OnlyBounces w more :=
  fun happening hmem => h happening (List.mem_append_right _ hmem)

theorem restScale_singleton {happening : Happening} :
    restScale w rest [happening] = (happening.freshRest? w).getD rest := by
  rw [restScale, List.filterMap_cons]
  cases happening.freshRest? w <;> rfl

/-- A command bounces the widget, or is none of its business. -/
theorem Step.command_bouncing {element name : String} {args : List String}
    (h : stage.Bouncing w rest due)
    (honly : OnlyBounces w
      ((Step.command element name args).happening? config registry stage).toList) :
    ((Step.command element name args).run config registry stage).value.Bouncing w
      (restScale w rest
        ((Step.command element name args).happening? config registry stage).toList) due := by
  rcases Step.run_command config registry stage element name args with
    ⟨hnone, hrun⟩ | ⟨id, action, ran, hsome, hran, hrun⟩
  · rw [hnone, hrun]
    exact h
  · rw [hsome] at honly ⊢
    rw [hrun, Option.toList_some, restScale_singleton]
    by_cases hid : id = w
    · -- it is the widget's own command, hence a bounce
      subst hid
      have hbounce := honly _ (List.mem_singleton.mpr rfl) rfl
      cases action with
      | bounce duration =>
        cases hran
        simp only [Happening.freshRest?, if_true]
        exact h.bounce config duration
      | _ => cases hbounce
    · have hother : Happening.freshRest? w ⟨stage, id, action⟩ = none := by
        cases action <;> simp only [Happening.freshRest?, if_neg hid]
      rw [hother]
      exact h.congr ((Action.run_changesOf hran).alike (Ne.symm hid))

/-- A step that is due bounces the widget, takes it back from a bounce, or is none of its
business. -/
theorem Step.run_bouncing {step : Step} (h : stage.Bouncing w rest (step :: due))
    (htidy : stage.animator.Tidy (step :: due))
    (honly : OnlyBounces w (step.happening? config registry stage).toList) :
    (step.run config registry stage).value.Bouncing w
      (restScale w rest (step.happening? config registry stage).toList) due := by
  have hcons := stage.animator.waysBack_cons due w step
  -- a step that is no way back of the widget leaves the number of those to come as it is
  have htail : step.isWayBack w = false → stage.Bouncing w rest due := by
    intro hno
    rw [hno] at hcons
    cases h with
    | back hscale htrack hbounce hback =>
      exact .back hscale htrack hbounce (hcons.symm.trans hback)
    | comingBack hlive track htrack htarget hbounce hback =>
      exact .comingBack hlive track htrack htarget hbounce (hcons.symm.trans hback)
    | out hlive pending hpos hbounce hback =>
      exact .out hlive pending hpos hbounce (hcons.symm.trans hback)
  cases step with
  | tween widget property target duration =>
    exact absurd List.mem_cons_self (htidy.noTween widget property target duration)
  | settle id duration =>
    by_cases hid : id = w
    · subst hid
      exact h.settle
    · have hsettled : Stage.Alike w stage
          ⟨stage.canvas, (stage.animator.settleBounce id).2⟩ := by
        refine ⟨rfl, ?_, ?_, fun due => ?_⟩
        · rw [Animator.settleBounce_tracks]
        · rw [Animator.get?_bounces_settleBounce, if_neg (Ne.symm hid)]
        · rw [Animator.settleBounce_waysBack]
      refine (htail (by simp [Step.isWayBack, hid])).congr ?_
      rw [Step.run_settle]
      cases stage.animator.bounces.get? id with
      | none => exact hsettled
      | some rest' =>
        have hne : (id, Property.scale) ≠ (w, .scale) := fun he => hid (congrArg Prod.fst he)
        exact hsettled.trans (Stage.animate_alike hne _ duration)
  | command element name args => exact Step.command_bouncing (htail rfl) honly

namespace Session

variable {s t : Session}

/-- Time brings widgets nearer to where their bounces go, and makes their ways back due. -/
theorem moved_bouncing (h : s.stage.Bouncing w rest []) (htidy : s.stage.animator.Tidy [])
    (dt : Float32) : (s.moved dt).Bouncing w rest (s.stage.animator.advance dt).1.due := by
  have hbounces : (s.moved dt).animator.bounces = s.stage.animator.bounces := by
    rw [moved_animator, Animator.advance_bounces]
  have hways : (s.moved dt).animator.waysBack (s.stage.animator.advance dt).1.due w =
      s.stage.animator.waysBack [] w := by
    rw [moved_animator, Animator.advance_waysBack]
  have hlive : (s.stage.canvas.widget? w).isSome := Canvas.isSome_scale?.symm.trans h.live
  rcases h.heads_or_out with ⟨hheads, hbounce, hback⟩ | ⟨pending, hpos, hbounce, hback⟩
  · have hmoved := moved_heads hheads (.scale rest) htidy dt
    exact hmoved.bouncing (hbounces ▸ hbounce) (hways.trans hback)
  · exact .out (Canvas.isSome_scale?.trans (moved_keepsWidgets dt w hlive)) pending hpos
      (hbounces ▸ hbounce) (hways.trans hback)

/-- What happens in a span of time bounces the widget at most. -/
theorem tick_bouncing (h : s.stage.Bouncing w rest []) (htidy : s.stage.animator.Tidy [])
    (dt : Float32) (honly : OnlyBounces w (s.happenings (.tick dt))) :
    (s.tick dt).value.stage.Bouncing w (restScale w rest (s.happenings (.tick dt))) [] := by
  have hsteps := runSteps_history s.config s.registry
    (p := fun done stage due => stage.animator.Tidy due ∧
      (OnlyBounces w done → stage.Bouncing w (restScale w rest done) due))
    (fun hp => ⟨Step.run_tidy hp.1, fun honly => by
      rw [restScale_append]
      exact Step.run_bouncing (hp.2 honly.left) hp.1 honly.right⟩)
    (s.stage.animator.advance dt).1.due [] (s.moved dt)
    ⟨by rw [moved_animator]; exact htidy.advance dt, fun _ => moved_bouncing h htidy dt⟩
  rw [List.nil_append] at hsteps
  -- pictures that have come are shown last, and scale nothing
  have hpoll := (s.slots.poll_displays (runSteps s.config s.registry (s.moved dt)
    (s.stage.animator.advance dt).1.due).value.canvas).links
  exact (hsteps.2 honly).congr ⟨Canvas.scale?_congr hpoll.property?_eq, rfl, rfl, fun _ => rfl⟩

/-- What an operation on a session does bounces the widget at most. -/
theorem Effect.bouncing {op : Operation} (h : Effect s op t) (hop : op.rebuilds = false)
    (hbouncing : s.stage.Bouncing w rest []) (htidy : s.stage.animator.Tidy [])
    (honly : OnlyBounces w (s.happenings op)) :
    t.stage.Bouncing w (restScale w rest (s.happenings op)) [] := by
  cases h with
  | loaded hloads => exact absurd (hop.symm.trans hloads) Bool.false_ne_true
  | cleared => cases hop
  | executed element command args => exact Step.command_bouncing hbouncing honly
  | scheduled delay element command args =>
    refine hbouncing.congr ⟨rfl, rfl, rfl, fun due => ?_⟩
    exact s.stage.animator.waysBack_schedule due w delay (.command element command args)
  | progressed element value animate =>
    rw [setProgress]
    cases s.progressBar? element with
    | error e => exact hbouncing
    | ok id =>
      have hne : (id, Property.progress) ≠ (w, .scale) := fun he => by cases he
      exact hbouncing.congr (Stage.animate_alike hne _ _)
  | ticked dt => exact tick_bouncing hbouncing htidy dt honly
  | linked hacts hanimator hcanvas =>
    rw [happenings_of_acts hacts]
    refine hbouncing.congr ⟨Canvas.scale?_congr hcanvas.property?_eq, ?_, ?_, fun due => ?_⟩ <;>
      rw [hanimator]

/-- As long as nothing but bounces is done to a widget, they come back to the scale of the
history. -/
theorem Run.bouncing (hs : Reachable s) (h : s.stage.Bouncing w rest [])
    (hrun : Run s done t) (honly : OnlyBounces w done) :
    t.stage.Bouncing w (restScale w rest done) [] := by
  induction hrun with
  | nil => exact h
  | after hrun hop hafter ih =>
    rw [restScale_append]
    exact (after_effect hafter).bouncing hop (ih honly.left) (hrun.reachable hs).tidy honly.right

/-- A widget that was at rest, and is at rest again after bounces at any times and nothing else, has
the scale that the last bounce to start afresh found. That is its first scale exactly if this
bounce, if there was one, found it at its first scale: a bounce that starts while the last of the
others is on its way back leaves the widget where it found it. -/
theorem Reachable.bounce_settles (hs : Reachable s) (hrest : s.stage.AtRest w)
    (hscale : s.stage.canvas.scale? w = some rest) (hrun : Run s done t)
    (honly : OnlyBounces w done) (ht : t.stage.AtRest w) :
    t.stage.canvas.scale? w = some (restScale w rest done) ∧
      (t.stage.canvas.scale? w = some rest ↔
        ∀ found ∈ (done.filterMap (Happening.freshRest? w)).getLast?, found = rest) := by
  have hbouncing := Run.bouncing hs (hrest.bouncing hs.tidy hscale) hrun honly
  have hsettled := hbouncing.scale_of_atRest ht
  refine ⟨hsettled, ?_⟩
  rw [hsettled, restScale]
  cases (done.filterMap (Happening.freshRest? w)).getLast? with
  | none => simp
  | some found => simp

/-! ### Two bounces -/

/-- Whether a widget that is at rest with one scale is at rest with another after operations that do
nothing to it but bounces. -/
def comesToRest (s : Session) (w : WidgetId) (rest found : Vec3) (ops : List Operation) : Bool :=
  decide (s.stage.AtRest w) && decide (s.stage.canvas.scale? w = some rest) &&
    (s.play ops).any fun (done, t) =>
      decide (OnlyBounces w done) && decide (t.stage.AtRest w) &&
        decide (t.stage.canvas.scale? w = some found)

theorem run_of_comesToRest {found : Vec3} {ops : List Operation}
    (h : s.comesToRest w rest found ops = true) :
    s.stage.AtRest w ∧ s.stage.canvas.scale? w = some rest ∧ ∃ done t, Run s done t ∧
      OnlyBounces w done ∧ t.stage.AtRest w ∧ t.stage.canvas.scale? w = some found := by
  simp only [comesToRest, Bool.and_eq_true, decide_eq_true_eq, Option.any_eq_true] at h
  obtain ⟨⟨hrest, hscale⟩, ⟨done, t⟩, hplay, ⟨honly, ht⟩, hfound⟩ := h
  exact ⟨hrest, hscale, done, t, run_of_play hplay, honly, ht, hfound⟩

/-- A document of a panel. -/
def panel : Element :=
  { tag := "UIML"
    children := [{ tag := "Panel", attributes := [⟨"name", "b"⟩] }] }

/-- A bounce of a second on the panel, another one after a while, and time to come back. -/
def twoBounces (between afterwards : List Float32) : List Operation :=
  .execute "b" "bounce" ["1"] :: between.map .tick ++
    .execute "b" "bounce" ["1"] :: afterwards.map .tick

/-- A bounce that starts on the way out of another one is back with it. -/
theorem bounce_settles_twoBounces :
    ∃ s done t, (Session.new {} {} {}).after (.loadDocument panel) = .ok s ∧ Run s done t ∧
      t.stage.canvas.scale? ⟨0⟩ = some (restScale ⟨0⟩ .one done) ∧
      t.stage.canvas.scale? ⟨0⟩ = some .one := by
  have hvalue : ((Session.new {} {} {}).after (.loadDocument panel)).toOption.any
      (comesToRest · ⟨0⟩ .one .one (twoBounces [0.25] [0.25, 0.25, 0.5])) = true := by
    decide +kernel
  cases hafter : (Session.new {} {} {}).after (.loadDocument panel) with
  | error breakdown => rw [hafter] at hvalue; cases hvalue
  | ok s =>
    rw [hafter] at hvalue
    obtain ⟨hrest, hscale, done, t, hrun, honly, ht, hfound⟩ := run_of_comesToRest hvalue
    have hreachable : Reachable s := .after (.new {} {} {}) hafter
    exact ⟨s, done, t, rfl, hrun,
      (Reachable.bounce_settles hreachable hrest hscale hrun honly ht).1, hfound⟩

/-- A bounce that starts half way back from another one comes back there. -/
theorem bounce_twoBounces :
    ∃ s done t, Reachable s ∧ s.stage.AtRest ⟨0⟩ ∧ s.stage.canvas.scale? ⟨0⟩ = some .one ∧
      Run s done t ∧ OnlyBounces ⟨0⟩ done ∧ t.stage.AtRest ⟨0⟩ ∧
      t.stage.canvas.scale? ⟨0⟩ ≠ some .one := by
  have hvalue : ((Session.new {} {} {}).after (.loadDocument panel)).toOption.any
      (comesToRest · ⟨0⟩ .one (.splat (Float32.ofBits 0x3f8ccccd))
        (twoBounces [0.5, 0.25] [0.5, 0.5])) = true := by decide +kernel
  cases hafter : (Session.new {} {} {}).after (.loadDocument panel) with
  | error breakdown => rw [hafter] at hvalue; cases hvalue
  | ok s =>
    rw [hafter] at hvalue
    obtain ⟨hrest, hscale, done, t, hrun, honly, ht, hfound⟩ := run_of_comesToRest hvalue
    refine ⟨s, done, t, .after (.new {} {} {}) hafter, hrest, hscale, hrun, honly, ht, ?_⟩
    rw [hfound]
    decide +kernel

end Session

end Uiml
