import Uiml.Proofs.Animation.LastScale
import Uiml.Proofs.Session.Moment

/-!
# Animations do not jump

The value of a property and its animation are kept apart, and are changed by many commands. They
fit together all the same: an animation that has just been started finds the property at its start,
and once time has passed the property is where the animation is on its way. So an animation that
takes the place of another starts from the value that the other has shown last. Progress is not
looked at here: a progress bar keeps its value in its range.

## Main definitions

* `Stage.Handover` — what may become of the animation of a property
* `Moment.begins`, `fresh` — the animations that a beat starts, and those for which no time has
  passed since they were started
* `Trace.shown` — the value that an animation shows after all that has happened

## Main results

* `Action.run_handover`, `Moment.Next.handover` — actions and beats start animations from where the
  property is, and start only those that they are said to start
* `Life.animations_continuous` — at every moment an animated property has the value that its
  animation shows, and the next animation starts from there
-/

namespace Uiml

variable {w id : WidgetId} {property : Property} {source target : TweenValue}
  {stage stage' stage'' : Stage} {starts : Bool}

theorem TweenValue.Suits.lerp {v v' : TweenValue} (h : v.Suits property) (h' : v'.Suits property)
    (t : Float32) : (v.lerp v' t).Suits property := by
  cases h <;> cases h' <;> constructor

/-- A widget has values that suit its properties. -/
theorem Canvas.suits_of_property? {canvas : Canvas} (hproperty : property ≠ .progress)
    (h : canvas.property? w property = some source) : source.Suits property := by
  obtain ⟨handle, -, hvalue⟩ := Option.bind_eq_some_iff.mp h
  cases property with
  | progress => exact absurd rfl hproperty
  | alpha | position | scale =>
    cases hvalue
    constructor

namespace Stage

/-- What may become of the animation of a property: it stays as it is, it comes to an end, or it
gives way to one that starts where the property is. -/
inductive Handover (w : WidgetId) (property : Property) (stage stage' : Stage) : Bool → Prop
  | stays (h : SameCourse w property stage stage') : Handover w property stage stage' false
  | ends (h : stage'.animator.tracks.get? (w, property) = none) :
      Handover w property stage stage' false
  | starts {source target : TweenValue} {duration : Float32} (hsuits : target.Suits property)
      (hbefore : stage.canvas.property? w property = some source)
      (hafter : stage'.canvas.property? w property = some source)
      (htrack : stage'.animator.tracks.get? (w, property) = some ⟨source, target, 0, duration⟩) :
      Handover w property stage stage' true

theorem Handover.sameCourse (h : Handover w property stage stage' starts)
    (hsame : SameCourse w property stage' stage'') :
    Handover w property stage stage'' starts := by
  cases h with
  | stays h => exact .stays (h.trans hsame)
  | ends h => exact .ends (hsame.track.trans h)
  | starts hsuits hbefore hafter htrack =>
    exact .starts hsuits hbefore (hsame.value.trans hafter) (hsame.track.trans htrack)

theorem SameCourse.handover (h : SameCourse w property stage stage')
    (hnext : Handover w property stage' stage'' starts) :
    Handover w property stage stage'' starts := by
  cases hnext with
  | stays hsame => exact .stays (h.trans hsame)
  | ends htrack => exact .ends htrack
  | starts hsuits hbefore hafter htrack =>
    exact .starts hsuits (h.value.symm.trans hbefore) hafter htrack

/-- A property is animated from where it is, or is given its target at once. -/
theorem animate_handover (hsuits : target.Suits property)
    (hlive : (stage.canvas.widget? w).isSome) (duration : Float32) :
    Handover w property stage (stage.animate w property target duration).value
      (Animator.takesTime duration) := by
  obtain ⟨source, hsource⟩ := Option.isSome_iff_exists.mp (isSome_property? hsuits hlive)
  have hbind : ((stage.widget? w).bind fun h => h.property? property) = some source := hsource
  rw [animate, hbind]
  simp only
  by_cases htime : Animator.takesTime duration = true
  · rw [htime, Animator.start_of_takesTime _ _ _ _ _ htime]
    have htrack : (stage.animator.tracks.insert (w, property) ⟨source, target, 0, duration⟩).get?
        (w, property) = some ⟨source, target, 0, duration⟩ :=
      (Table.get?_insert ..).trans (if_pos rfl)
    exact .starts hsuits hsource hsource htrack
  · rw [Bool.not_eq_true] at htime
    rw [htime]
    rcases stage.animator.start_cases w property source target duration with
      ⟨hnow, htrack⟩ | ⟨hnow, -⟩
    · rw [hnow]
      exact .ends htrack
    · -- without time for it, nothing is started
      rw [Animator.start_of_not_takesTime _ _ _ _ _ htime] at hnow
      cases hnow

section Live

variable (hlive : (stage.canvas.widget? w).isSome) (duration : Float32)

include hlive

/-- A widget that is revealed is animated in all that can be animated, one after the other. -/
theorem reveal_handover (hproperty : property ≠ .progress) :
    Handover w property stage (stage.reveal w duration).value (Animator.takesTime duration) := by
  simp only [reveal, Logged.bind_value]
  let lit : Stage := (stage.animate w .alpha (.scalar 1) duration).value
  let placed : Stage := (lit.animate w .position (.vec2 (stage.homePosition w)) duration).value
  have hlit : (lit.canvas.widget? w).isSome :=
    (stage.animate_changesOf w .alpha (.scalar 1) duration).keepsWidgets w hlive
  have hplaced : (placed.canvas.widget? w).isSome :=
    (lit.animate_changesOf w .position (.vec2 (stage.homePosition w)) duration).keepsWidgets w hlit
  cases property with
  | alpha =>
    have hstarts := animate_handover (.alpha 1) hlive duration
    exact (hstarts.sameCourse (animate_sameCourse_of_ne (by simp) _ _)).sameCourse
      (animate_sameCourse_of_ne (by simp) _ _)
  | position =>
    have hstarts := animate_handover (.position (stage.homePosition w)) hlit duration
    exact SameCourse.handover (animate_sameCourse_of_ne (by simp) _ _)
      (hstarts.sameCourse (animate_sameCourse_of_ne (by simp) _ _))
  | scale =>
    have hstarts := animate_handover (.scale .one) hplaced duration
    exact SameCourse.handover (animate_sameCourse_of_ne (by simp) _ _)
      (SameCourse.handover (animate_sameCourse_of_ne (by simp) _ _) hstarts)
  | progress => exact absurd rfl hproperty

theorem slide_handover (config : Config) (direction : SlideDirection) :
    Handover w .position stage (stage.slide config w direction duration).value
      (Animator.takesTime duration) := by
  obtain ⟨h, hw⟩ : ∃ h, stage.widget? w = some h := Option.isSome_iff_exists.mp hlive
  rw [slide, hw]
  exact animate_handover (.position _) hlive duration

theorem conceal_handover (config : Config) (hproperty : property = .alpha ∨ property = .position) :
    Handover w property stage (stage.conceal config w duration).value
      (Animator.takesTime duration) := by
  simp only [conceal, Logged.bind_value]
  rcases hproperty with rfl | rfl
  · exact (animate_handover (.alpha 0) hlive duration).sameCourse
      (slide_sameCourse (by simp) .left duration)
  · have hlit := (stage.animate_changesOf w .alpha (.scalar 0) duration).keepsWidgets w hlive
    exact SameCourse.handover (animate_sameCourse_of_ne (by simp) _ _)
      (slide_handover hlit duration config .left)

theorem bounce_handover (config : Config) :
    Handover w .scale stage (stage.bounce config w duration).value
      (Animator.takesTime (duration / 2)) := by
  obtain ⟨h, hw⟩ : ∃ h, stage.widget? w = some h := Option.isSome_iff_exists.mp hlive
  rw [bounce, hw]
  simp only
  let begun : Stage :=
    ⟨stage.canvas, (stage.animator.beginBounce w h.transform.scale (duration / 2)).2⟩
  have hbegun : (begun.canvas.widget? w).isSome := hlive
  have hsame : SameCourse w .scale stage begun := ⟨rfl, rfl, fun _ hj => hj⟩
  exact hsame.handover (animate_handover (.scale _) hbegun (duration / 2))

end Live

end Stage

namespace Action

/-- The properties of a widget that an action moves, if there is time for it. -/
def motions (stage : Stage) (w : WidgetId) : Action → List Property
  | .show _ => [.alpha, .position, .scale]
  | .hide _ => [.alpha, .position]
  | .toggle _ => if stage.isVisible w then [.alpha, .position] else [.alpha, .position, .scale]
  | .fade _ _ => [.alpha]
  | .moveTo _ _ | .moveHome _ | .slide _ _ => [.position]
  | .scale _ _ | .bounce _ => [.scale]
  | .setAlpha _ | .setInteractable _ | .setText _ | .restore => []

/-- The time that an action takes to move properties. A bounce moves out in half of its time. -/
def seconds : Action → Float32
  | .show duration | .hide duration | .toggle duration | .fade _ duration | .moveTo _ duration
  | .moveHome duration | .scale _ duration | .slide _ duration => duration
  | .bounce duration => duration / 2
  | .setAlpha _ | .setInteractable _ | .setText _ | .restore => 0

/-- The properties of a widget of which an action starts an animation. -/
def begins (stage : Stage) (w : WidgetId) (action : Action) : List Property :=
  if Animator.takesTime action.seconds then action.motions stage w else []

variable {config : Config} {action : Action} {ran : Logged Stage}

theorem mem_begins_iff :
    property ∈ action.begins stage w ↔
      Animator.takesTime action.seconds = true ∧ property ∈ action.motions stage w := by
  rw [begins]
  split <;> simp [*]

/-- What an action moves is animated from where it is. -/
theorem run_handover_of_mem (h : action.run config w stage = .ok ran)
    (hlive : (stage.canvas.widget? w).isSome) (hmem : property ∈ action.motions stage w) :
    Stage.Handover w property stage ran.value (Animator.takesTime action.seconds) := by
  cases action with
  | «show» duration =>
    cases h
    exact Stage.reveal_handover hlive duration (by rintro rfl; simp [motions] at hmem)
  | hide duration =>
    cases h
    exact Stage.conceal_handover hlive duration config (by simpa [motions] using hmem)
  | toggle duration =>
    rw [run_toggle] at h
    cases h
    rw [motions] at hmem
    by_cases hvisible : stage.isVisible w = true
    · rw [if_pos hvisible] at hmem ⊢
      exact Stage.conceal_handover hlive duration config (by simpa using hmem)
    · rw [if_neg hvisible] at hmem ⊢
      exact Stage.reveal_handover hlive duration (by rintro rfl; simp at hmem)
  | fade alpha duration =>
    cases h
    obtain rfl := List.mem_singleton.mp hmem
    exact Stage.animate_handover (.alpha alpha) hlive duration
  | moveTo position duration =>
    cases h
    obtain rfl := List.mem_singleton.mp hmem
    exact Stage.animate_handover (.position position) hlive duration
  | moveHome duration =>
    cases h
    obtain rfl := List.mem_singleton.mp hmem
    exact Stage.animate_handover (.position _) hlive duration
  | scale factor duration =>
    cases h
    obtain rfl := List.mem_singleton.mp hmem
    exact Stage.animate_handover (.scale _) hlive duration
  | slide direction duration =>
    cases h
    obtain rfl := List.mem_singleton.mp hmem
    exact Stage.slide_handover hlive duration config direction
  | bounce duration =>
    cases h
    obtain rfl := List.mem_singleton.mp hmem
    exact Stage.bounce_handover hlive duration config
  | setAlpha | setInteractable | setText | restore => cases hmem

theorem leaves_of_not_mem (hmem : property ∉ action.motions stage w)
    (hproperty : property ≠ .progress) (halpha : ∀ alpha, action ≠ .setAlpha alpha)
    (hrestore : action ≠ .restore) : action.Leaves config stage w property := by
  cases action with
  | setAlpha alpha => exact absurd rfl (halpha alpha)
  | restore => exact absurd rfl hrestore
  | toggle duration =>
    by_cases hvisible : stage.isVisible w = true <;> cases property <;>
      simp_all [motions, Leaves, scaleTarget?]
  | _ => cases property <;> first | rfl | simp [motions] at hmem hproperty

/-- What an action does not move, it leaves alone, or it ends its animation. -/
theorem run_handover_of_not_mem (h : action.run config w stage = .ok ran)
    (hlive : (stage.canvas.widget? w).isSome) (hproperty : property ≠ .progress)
    (hmem : property ∉ action.motions stage w) :
    Stage.Handover w property stage ran.value false := by
  by_cases hleaves : action.Leaves config stage w property
  · exact .stays (run_sameCourse h hlive hleaves)
  · refine .ends ?_
    -- only to restore a widget and to set its opacity touch what they do not move
    by_cases hrestore : action = .restore
    · subst hrestore
      cases h
      exact (congrArg (fun a => a.tracks.get? (w, property)) (stage.restore_animator w)).trans
        (stage.animator.get?_tracks_cancelWidget w property)
    · obtain ⟨alpha, rfl⟩ : ∃ alpha, action = .setAlpha alpha := by
        by_contra hnone
        exact hleaves
          (leaves_of_not_mem hmem hproperty (fun alpha he => hnone ⟨alpha, he⟩) hrestore)
      obtain rfl : property = .alpha := by
        by_contra hne
        refine hleaves ?_
        cases property <;>
          first | rfl | exact absurd rfl hne | exact absurd rfl hproperty
      cases h
      exact (Table.get?_erase ..).trans (if_pos rfl)

/-- An action starts an animation of just the properties that it is said to, each from where it
is. -/
theorem run_handover (h : action.run config w stage = .ok ran)
    (hlive : (stage.canvas.widget? w).isSome) (hproperty : property ≠ .progress) :
    Stage.Handover w property stage ran.value (decide (property ∈ action.begins stage w)) := by
  by_cases hmem : property ∈ action.motions stage w
  · have hstarts := run_handover_of_mem h hlive hmem
    rwa [show decide (property ∈ action.begins stage w) = Animator.takesTime action.seconds by
      simp [mem_begins_iff, hmem]]
  · have hstays := run_handover_of_not_mem h hlive hproperty hmem
    rwa [show decide (property ∈ action.begins stage w) = false by simp [mem_begins_iff, hmem]]

end Action

/-! ### Beats -/

namespace Moment

variable {m m' : Moment} {beat : Beat}

/-- The properties of which a beat starts an animation, with their widgets. -/
def begins (m : Moment) (beat : Beat) : List (WidgetId × Property) :=
  match m.happening? beat, m.wayBack? beat with
  | some happening, _ =>
    (happening.action.begins happening.stage happening.widget).map (happening.widget, ·)
  | none, some (id, duration) =>
    if (m.session.stage.animator.bounces.get? id).isSome && Animator.takesTime duration then
      [(id, .scale)]
    else []
  | none, none => []

theorem mem_begins_of_happening? {action : Action}
    (h : m.happening? beat = some ⟨m.session.stage, id, action⟩) :
    (w, property) ∈ m.begins beat ↔ id = w ∧ property ∈ action.begins m.session.stage id := by
  rw [begins, h]
  simp only [List.mem_map, Prod.mk.injEq]
  constructor
  · rintro ⟨property, hmem, rfl, rfl⟩
    exact ⟨rfl, hmem⟩
  · rintro ⟨rfl, hmem⟩
    exact ⟨property, hmem, rfl, rfl⟩

theorem mem_begins_of_wayBack? {duration : Float32} (h : m.wayBack? beat = some (id, duration)) :
    (w, property) ∈ m.begins beat ↔ (m.session.stage.animator.bounces.get? id).isSome = true ∧
      Animator.takesTime duration = true ∧ (w, property) = (id, .scale) := by
  rw [begins, happening?_of_wayBack? h, h]
  simp only [← Bool.and_eq_true, ← and_assoc]
  split
  · next hstarts => rw [List.mem_singleton, and_iff_right hstarts]
  · next hstarts => exact iff_of_false List.not_mem_nil fun he => hstarts he.1

/-- The way back of a bounce starts where the widget is, if it has somewhere to lead. -/
theorem settle_handover (config : Config) (registry : Registry) (duration : Float32)
    (hlive : (stage.canvas.widget? w).isSome) :
    Stage.Handover w property stage ((Step.settle id duration).run config registry stage).value
      (decide ((stage.animator.bounces.get? id).isSome = true ∧
        Animator.takesTime duration = true ∧ (w, property) = (id, .scale))) := by
  by_cases hkey : (w, property) = (id, .scale)
  · obtain ⟨rfl, rfl⟩ := Prod.mk.inj hkey
    let settled : Stage := ⟨stage.canvas, (stage.animator.settleBounce w).2⟩
    have hsettled : Stage.SameCourse w .scale stage settled :=
      ⟨rfl, by rw [Animator.settleBounce_tracks], fun _ hj => hj⟩
    have hlive' : (settled.canvas.widget? w).isSome := hlive
    rw [Step.run_settle]
    -- a way back that finds no bounce leads nowhere
    cases stage.animator.bounces.get? w with
    | none => simpa using Stage.Handover.stays hsettled
    | some rest =>
      have hback := hsettled.handover (Stage.animate_handover (.scale rest.scale) hlive' duration)
      simpa using hback
  · simp only [hkey, and_false, decide_false]
    exact .stays (Step.settle_sameCourse (Ne.symm hkey))

/-- A beat starts an animation of just the properties that it is said to, each from where it is. -/
theorem Next.handover (hnext : m.Next beat m') (hclears : m.clears beat = false)
    (htidy : m.session.stage.animator.Tidy m.left) (hlinked : m.session.IsLinked)
    (htime : beat.passesTime = false) (hproperty : property ≠ .progress)
    (hlive : (m.session.stage.canvas.widget? w).isSome) :
    Stage.Handover w property m.session.stage m'.session.stage
      (decide ((w, property) ∈ m.begins beat)) := by
  have hdoes := hnext.does hclears htidy hlinked
  generalize m'.session.stage = stage' at hdoes
  cases hdoes with
  | @acted _ id action ran hhappening hrun hlive' =>
    simp only [mem_begins_of_happening? hhappening]
    by_cases hid : id = w
    · subst hid
      simpa using Action.run_handover hrun hlive hproperty
    · simpa [hid] using Stage.Handover.stays ((Action.run_changesOf hrun).sameCourse (Ne.symm hid))
  | cameBack hback =>
    simp only [mem_begins_of_wayBack? hback]
    exact settle_handover _ _ _ hlive
  | moved => cases htime
  | aside hhappening hback _ haside =>
    rw [begins, hhappening, hback]
    exact .stays (haside.sameCourse hproperty hlive)

/-- Time starts nothing. -/
theorem begins_of_passesTime (htime : beat.passesTime = true) : m.begins beat = [] := by
  cases beat with
  | time dt => rfl
  | operation | step | close => cases htime

/-- Without a widget nothing is animated. -/
theorem Next.track_of_not_live (hnext : m.Next beat m') (hclears : m.clears beat = false)
    (htidy : m.session.stage.animator.Tidy m.left) (hlinked : m.session.IsLinked)
    (htime : beat.passesTime = false) (hproperty : property ≠ .progress)
    (hlive : m.session.stage.canvas.widget? w = none) :
    m'.session.stage.animator.tracks.get? (w, property) =
      m.session.stage.animator.tracks.get? (w, property) := by
  have hdoes := hnext.does hclears htidy hlinked
  generalize m'.session.stage = stage' at hdoes
  cases hdoes with
  | acted hhappening hrun hlive' =>
    refine ((Action.run_changesOf hrun).sameCourse ?_).track
    rintro rfl
    rw [hlive] at hlive'
    cases hlive'
  | @cameBack _ id duration hback =>
    by_cases hkey : (id, Property.scale) = (w, property)
    · obtain ⟨rfl, rfl⟩ := Prod.mk.inj hkey
      rw [Step.run_settle]
      cases m.session.stage.animator.bounces.get? id with
      | none => rw [Animator.settleBounce_tracks]
      | some rest =>
        simp only [Stage.animate, Stage.widget?, hlive, Option.bind_none]
        exact congrArg (fun t => t.get? (id, Property.scale))
          (m.session.stage.animator.settleBounce_tracks id)
    · exact (Step.settle_sameCourse hkey).track
  | moved => cases htime
  | aside _ _ _ haside =>
    cases haside with
    | linked | scheduled => rfl
    | grown h => rw [h.animator]
    | progressed id value duration =>
      exact (Stage.animate_sameCourse (fun he => hproperty (congrArg Prod.snd he).symm) _ _).track

/-- Every animation shows its start if it is among some that have just been started, and otherwise
how far it has got. -/
def ShowsTracks (started : List (WidgetId × Property)) (m : Moment) : Prop :=
  ∀ w property track, property ≠ .progress →
    m.session.stage.animator.tracks.get? (w, property) = some track →
      track.start.Suits property ∧ track.target.Suits property ∧
        m.session.stage.canvas.property? w property =
          some (if (w, property) ∈ started then track.start
            else track.start.lerp track.target (track.elapsed / track.duration))

variable {started : List (WidgetId × Property)}

/-- Time shows every animation where it has got. -/
theorem ShowsTracks.time (h : ShowsTracks started m) (hnext : m.Next beat m')
    (htidy : m.session.stage.animator.Tidy m.left) (htime : beat.passesTime = true) :
    ShowsTracks [] m' := by
  cases hnext with
  | operation | step | close => cases htime
  | time s dt =>
    intro w property track hproperty htrack
    obtain ⟨before, seconds, hbefore, rfl, hmoved, hunfinished⟩ :=
      Session.exists_of_track_moved htidy.distinct htrack
    obtain ⟨hstart, htarget, hvalue⟩ := h w property before hproperty hbefore
    have hlive : (s.stage.canvas.widget? w).isSome := Canvas.live_of_property? hvalue
    have hupdate := Session.mem_updates htidy.distinct hmoved
    rw [Track.value, hunfinished, if_neg Bool.false_ne_true] at hupdate
    refine ⟨hstart, htarget, ?_⟩
    rw [if_neg List.not_mem_nil]
    exact Session.property?_applyUpdates (Session.updates_nodup htidy.distinct dt) hupdate
      (hstart.lerp htarget _) hlive

/-- What is not time leaves animations alone, ends them, or starts them from where they are. -/
theorem ShowsTracks.other (h : ShowsTracks started m) (hnext : m.Next beat m')
    (hclears : m.clears beat = false) (htidy : m.session.stage.animator.Tidy m.left)
    (hlinked : m.session.IsLinked) (htime : beat.passesTime = false) :
    ShowsTracks (started ++ m.begins beat) m' := by
  intro w property track hproperty htrack
  by_cases hlive : (m.session.stage.canvas.widget? w).isSome = true
  · have hhandover := hnext.handover hclears htidy hlinked htime hproperty hlive
    by_cases hmem : (w, property) ∈ m.begins beat
    · rw [decide_eq_true hmem] at hhandover
      cases hhandover with
      | starts hsuits hbefore hafter hstarted =>
        cases htrack.symm.trans hstarted
        rw [if_pos (List.mem_append_right _ hmem)]
        exact ⟨Canvas.suits_of_property? hproperty hbefore, hsuits, hafter⟩
    · rw [decide_eq_false hmem] at hhandover
      cases hhandover with
      | ends hended =>
        rw [hended] at htrack
        cases htrack
      | stays hsame =>
        obtain ⟨hstart, htarget, hvalue⟩ := h w property track hproperty (hsame.track ▸ htrack)
        refine ⟨hstart, htarget, hsame.value.trans (hvalue.trans ?_)⟩
        simp only [List.mem_append, hmem, or_false]
  · -- nothing of a widget that is not there can be animated, since it would have no value to show
    rw [Bool.not_eq_true, Option.isSome_eq_false_iff, Option.isNone_iff_eq_none] at hlive
    rw [hnext.track_of_not_live hclears htidy hlinked htime hproperty hlive] at htrack
    obtain ⟨-, -, hvalue⟩ := h w property track hproperty htrack
    rw [Canvas.property?, hlive] at hvalue
    cases hvalue

end Moment

/-- The animations for which no time has passed since they were started. -/
def fresh (trace : Trace) : List (WidgetId × Property) :=
  trace.foldl (fun fresh (m, beat) => if beat.passesTime then [] else fresh ++ m.begins beat) []

variable {m m' : Moment} {beat : Beat} {trace : Trace} {track : Track}

theorem fresh_next (trace : Trace) (m : Moment) (beat : Beat) :
    fresh (trace ++ [(m, beat)]) =
      if beat.passesTime then [] else fresh trace ++ m.begins beat := by
  rw [fresh, List.foldl_append, fresh]
  rfl

/-- The value that an animation shows after all that has happened: its start, as long as no time has
passed since it was started, and then its share of the way. -/
def Track.shown (track : Track) (trace : Trace) (w : WidgetId) (property : Property) : TweenValue :=
  if (w, property) ∈ fresh trace then track.start
  else track.start.lerp track.target (track.elapsed / track.duration)

namespace Life

/-- At every moment every animation is shown. -/
theorem showsTracks (h : Life trace m) : m.ShowsTracks (fresh trace) := by
  induction h with
  | new =>
    intro w property track _ htrack
    cases htrack
  | @next trace m m' beat hlife hnext ih =>
    rw [fresh_next]
    by_cases htime : beat.passesTime = true
    · rw [if_pos htime]
      exact ih.time hnext hlife.tidy htime
    · rw [if_neg htime]
      rw [Bool.not_eq_true] at htime
      by_cases hclears : m.clears beat = true
      · intro w property track _ htrack
        rw [hnext.animator_of_clears hclears] at htrack
        cases htrack
      · exact ih.other hnext (Bool.not_eq_true _ ▸ hclears) hlife.tidy hlife.isLinked htime

/-- At every moment a property that is being animated has the value that its animation shows: the
start of the animation, as long as no time has passed since it was started, and then its share of
the way. Whatever happens next, the animation goes on, or if another one takes its place, that
starts from the value that was shown last. -/
theorem animations_continuous (h : Life trace m) (hproperty : property ≠ .progress)
    (htrack : m.session.stage.animator.tracks.get? (w, property) = some track) :
    m.session.stage.canvas.property? w property = some (track.shown trace w property) ∧
      ∀ beat m' track', m.Next beat m' →
        m'.session.stage.animator.tracks.get? (w, property) = some track' →
          if (w, property) ∈ m.begins beat then
            track'.start = track.shown trace w property ∧ track'.elapsed = 0
          else ∃ elapsed, track' = { track with elapsed } := by
  obtain ⟨-, -, hvalue⟩ := h.showsTracks w property track hproperty htrack
  refine ⟨hvalue, fun beat m' track' hnext htrack' => ?_⟩
  have hclears : m.clears beat = false := by
    by_contra hclears
    rw [hnext.animator_of_clears (Bool.not_eq_false _ ▸ hclears)] at htrack'
    cases htrack'
  by_cases htime : beat.passesTime = true
  · rw [Moment.begins_of_passesTime htime, if_neg List.not_mem_nil]
    cases hnext with
    | operation | step | close => cases htime
    | time s dt =>
      obtain ⟨before, seconds, hbefore, rfl, -⟩ :=
        Session.exists_of_track_moved h.tidy.distinct htrack'
      cases htrack.symm.trans hbefore
      exact ⟨_, rfl⟩
  · rw [Bool.not_eq_true] at htime
    have hhandover := hnext.handover hclears h.tidy h.isLinked htime hproperty
      (Canvas.live_of_property? hvalue)
    by_cases hmem : (w, property) ∈ m.begins beat
    · rw [if_pos hmem]
      rw [decide_eq_true hmem] at hhandover
      cases hhandover with
      | starts _ hbefore _ hstarted =>
        cases htrack'.symm.trans hstarted
        exact ⟨Option.some.inj (hbefore.symm.trans hvalue), rfl⟩
    · rw [if_neg hmem]
      rw [decide_eq_false hmem] at hhandover
      cases hhandover with
      | ends hended =>
        rw [hended] at htrack'
        cases htrack'
      | stays hsame =>
        cases htrack.symm.trans (hsame.track.symm.trans htrack')
        exact ⟨track.elapsed, rfl⟩

/-- A panel that fades in when it has faded out by a quarter starts from there. -/
theorem animations_continuous_twoFades :
    ∃ trace s track t track', Life trace ⟨s, none⟩ ∧ Property.alpha ≠ .progress ∧
      s.stage.animator.tracks.get? (⟨0⟩, .alpha) = some track ∧
      s.stage.canvas.property? ⟨0⟩ .alpha = some (track.shown trace ⟨0⟩ .alpha) ∧
      s.after (.execute "b" "fade" ["1", "1"]) = .ok t ∧
      t.stage.animator.tracks.get? (⟨0⟩, .alpha) = some track' ∧
      track'.start = track.shown trace ⟨0⟩ .alpha ∧ track'.start = .scalar 0.75 := by
  obtain ⟨loaded, hloaded, hvalue⟩ := Session.exists_past_panel
    (p := fun s => (s.play [.execute "b" "fade" ["1", "0"], .tick 0.25]).any fun played =>
      let s := played.2
      (s.stage.animator.tracks.get? (⟨0⟩, .alpha)).isSome &&
        decide ((⟨0⟩, .alpha) ∈ Moment.begins ⟨s, none⟩
          (.operation (.execute "b" "fade" ["1", "1"]))) &&
        ((s.execute "b" "fade" ["1", "1"]).value.2.stage.animator.tracks.get? (⟨0⟩, .alpha)).any
          fun track' => track'.start = .scalar 0.75)
    (by decide +kernel)
  obtain ⟨⟨done, s⟩, hplay, hvalue⟩ := (Option.any_eq_true ..).mp hvalue
  simp only [Bool.and_eq_true, decide_eq_true_eq, Option.any_eq_true] at hvalue
  obtain ⟨⟨hsome, hbegins⟩, track', htrack', hstart⟩ := hvalue
  obtain ⟨track, htrack⟩ := Option.isSome_iff_exists.mp hsome
  have hreachable : s.Reachable := (Session.run_of_play hplay).reachable hloaded.reachable
  obtain ⟨trace, hlife⟩ := hreachable.exists_life
  have hafter : s.after (.execute "b" "fade" ["1", "1"]) =
      .ok (s.execute "b" "fade" ["1", "1"]).value.2 := rfl
  obtain ⟨hshown, hnext⟩ := Life.animations_continuous hlife (by simp) htrack
  have hstarts := hnext _ _ track' (.operation rfl hafter) htrack'
  rw [if_pos hbegins] at hstarts
  exact ⟨trace, s, track, _, track', hlife, by simp, htrack, hshown, hafter, htrack', hstarts.1,
    hstart⟩

end Life

end Uiml
