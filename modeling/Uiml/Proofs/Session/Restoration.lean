import Uiml.Proofs.Animation.Balance
import Uiml.Proofs.Canvas.Faithful
import Uiml.Proofs.Session.Origin

/-!
# Restorations last

A command that restores an element gives its widget the place and the state that it was made with,
and full opacity and size, whatever has been done to the widget since, and whether the command is
given at once or comes due among other steps. What was in store for the widget is forgotten, and what
has come due already finds nothing to go on with. So the widget goes on to look the same, until
something else is done to it.

## Main definitions

* `Stage.Rests` — a widget looks in some way, and nothing is under way that changes that
* `Moment.RestoreCommand` — a command to restore a widget is given in a beat
* `Moment.Spares` — a beat does nothing to a widget, and does not take it away

## Main results

* `Moment.Next.session_of_restoreCommand` — what the command does
* `Moment.Next.rests`, `Moment.Course.rests` — a widget that rests and is spared goes on to rest
* `Life.restoration_lasts` — a widget that is restored is as it was made, to restore it again
  changes nothing, and it looks the same as long as it is spared
-/

namespace Uiml

variable {w id : WidgetId} {property : Property} {looks : Looks}

/-! ### What changes how a widget looks -/

namespace Canvas

variable {canvas canvas' : Canvas}

theorem looks?_congr (h : canvas'.widget? w = canvas.widget? w) :
    canvas'.looks? w = canvas.looks? w := by
  rw [looks?, h, looks?]

/-- What slots do to widgets is not seen in how they look. -/
theorem Links.looks?_eq (h : Links canvas canvas') : canvas'.looks? w = canvas.looks? w := by
  have hstem := congrArg (Option.map Handle.looks) (h.stem (j := w))
  rwa [Option.map_map, Option.map_map] at hstem

theorem looks?_setProgress (canvas : Canvas) (id w : WidgetId) (value : Float32) :
    (canvas.setProgress id value).2.looks? w = canvas.looks? w := by
  rw [setProgress]
  split
  · refine map_widget?_update Handle.looks ?_ w
    exact fun _ _ => rfl
  · rfl

/-- A value for another widget, or for its progress, is not seen in how a widget looks. -/
theorem looks?_applyValue (hproperty : id = w → property = .progress) (value : TweenValue) :
    (canvas.applyValue id property value).value.looks? w = canvas.looks? w := by
  by_cases hid : id = w
  · obtain rfl := hproperty hid
    rw [applyValue]
    cases canvas.widget? id with
    | none => rfl
    | some h =>
      cases value with
      | scalar v => exact canvas.looks?_setProgress id w v
      | vec2 | vec3 => rfl
  · exact looks?_congr ((canvas.applyValue_changesOf id property value).widget?_of_ne (Ne.symm hid))

end Canvas

theorem Session.looks?_applyUpdates {stage : Stage} {updates : List TweenUpdate}
    (h : ∀ u ∈ updates, u.widget = w → u.property = .progress) :
    (applyUpdates stage updates).value.canvas.looks? w = stage.canvas.looks? w := by
  induction updates generalizing stage with
  | nil => rfl
  | cons u updates ih =>
    obtain ⟨hu, hrest⟩ := List.forall_mem_cons.mp h
    rw [applyUpdates_cons, ih hrest]
    exact Canvas.looks?_applyValue hu u.value

namespace Stage

variable {stage stage' stage'' : Stage}

/-- Nothing is different in how a widget looks, nor in what may change that. -/
structure Undisturbed (w : WidgetId) (stage stage' : Stage) : Prop where
  looks : stage'.canvas.looks? w = stage.canvas.looks? w
  tracks : ∀ property ≠ .progress,
    stage'.animator.tracks.get? (w, property) = stage.animator.tracks.get? (w, property)
  bounces : stage'.animator.bounces.get? w = stage.animator.bounces.get? w

theorem Undisturbed.trans (h : Undisturbed w stage stage') (h' : Undisturbed w stage' stage'') :
    Undisturbed w stage stage'' where
  looks := h'.looks.trans h.looks
  tracks := fun property hproperty =>
    (h'.tracks property hproperty).trans (h.tracks property hproperty)
  bounces := h'.bounces.trans h.bounces

/-- What is done to one widget does not disturb another. -/
theorem ChangesOf.undisturbed (h : ChangesOf id stage stage') (hne : w ≠ id) :
    Undisturbed w stage stage' where
  looks := Canvas.looks?_congr (h.onCanvas.widget?_of_ne hne)
  tracks := fun _ _ => (h.sameCourse hne).track
  bounces := (h.alike hne).bounce

/-- Nor does a progress bar that moves. -/
theorem animate_undisturbed (value : TweenValue) (duration : Float32) :
    Undisturbed w stage (stage.animate id .progress value duration).value where
  looks := by
    rw [animate]
    cases (stage.widget? id).bind fun h => h.property? .progress with
    | none => rfl
    | some source =>
      simp only
      split
      · rfl
      · exact Canvas.looks?_applyValue (fun _ => rfl) _
  tracks := fun property hproperty => by
    have hne : (id, Property.progress) ≠ (w, property) := fun he =>
      hproperty (congrArg Prod.snd he).symm
    exact (animate_sameCourse hne value duration).track
  bounces := by rw [animate_bounces]

/-- Nor does what goes on besides actions and time. -/
theorem Aside.undisturbed (h : stage.Aside stage') (hlive : (stage.canvas.widget? w).isSome) :
    Undisturbed w stage stage' := by
  cases h with
  | linked h => exact ⟨h.looks?_eq, fun _ _ => rfl, rfl⟩
  | grown h =>
    refine ⟨Canvas.looks?_congr (h.widgets w hlive), fun _ _ => ?_, ?_⟩
    · rw [h.animator]
    · rw [h.animator]
  | scheduled => exact ⟨rfl, fun _ _ => rfl, rfl⟩
  | progressed id value duration => exact animate_undisturbed (.scalar value) duration

/-- Nor does a way back, if no bounce of the widget is remembered. -/
theorem settle_undisturbed (config : Config) (registry : Registry) (duration : Float32)
    (hbounce : stage.animator.bounces.get? w = none) :
    Undisturbed w stage ((Step.settle id duration).run config registry stage).value := by
  let settled : Stage := ⟨stage.canvas, (stage.animator.settleBounce id).2⟩
  have hsettled : Undisturbed w stage settled := by
    refine ⟨rfl, fun property _ => by rw [Animator.settleBounce_tracks], ?_⟩
    rw [Animator.get?_bounces_settleBounce]
    split
    · next hid => rw [← hid, hbounce, Option.bind_none]
    · rfl
  rw [Step.run_settle]
  cases hback : stage.animator.bounces.get? id with
  | none => exact hsettled
  | some rest =>
    -- the bounce that comes back is one of another widget
    have hne : w ≠ id := by
      rintro rfl
      rw [hbounce] at hback
      cases hback
    have hchanges := settled.animate_changesOf id .scale (.vec3 rest.scale) duration
    exact hsettled.trans (hchanges.undisturbed hne)

/-- A widget looks in some way, and nothing is under way that changes that. -/
structure Rests (w : WidgetId) (looks : Looks) (stage : Stage) : Prop where
  looks : stage.canvas.looks? w = some looks
  tracks : ∀ property ≠ .progress, stage.animator.tracks.get? (w, property) = none
  bounces : stage.animator.bounces.get? w = none

theorem Rests.live (h : stage.Rests w looks) : (stage.canvas.widget? w).isSome := by
  obtain ⟨handle, hid, -⟩ := Option.map_eq_some_iff.mp h.looks
  rw [hid, Option.isSome_some]

theorem Rests.congr (h : stage.Rests w looks) (hsame : Undisturbed w stage stage') :
    stage'.Rests w looks where
  looks := hsame.looks.trans h.looks
  tracks := fun property hproperty =>
    (hsame.tracks property hproperty).trans (h.tracks property hproperty)
  bounces := hsame.bounces.trans h.bounces

theorem Restored.rests {position : Vec2} {isOn : Option Bool}
    (h : stage.Restored w position isOn) : stage.Rests w (.restored position) where
  looks := h.looks
  tracks := fun property _ => h.tracks property
  bounces := h.bounces

end Stage

/-- Time does not change how a widget looks of which nothing but progress is animated. -/
theorem Session.moved_rests {s : Session} (h : s.stage.Rests w looks)
    (htidy : s.stage.animator.Tidy []) (dt : Float32) : (s.moved dt).Rests w looks where
  looks := by
    refine (looks?_applyUpdates fun u hu hwidget => ?_).trans h.looks
    -- a value for anything but progress would come from an animation of the widget
    by_contra hproperty
    have hnone := h.tracks u.property hproperty
    exact updates_of_get?_eq_none htidy.distinct hnone dt u hu (Prod.ext hwidget rfl)
  tracks := fun property hproperty => by
    by_contra hsome
    obtain ⟨track, htrack⟩ := Option.ne_none_iff_exists'.mp hsome
    obtain ⟨before, -, hbefore, -⟩ := exists_of_track_moved htidy.distinct htrack
    rw [h.tracks property hproperty] at hbefore
    cases hbefore
  bounces := by rw [moved_animator, Animator.advance_bounces, h.bounces]

/-- The command to restore an element succeeds. -/
theorem Stage.execute_restore (stage : Stage) (config : Config) {registry : Registry}
    {element name : String} (args : List String) (hget : registry.get? element = some w)
    (hname : Command.ofName? name = some .restoreState) :
    (Command.execute config registry stage element name args).value =
      (.ok (), stage.restore w) := by
  have hdeed : Command.deed? config registry stage element name args = some (w, .restore) := by
    rw [Command.deed?, hget, hname]
    rfl
  obtain ⟨ran, hrun, hvalue⟩ := Command.execute_of_deed? hdeed
  cases hrun
  exact hvalue

/-! ### Beats -/

namespace Moment

variable {m m' n : Moment} {beat : Beat} {trace : Trace}

/-- A command to restore a widget is given in a beat, by a name that leads to the widget: at once,
or as the first of the steps that have come due. -/
inductive RestoreCommand (w : WidgetId) : Moment → Beat → Prop
  | atOnce {s : Session} {element name : String} (args : List String)
      (hget : s.registry.get? element = some w)
      (hname : Command.ofName? name = some .restoreState) :
      RestoreCommand w ⟨s, none⟩ (.operation (.execute element name args))
  | due {s : Session} {element name : String} (args : List String) (due : List Step)
      (hget : s.registry.get? element = some w)
      (hname : Command.ofName? name = some .restoreState) :
      RestoreCommand w ⟨s, some (.command element name args :: due)⟩ .step

/-- A beat does nothing to a widget, and does not take it away. -/
def Spares (m : Moment) (beat : Beat) (w : WidgetId) : Prop :=
  m.clears beat = false ∧ ∀ happening, m.happening? beat = some happening → happening.widget ≠ w

/-- The command can be given whenever it is said to be. -/
theorem RestoreCommand.exists_next (h : RestoreCommand w m beat) : ∃ m', m.Next beat m' := by
  cases h with
  | atOnce args => exact ⟨_, .operation rfl rfl⟩
  | due args due => exact ⟨_, .step _ _ due⟩

theorem RestoreCommand.live (h : RestoreCommand w m beat) (hlinked : m.session.IsLinked) :
    (m.session.stage.canvas.widget? w).isSome := by
  cases h with
  | atOnce _ hget | due _ _ hget => exact hlinked.named hget

/-- The command restores the widget, and does nothing else. -/
theorem Next.session_of_restoreCommand (hnext : m.Next beat m') (h : RestoreCommand w m beat) :
    m'.session = { m.session with stage := m.session.stage.restore w } := by
  cases h with
  | @atOnce s element name args hget hname =>
    have hvalue := s.stage.execute_restore s.config args hget hname
    cases hnext with
    | operation hop hafter =>
      cases hafter
      rw [Session.execute, Logged.bind_value, hvalue]
      rfl
  | @due s element name args due hget hname =>
    have hvalue := s.stage.execute_restore s.config args hget hname
    cases hnext with
    | step =>
      rw [Session.stepped, Step.run, Logged.bind_value, hvalue]
      rfl

theorem Next.steps (hnext : m.Next beat m') :
    Canvas.Steps m.session.stage.canvas m'.session.stage.canvas := by
  cases hnext with
  | operation hop hafter => exact Session.after_steps hafter
  | time s dt => exact (Session.applyUpdates_changes
      ⟨s.stage.canvas, (s.stage.animator.advance dt).2⟩ _).steps
  | step s step due => exact (step.run_changes ..).steps
  | close s => exact (s.slots.poll_displays s.stage.canvas).changes.steps

/-- A widget that rests goes on to rest in a beat that spares it. -/
theorem Next.rests (hnext : m.Next beat m') (hspares : m.Spares beat w)
    (htidy : m.session.stage.animator.Tidy m.left) (hlinked : m.session.IsLinked)
    (h : m.session.stage.Rests w looks) : m'.session.stage.Rests w looks := by
  obtain ⟨hclears, hother⟩ := hspares
  have hdoes := hnext.does hclears htidy hlinked
  generalize m'.session.stage = stage' at hdoes
  cases hdoes with
  | acted hhappening hrun =>
    -- the action is done to another widget
    have hne := hother _ hhappening
    exact h.congr ((Action.run_changesOf hrun).undisturbed hne.symm)
  | @cameBack _ id duration =>
    exact h.congr (Stage.settle_undisturbed _ _ duration h.bounces)
  | moved dt hleft =>
    rw [hleft] at htidy
    exact Session.moved_rests h htidy dt
  | aside _ _ _ haside => exact h.congr (haside.undisturbed h.live)

/-- A widget that rests goes on to rest as long as it is spared. -/
theorem Course.rests (hcourse : m.Course trace n) {before : Trace} (hlife : Life before m)
    (hspares : ∀ entry ∈ trace, entry.1.Spares entry.2 w)
    (h : m.session.stage.Rests w looks) : n.session.stage.Rests w looks := by
  -- by induction on what happens: every moment on the way is one of a life, with its books in order
  induction hcourse with
  | nil => exact h
  | @next trace n n' beat hcourse hnext ih =>
    have hearlier := ih fun entry hentry => hspares entry (List.mem_append_left _ hentry)
    have hlast : n.Spares beat w := hspares (n, beat) (by simp)
    have hnow := hlife.course hcourse
    exact hnext.rests hlast hnow.tidy hnow.isLinked hearlier

end Moment

namespace Life

variable {trace : Trace} {m m' : Moment} {beat : Beat} {e : Element} {first : Handle}

/-- At every moment every widget agrees with its nodes. -/
theorem faithful (h : Life trace m) : m.session.stage.canvas.Faithful := by
  induction h with
  | new => exact Canvas.faithful_new
  | next _ hnext ih => exact reflTransGen_preserves (fun hstep hc => hc.step hstep) hnext.steps ih

/-- A command to restore an element succeeds at every moment, whether it is given at once or has
come due. The widget has been made for an element of a document. It gets the place that it was made
at, its full opacity and its own size, it reacts, and if it is a switch it is in the state that the
element declares. Nothing is in store for it any more. To restore it again changes nothing, and it
goes on to look the same until something is done to it, whatever else has come due. -/
theorem restoration_lasts (h : Life trace m) (hcommand : Moment.RestoreCommand w m beat) :
    (∃ m', m.Next beat m') ∧ (∃ e first, m.Made w e first) ∧
      ∀ m' e first, m.Next beat m' → m.Made w e first →
        m'.session.stage.Restored w first.transform.position (e.declaredOn? first.kind) ∧
          (∀ beat' m'', Moment.RestoreCommand w m' beat' → m'.Next beat' m'' →
            m''.session = m'.session) ∧
          ∀ more n, m'.Course more n → (∀ entry ∈ more, entry.1.Spares entry.2 w) →
            n.session.stage.canvas.looks? w = some (.restored first.transform.position) := by
  refine ⟨hcommand.exists_next, h.exists_made (hcommand.live h.isLinked), ?_⟩
  intro m' e first hnext hmade
  obtain ⟨handle, hid, hhome, hswitch⟩ := hmade.exists_home
  have hstage : m'.session.stage = m.session.stage.restore w :=
    congrArg Session.stage (hnext.session_of_restoreCommand hcommand)
  have hrestored : m'.session.stage.Restored w first.transform.position
      (e.declaredOn? first.kind) := by
    have hafter := Stage.restored_restore hid hswitch
    rwa [hhome, ← hstage] at hafter
  refine ⟨hrestored, fun beat' m'' hagain hnext' => ?_, fun more n hcourse hspares => ?_⟩
  · have hafter : m'.session.stage.canvas.widget? w = some handle.restored := by
      rw [hstage]
      exact Stage.widget?_restore hid
    -- the nodes of the widget agree with it already, so that they are not changed either
    have hmirrored := ((h.next hnext).faithful.settled hafter).mirrored
    have htwice : m'.session.stage.restore w = m'.session.stage := by
      rw [hstage] at hmirrored ⊢
      exact Stage.restore_restore hid hswitch hmirrored
    rw [hnext'.session_of_restoreCommand hagain, htwice]
  · exact (hcourse.rests (h.next hnext) hspares hrestored.rests).looks

/-- A document of a switch that is on. -/
def switchedOn : Element :=
  { tag := "UIML"
    children := [{ tag := "Toggle", attributes := [⟨"name", "t"⟩, ⟨"isOn", "true"⟩] }] }

/-- A switch that bounces is to be restored when the bounce is just about to come back. The way back
has come due together with the command, and comes to nothing. -/
theorem restoration_lasts_switch :
    ∃ trace m m' n e first, Life trace m ∧
      m.left = [.command "t" "restoretooriginalstate" [], .settle ⟨0⟩ 0.5] ∧
      m.RestoreCommand ⟨0⟩ .step ∧ m.Made ⟨0⟩ e first ∧ m.Next .step m' ∧
      m'.session.stage.Restored ⟨0⟩ first.transform.position (e.declaredOn? first.kind) ∧
      m'.Next .step n ∧
      n.session.stage.canvas.looks? ⟨0⟩ = some (.restored first.transform.position) := by
  have hvalue : ((Session.new {} {} {}).after (.loadDocument switchedOn)).toOption.map (fun s =>
      (s.play [.schedule 0.5 "t" "restoretooriginalstate" [], .execute "t" "bounce" ["1"],
        .execute "t" "setalpha" ["0.25"]]).any fun played =>
          let t := played.2
          let ready := t.stage.animator.ready 1
          decide (ready.Pairwise fun a b => a.isBefore b = true) &&
            decide (ready.map TimedStep.step =
              [.command "t" "restoretooriginalstate" [], .settle ⟨0⟩ 0.5]) &&
            decide (t.registry.get? "t" = some ⟨0⟩)) = some true := by decide +kernel
  obtain ⟨loaded, hloaded, hvalue⟩ := exists_of_toOption_map hvalue
  obtain ⟨⟨done, s⟩, hplay, hvalue⟩ := (Option.any_eq_true ..).mp hvalue
  simp only [Bool.and_eq_true, decide_eq_true_eq] at hvalue
  obtain ⟨⟨hordered, hdue⟩, hget⟩ := hvalue
  have hreachable : s.Reachable :=
    (Session.run_of_play hplay).reachable (.after (.new {} {} {}) hloaded)
  obtain ⟨trace, hlife⟩ := hreachable.exists_life
  have hmoment := hlife.next (.time s 1)
  rw [Animator.advance_due_of_inOrder hordered, hdue] at hmoment
  have hcommand : Moment.RestoreCommand ⟨0⟩
      ⟨s.passed 1, some [.command "t" "restoretooriginalstate" [], .settle ⟨0⟩ 0.5]⟩ .step :=
    .due [] _ hget rfl
  obtain ⟨-, ⟨e, first, hmade⟩, hlasts⟩ := restoration_lasts hmoment hcommand
  let restored : Session := (s.passed 1).stepped (.command "t" "restoretooriginalstate" [])
  have hback : Moment.Next ⟨restored, some [.settle ⟨0⟩ 0.5]⟩ .step
      ⟨restored.stepped (.settle ⟨0⟩ 0.5), some []⟩ := .step ..
  obtain ⟨hrestored, -, hlater⟩ := hlasts _ e first (.step ..) hmade
  -- the way back is a step of its own, and no action
  have hlooks := hlater _ _ (.next .nil hback)
    (List.forall_mem_singleton.mpr ⟨rfl, fun happening hhappening => nomatch hhappening⟩)
  exact ⟨_, _, _, _, e, first, hmoment, rfl, hcommand, hmade, .step .., hrestored, hback, hlooks⟩

end Life

end Uiml
