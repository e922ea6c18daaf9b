import Uiml.Proofs.Animation.LastScale
import Uiml.Proofs.Session.Moment

/-!
# The balance of bounces

Every bounce of a widget that has not begun its way back is remembered, and its way back is queued,
so that there are as many of the one as of the other. A restoration ends the bounces of its widget
and takes their ways back out of the queue, but those that have come due in the same span of time
are in the queue no longer. They are called off, and come to nothing, unless the widget bounces
again before they are done: then one of them strays, and takes the new bounce for its own.

## Main definitions

* `Animator.pending` — how many bounces of a widget are remembered
* `Tally`, `tally` — the ways back that have strayed, and those that have found no bounce

## Main results

* `Life.balances` — at every moment the books balance, with the ways back that have gone wrong
* `Session.bounces_queued` — between operations as many bounces are remembered as have their way
  back in the queue, if none has strayed
-/

namespace Uiml

variable {w id : WidgetId} {stage stage' : Stage} {due : List Step}

namespace Animator

variable {a b : Animator}

/-- The number of bounces of a widget that are remembered. -/
def pending (a : Animator) (w : WidgetId) : Nat :=
  ((a.bounces.get? w).map BounceRest.pending).getD 0

/-- The number of bounces of a widget of which the way back is queued. -/
def queued (a : Animator) (w : WidgetId) : Nat := a.waysBack [] w

theorem pending_congr (h : b.bounces.get? w = a.bounces.get? w) : b.pending w = a.pending w := by
  rw [pending, h, pending]

theorem pending_cancelWidget (a : Animator) (w : WidgetId) : (a.cancelWidget w).pending w = 0 := by
  rw [pending, get?_bounces_cancelWidget, if_pos rfl]
  rfl

/-- No way back of a widget that is cancelled is queued any more. -/
theorem queued_cancelWidget (a : Animator) (w : WidgetId) : (a.cancelWidget w).queued w = 0 := by
  refine List.countP_eq_zero.mpr fun step hstep => ?_
  obtain ⟨timed, htimed, rfl⟩ := List.mem_map.mp hstep
  have hother : timed.step.widget? ≠ some w := by
    simpa using (List.mem_filter.mp htimed).2
  cases hkind : timed.step with
  | settle id duration =>
    rw [hkind] at hother
    simpa [Step.isWayBack, Step.widget?] using hother
  | tween | command => simp [Step.isWayBack]

theorem pending_beginBounce (a : Animator) (w : WidgetId) (current : Vec3) (half : Float32) :
    (a.beginBounce w current half).2.pending w = a.pending w + 1 := by
  rw [pending, get?_bounces_beginBounce, if_pos rfl, pending]
  cases a.bounces.get? w <;> rfl

/-- A way back takes one off the bounces that are remembered, if there is one. -/
theorem pending_settleBounce (a : Animator) (w : WidgetId) :
    (a.settleBounce w).2.pending w = a.pending w - 1 := by
  rw [pending, get?_bounces_settleBounce, if_pos rfl, pending]
  cases a.bounces.get? w with
  | none => rfl
  | some rest =>
    rw [Option.bind_some]
    split
    · next hlast => exact hlast.symm
    · rfl

/-- The steps that are due after a number of seconds, in the order of the queue. -/
def ready (a : Animator) (dt : Float32) : List TimedStep :=
  a.steps.filter fun timed => timed.due ≤ (a.advance dt).2.now + dueSlack

/-- Steps that are queued in the order of their times come due in the order of the queue. -/
theorem advance_due_of_inOrder {dt : Float32}
    (h : (a.ready dt).Pairwise fun t u => t.isBefore u = true) :
    (a.advance dt).1.due = (a.ready dt).map TimedStep.step :=
  congrArg (List.map TimedStep.step) (List.mergeSort_of_pairwise h)

/-- Where the books are in order, a bounce that is remembered is one that is pending. -/
theorem Tidy.isSome_iff (h : a.Tidy due) : (a.bounces.get? w).isSome ↔ 0 < a.pending w := by
  cases hrest : a.bounces.get? w with
  | none => simp [pending, hrest]
  | some rest =>
    have hpos : 0 < rest.pending := (h.owed w rest hrest).1
    simpa [pending, hrest] using hpos

theorem Tidy.pending_le (h : a.Tidy due) : a.pending w ≤ a.waysBack due w := by
  cases hrest : a.bounces.get? w with
  | none => simp [pending, hrest]
  | some rest =>
    have hle := (h.owed w rest hrest).2
    simpa [pending, hrest] using hle

end Animator

/-! ### What happens to the books of a widget -/

namespace Stage

/-- So many bounces of a widget have been added to those that are remembered, and as many ways back
to those that are to come. -/
structure Gains (w : WidgetId) (count : Nat) (stage stage' : Stage) : Prop where
  pending : stage'.animator.pending w = stage.animator.pending w + count
  back : ∀ due, stage'.animator.waysBack due w = stage.animator.waysBack due w + count

theorem SameBooks.gains (h : SameBooks stage stage') : Gains w 0 stage stage' where
  pending := Animator.pending_congr (by rw [h.bounces])
  back := fun due => h.waysBack due w

theorem Gains.then_books {stage'' : Stage} {count : Nat} (h : Gains w count stage stage')
    (hbooks : SameBooks stage' stage'') : Gains w count stage stage'' where
  pending := hbooks.gains.pending.trans h.pending
  back := fun due => (hbooks.gains.back due).trans (h.back due)

theorem Alike.gains (h : Alike w stage stage') : Gains w 0 stage stage' where
  pending := Animator.pending_congr h.bounce
  back := h.back

/-- What goes on besides actions and time adds nothing. -/
theorem Aside.gains (h : stage.Aside stage') : Gains w 0 stage stage' := by
  cases h with
  | linked h => exact SameBooks.gains ⟨rfl, rfl⟩
  | grown h => exact SameBooks.gains ⟨by rw [h.animator], by rw [h.animator]⟩
  | scheduled delay element command args =>
    exact ⟨rfl, fun due => stage.animator.waysBack_schedule due w delay _⟩
  | progressed id value duration => exact (animate_books ..).gains

/-- A bounce adds itself, and its way back. -/
theorem bounce_gains (hlive : (stage.canvas.widget? w).isSome) (config : Config)
    (duration : Float32) : Gains w 1 stage (stage.bounce config w duration).value := by
  obtain ⟨h, hw⟩ : ∃ h, stage.widget? w = some h := Option.isSome_iff_exists.mp hlive
  rw [bounce, hw]
  simp only
  have hbegun : Gains w 1 stage
      ⟨stage.canvas, (stage.animator.beginBounce w h.transform.scale (duration / 2)).2⟩ := by
    refine ⟨Animator.pending_beginBounce .., fun due => ?_⟩
    rw [Animator.waysBack_beginBounce, if_pos rfl]
  exact hbegun.then_books (animate_books ..)

end Stage

/-- An action adds bounces to the books, if it does not end them. -/
theorem Action.run_gains {config : Config} {action : Action} {ran : Logged Stage}
    (h : action.run config id stage = .ok ran) (hlive : (stage.canvas.widget? id).isSome)
    (hends : id = w → action.endsBounces = false) :
    ∃ count, Stage.Gains w count stage ran.value := by
  by_cases hid : id = w
  · subst hid
    by_cases hbounce : action.isBounce = true
    · cases action with
      | bounce duration =>
        cases h
        exact ⟨1, Stage.bounce_gains hlive config duration⟩
      | _ => cases hbounce
    · exact ⟨0, (Action.run_books h (Bool.not_eq_true _ ▸ hbounce) (hends rfl)).gains⟩
  · exact ⟨0, ((Action.run_changesOf h).alike (Ne.symm hid)).gains⟩

/-- The way back of a bounce takes one off what is remembered of its widget, and queues nothing. -/
theorem Step.run_settle_books (config : Config) (registry : Registry) (stage : Stage)
    (id : WidgetId) (duration : Float32) :
    Stage.SameBooks ⟨stage.canvas, (stage.animator.settleBounce id).2⟩
      ((Step.settle id duration).run config registry stage).value := by
  rw [run_settle]
  cases stage.animator.bounces.get? id with
  | none => exact .refl _
  | some rest => exact Stage.animate_books ..

/-! ### The tally -/

namespace Moment

/-- Whether a beat restores a widget. -/
def restores (m : Moment) (beat : Beat) (w : WidgetId) : Bool :=
  (m.happening? beat).any fun happening => happening.widget = w && happening.action.endsBounces

/-- Whether a bounce of a widget begins its way back in a beat. -/
def comesBack (m : Moment) (beat : Beat) (w : WidgetId) : Bool :=
  (m.wayBack? beat).any fun back => back.1 = w

end Moment

/-- What has gone wrong with the bounces of a widget since it was restored or taken away. -/
structure Tally where
  /-- Whether what has come due of the widget has been called off. -/
  calledOff : Bool := false
  /-- Ways back that had been called off, and have taken a bounce for theirs. -/
  strays : Nat := 0
  /-- Ways back that had not been called off, and have found no bounce. -/
  idle : Nat := 0
  deriving DecidableEq

namespace Tally

/-- The tally after a way back that finds a bounce to come back from, or none. -/
def cameBack (tally : Tally) (found : Bool) : Tally :=
  match tally.calledOff, found with
  | true, true => { tally with strays := tally.strays + 1 }
  | false, false => { tally with idle := tally.idle + 1 }
  | _, _ => tally

/-- The tally of a widget after a beat. -/
def next (w : WidgetId) (tally : Tally) (m : Moment) (beat : Beat) : Tally :=
  if m.clears beat || m.restores beat w then { calledOff := true }
  else if m.comesBack beat w then tally.cameBack (m.session.stage.animator.bounces.get? w).isSome
  else if beat.passesTime then { tally with calledOff := false }
  else tally

/-- What is left of the steps that have come due, unless it has been called off. -/
def left (tally : Tally) (m : Moment) : List Step := if tally.calledOff then [] else m.left

/-- As many bounces are remembered as have their way back to come, but for those that have gone
wrong. -/
def Balances (w : WidgetId) (tally : Tally) (m : Moment) : Prop :=
  m.session.stage.animator.pending w + tally.strays =
    m.session.stage.animator.waysBack (tally.left m) w + tally.idle

end Tally

/-- The tally of a widget. -/
def tally (w : WidgetId) (trace : Trace) : Tally :=
  trace.foldl (fun tally (m, beat) => tally.next w m beat) {}

variable {m m' : Moment} {beat : Beat} {trace : Trace} {t : Tally}

theorem tally_next (w : WidgetId) (trace : Trace) (m : Moment) (beat : Beat) :
    tally w (trace ++ [(m, beat)]) = (tally w trace).next w m beat := by
  rw [tally, List.foldl_append, tally]
  rfl

/-- Only a way back can stray. -/
theorem Tally.strays_next (h : t.strays = 0) (hback : m.comesBack beat w = false) :
    (t.next w m beat).strays = 0 := by
  rw [next, hback, if_neg Bool.false_ne_true]
  split
  · rfl
  · split <;> exact h

/-- What is added to both sides leaves them in balance. -/
theorem Tally.Balances.gains (h : t.Balances w m)
    (hgains : ∃ count, Stage.Gains w count m.session.stage m'.session.stage)
    (hleft : ∀ a : Animator, a.waysBack m'.left w = a.waysBack m.left w) : t.Balances w m' := by
  obtain ⟨count, hpending, hback⟩ := hgains
  have hsame : m'.session.stage.animator.waysBack (t.left m') w =
      m.session.stage.animator.waysBack (t.left m) w + count := by
    rw [Tally.left, Tally.left, ← hback]
    split
    · rfl
    · exact hleft _
  rw [Tally.Balances] at h ⊢
  omega

namespace Moment

/-- A beat that is not the way back of a bounce leaves the same ways back to come. -/
theorem Next.waysBack_left (hnext : m.Next beat m') (hback : m.comesBack beat w = false)
    (htime : beat.passesTime = false) (a : Animator) :
    a.waysBack m'.left w = a.waysBack m.left w := by
  cases hnext with
  | operation | close => rfl
  | time => cases htime
  | step s step due =>
    have hstep : step.isWayBack w = false := by
      cases step with
      | settle id duration => exact hback
      | tween | command => rfl
    change a.waysBack due w = a.waysBack (step :: due) w
    rw [Animator.waysBack_cons, hstep, if_neg Bool.false_ne_true, Nat.add_zero]

/-- A beat that restores a widget does to the animator what a restoration does. -/
theorem Next.animator_of_restores (hnext : m.Next beat m') (hclears : m.clears beat = false)
    (htidy : m.session.stage.animator.Tidy m.left) (hlinked : m.session.IsLinked)
    (hrestores : m.restores beat w = true) :
    m'.session.stage.animator = m.session.stage.animator.cancelWidget w := by
  obtain ⟨happening, hhappening, hends⟩ := (Option.any_eq_true ..).mp hrestores
  simp only [Bool.and_eq_true, decide_eq_true_eq] at hends
  obtain ⟨rfl, hends⟩ := hends
  have hdoes := hnext.does hclears htidy hlinked
  generalize m'.session.stage = stage' at hdoes
  cases hdoes with
  | @acted _ id action ran hsame hrun hlive =>
    cases hhappening.symm.trans hsame
    cases action with
    | restore =>
      cases hrun
      exact Stage.restore_animator ..
    | _ => cases hends
  | moved => cases hhappening
  | cameBack hback =>
    rw [happening?_of_wayBack? hback] at hhappening
    cases hhappening
  | aside hnone =>
    rw [hnone] at hhappening
    cases hhappening

/-- A way back takes one off either side, as far as there is something to be taken. -/
theorem balances_cameBack {duration : Float32} (htidy : m.session.stage.animator.Tidy m.left)
    (hleft : m.left = .settle w duration :: m'.left)
    (hstage : m'.session.stage = ((Step.settle w duration).run m.session.config m.session.registry
      m.session.stage).value) (h : t.Balances w m) :
    (t.cameBack (m.session.stage.animator.bounces.get? w).isSome).Balances w m' := by
  have hbooks := Step.run_settle_books m.session.config m.session.registry m.session.stage w
    duration
  rw [← hstage] at hbooks
  have hpending : m'.session.stage.animator.pending w = m.session.stage.animator.pending w - 1 :=
    hbooks.gains.pending.trans (Animator.pending_settleBounce ..)
  have hback (due : List Step) : m'.session.stage.animator.waysBack due w =
      m.session.stage.animator.waysBack due w :=
    (hbooks.gains.back due).trans (Animator.settleBounce_waysBack ..)
  have hone : m.session.stage.animator.waysBack m.left w =
      m.session.stage.animator.waysBack m'.left w + 1 := by
    rw [hleft, Animator.waysBack_cons, Step.isWayBack, decide_eq_true rfl, if_pos rfl]
  have hfound : (m.session.stage.animator.bounces.get? w).isSome ↔
      0 < m.session.stage.animator.pending w := htidy.isSome_iff
  rw [Tally.Balances, Tally.left] at h ⊢
  -- whether it has been called off, and whether it finds a bounce to come back from
  cases hoff : t.calledOff <;>
    cases hsome : (m.session.stage.animator.bounces.get? w).isSome <;>
    simp only [hoff, hsome, Tally.cameBack, hback, if_true, if_false, Bool.false_eq_true,
      false_iff, true_iff] at h hfound ⊢ <;>
    omega

/-- The way back of another widget's bounce makes no difference. -/
theorem gains_cameBack_of_ne {duration : Float32} (hne : w ≠ id)
    (hstage : m'.session.stage = ((Step.settle id duration).run m.session.config m.session.registry
      m.session.stage).value) : Stage.Gains w 0 m.session.stage m'.session.stage := by
  have hbooks := Step.run_settle_books m.session.config m.session.registry m.session.stage id
    duration
  have hsettled : Stage.Gains w 0 m.session.stage
      ⟨m.session.stage.canvas, (m.session.stage.animator.settleBounce id).2⟩ := by
    refine ⟨Animator.pending_congr ?_, fun due => Animator.settleBounce_waysBack ..⟩
    rw [Animator.get?_bounces_settleBounce, if_neg hne]
  rw [hstage]
  exact hsettled.then_books hbooks

/-- Time makes ways back due, and brings what has been called off before to an end. -/
theorem Next.balances_moved {dt : Float32} (hnext : m.Next (.time dt) m') (h : t.Balances w m) :
    ({ t with calledOff := false } : Tally).Balances w m' := by
  cases hnext with
  | time s dt =>
    have hanimator : (s.passed dt).stage.animator = (s.stage.animator.advance dt).2 :=
      Session.moved_animator dt
    have hback : (s.passed dt).stage.animator.waysBack (s.stage.animator.advance dt).1.due w =
        s.stage.animator.waysBack [] w := by rw [hanimator, Animator.advance_waysBack]
    have hpending : (s.passed dt).stage.animator.pending w = s.stage.animator.pending w :=
      Animator.pending_congr (by rw [hanimator, Animator.advance_bounces])
    have hleft : t.left ⟨s, none⟩ = [] := ite_self []
    rw [Tally.Balances, hleft] at h
    rw [Tally.Balances, hpending]
    exact h.trans (congrArg (· + t.idle) hback.symm)

/-- Every beat keeps the books in balance. -/
theorem Next.balances (hnext : m.Next beat m') (htidy : m.session.stage.animator.Tidy m.left)
    (hlinked : m.session.IsLinked) (h : t.Balances w m) : (t.next w m beat).Balances w m' := by
  by_cases hclears : m.clears beat = true
  · rw [Tally.next, hclears, Bool.true_or, if_pos rfl, Tally.Balances,
      hnext.animator_of_clears hclears]
    rfl
  rw [Bool.not_eq_true] at hclears
  by_cases hrestores : m.restores beat w = true
  · rw [Tally.next, hrestores, Bool.or_true, if_pos rfl, Tally.Balances,
      hnext.animator_of_restores hclears htidy hlinked hrestores, Animator.pending_cancelWidget]
    exact (Animator.queued_cancelWidget ..).symm
  rw [Bool.not_eq_true] at hrestores
  rw [Tally.next, hclears, hrestores, Bool.false_or, if_neg Bool.false_ne_true]
  -- what adds to the books adds to both sides, and what takes from them takes from both
  have hkeep (hgains : ∃ count, Stage.Gains w count m.session.stage m'.session.stage)
      (hback : m.comesBack beat w = false) (htime : beat.passesTime = false) :
      (if m.comesBack beat w then t.cameBack (m.session.stage.animator.bounces.get? w).isSome
        else if beat.passesTime then { t with calledOff := false } else t).Balances w m' := by
    rw [hback, if_neg Bool.false_ne_true, htime, if_neg Bool.false_ne_true]
    exact h.gains hgains (hnext.waysBack_left hback htime)
  have hdoes := hnext.does hclears htidy hlinked
  generalize hstage : m'.session.stage = stage' at hdoes
  cases hdoes with
  | @acted _ id action ran hhappening hrun hlive =>
    obtain ⟨command, hcommand⟩ := exists_of_happening? hhappening
    have hends : id = w → action.endsBounces = false := by
      rintro rfl
      simpa [restores, hhappening] using hrestores
    have hnone : m.comesBack beat w = false := by
      rw [comesBack, wayBack?_of_command? hcommand]
      rfl
    exact hkeep (hstage ▸ Action.run_gains hrun hlive hends) hnone (passesTime_of_command? hcommand)
  | @cameBack _ id duration hback =>
    have hcomes : m.comesBack beat w = decide (id = w) := by
      rw [comesBack, hback]
      rfl
    by_cases hid : id = w
    · subst hid
      rw [hcomes, decide_eq_true rfl, if_pos rfl]
      exact balances_cameBack htidy (hnext.left_of_wayBack? hback) hstage h
    · exact hkeep ⟨0, gains_cameBack_of_ne (Ne.symm hid) hstage⟩
        (hcomes.trans (decide_eq_false hid)) (passesTime_of_wayBack? hback)
  | moved dt hleft => exact hnext.balances_moved h
  | aside hhappening hback htime haside =>
    have hnone : m.comesBack beat w = false := by
      rw [comesBack, hback]
      rfl
    exact hkeep ⟨0, hstage ▸ haside.gains⟩ hnone htime

end Moment

/-- At every moment the books balance: there are as many bounces remembered, and ways back that have
strayed, as there are ways back to come, and such that have found no bounce. -/
theorem Life.balances (h : Life trace m) (w : WidgetId) : (tally w trace).Balances w m := by
  induction h with
  | new => rfl
  | next hlife hnext ih =>
    rw [tally_next]
    exact hnext.balances hlife.tidy hlife.isLinked ih

namespace Session

variable {s : Session}

/-- Between operations a widget has as many bounces that are remembered as ways back in the queue,
but for those ways back that have strayed and those that have found no bounce. If none has strayed
since the widget was last restored, the numbers are the same, and every way back since then has
found its bounce. -/
theorem bounces_queued (h : Life trace ⟨s, none⟩) (w : WidgetId) :
    s.stage.animator.pending w + (tally w trace).strays =
        s.stage.animator.queued w + (tally w trace).idle ∧
      s.stage.animator.pending w ≤ s.stage.animator.queued w ∧
      ((tally w trace).strays = 0 →
        s.stage.animator.pending w = s.stage.animator.queued w ∧ (tally w trace).idle = 0) := by
  have hbalance : s.stage.animator.pending w + (tally w trace).strays =
      s.stage.animator.queued w + (tally w trace).idle := by
    have hbalances := h.balances w
    rwa [Tally.Balances, Tally.left, show Moment.left ⟨s, none⟩ = [] from rfl, ite_self]
      at hbalances
  have hle : s.stage.animator.pending w ≤ s.stage.animator.queued w := h.tidy.pending_le
  refine ⟨hbalance, hle, fun hstrays => ?_⟩
  omega

/-- The way back of a bounce that has just begun is in the queue. -/
theorem bounces_queued_panel :
    ∃ trace s, Life trace ⟨s, none⟩ ∧ (tally ⟨0⟩ trace).strays = 0 ∧
      s.stage.animator.queued ⟨0⟩ = 1 ∧ s.stage.animator.pending ⟨0⟩ = 1 := by
  have hvalue : (((Session.new {} {} {}).after (.loadDocument panel)).bind
      (·.after (.execute "b" "bounce" ["1"]))).toOption.map
        (fun s => s.stage.animator.queued ⟨0⟩) = some 1 := by decide +kernel
  obtain ⟨t, ht, hqueued⟩ := exists_of_toOption_map hvalue
  obtain ⟨s, hs, hbounce⟩ := exists_of_bind_eq_ok ht
  have hlife : Life _ ⟨t, none⟩ :=
    ((Life.new {} {} {}).next (.operation rfl hs)).next (.operation rfl hbounce)
  have hstrays : (tally ⟨0⟩ [(⟨.new {} {} {}, none⟩, .operation (.loadDocument panel)),
      (⟨s, none⟩, .operation (.execute "b" "bounce" ["1"]))]).strays = 0 :=
    Tally.strays_next (Tally.strays_next rfl rfl) rfl
  have hequal := ((bounces_queued hlife ⟨0⟩).2.2 hstrays).1
  exact ⟨_, t, hlife, hstrays, hqueued, hequal.trans hqueued⟩

/-- What a span of time comes to if the steps that are due are queued in their order. -/
theorem after_tick_of_inOrder (s : Session) (dt : Float32)
    (h : (s.stage.animator.ready dt).Pairwise fun t u => t.isBefore u = true) :
    s.after (.tick dt) =
      .ok ((s.passed dt).steppedThrough
        ((s.stage.animator.ready dt).map TimedStep.step)).polled := by
  rw [← Animator.advance_due_of_inOrder h, ← tick_eq_polled]
  rfl

/-- A panel is to be restored and to bounce again when its bounce is just about to come back. After
a single span of time a way back is in the queue of which no bounce is remembered. -/
theorem pending_ne_queued :
    ∃ s, Reachable s ∧ s.stage.animator.pending ⟨0⟩ = 0 ∧ s.stage.animator.queued ⟨0⟩ = 1 := by
  have hpast : ∃ s, Past [] s ∧ (s.play [.schedule 0.125 "b" "restoretooriginalstate" [],
      .schedule 0.25 "b" "bounce" ["2"], .execute "b" "bounce" ["1"]]).any
        (fun (played : List Happening × Session) =>
          let ready : List TimedStep := played.2.stage.animator.ready 1
          let u : Session := ((played.2.passed 1).steppedThrough (ready.map TimedStep.step)).polled
          decide (ready.Pairwise fun (a b : TimedStep) => a.isBefore b = true) &&
            decide (u.stage.animator.pending ⟨0⟩ = 0 ∧ u.stage.animator.queued ⟨0⟩ = 1)) = true :=
    exists_past_panel (by decide +kernel)
  obtain ⟨s, hs, hvalue⟩ := hpast
  simp only [Option.any_eq_true, Bool.and_eq_true, decide_eq_true_eq] at hvalue
  obtain ⟨⟨done, t⟩, hplay, hordered, hu⟩ := hvalue
  have ht : Reachable t := (run_of_play hplay).reachable hs.reachable
  exact ⟨_, ht.after (t.after_tick_of_inOrder 1 hordered), hu⟩

end Session

end Uiml
