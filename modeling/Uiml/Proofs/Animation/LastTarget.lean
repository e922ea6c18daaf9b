import Uiml.Proofs.Animation.Bounce
import Uiml.Proofs.Animation.Target
import Uiml.Proofs.Session.Latest

/-!
# The last target wins

The opacity and the position of a widget follow the last action that gave them a target: they are
being animated to it, or have it. No animation of an earlier action is left to overwrite it, however
long the animations take and in whatever spans the time passes.

## Main definitions

* `Happening.target?` — what a happening gives to a property of a widget

## Main results

* `settles_target` — no step, no time and no action without a target takes a property off its course
* `Session.Past.last_target` — a property is on its way to its last target, or there
-/

namespace Uiml

variable {w : WidgetId} {property : Property} {target : TweenValue} {stage : Stage}
  {config : Config} {registry : Registry} {done : List Happening}

/-- What an action that is done gives to the opacity or to the position of a widget. -/
def Happening.target? (config : Config) (w : WidgetId) (property : Property)
    (happening : Happening) : Option TweenValue :=
  if happening.widget = w then happening.action.target? config happening.stage w property else none

/-- Only opacity and position are given targets, and only such as suit them. -/
theorem Action.target?_eq_some {action : Action}
    (h : action.target? config stage w property = some target) :
    (property = .alpha ∨ property = .position) ∧ target.Suits property := by
  cases property with
  | alpha =>
    obtain ⟨alpha, -, rfl⟩ := Option.map_eq_some_iff.mp h
    exact ⟨.inl rfl, .alpha alpha⟩
  | position =>
    obtain ⟨position, -, rfl⟩ := Option.map_eq_some_iff.mp h
    exact ⟨.inr rfl, .position position⟩
  | scale | progress => cases h

/-- The second half of a bounce is about the scale, and not about other properties. -/
theorem Step.settle_sameCourse {id : WidgetId} {duration : Float32}
    (hne : (id, Property.scale) ≠ (w, property)) :
    Stage.SameCourse w property stage
      ((Step.settle id duration).run config registry stage).value := by
  have hsettled : Stage.SameCourse w property stage
      ⟨stage.canvas, (stage.animator.settleBounce id).2⟩ :=
    ⟨rfl, by rw [Animator.settleBounce_tracks], fun _ hj => hj⟩
  rw [Step.run_settle]
  cases stage.animator.bounces.get? id with
  | none => exact hsettled
  | some rest => exact hsettled.trans (Stage.animate_sameCourse hne _ duration)

/-- An action with a target sets the course of the property, and nothing else alters it. -/
theorem settles_target (hproperty : property = .alpha ∨ property = .position) :
    Session.Settles config (Happening.target? config w property)
      fun target stage => target.Suits property ∧ stage.Heads w property target where
  acted := by
    intro target stage id action ran hran hlive hword
    obtain ⟨rfl, htarget⟩ := Option.ite_none_right_eq_some.mp hword
    exact ⟨(Action.target?_eq_some htarget).2, Action.run_heads hran hlive htarget⟩
  passed := by
    intro target stage id action ran hran hlive hword ⟨hsuits, hheads⟩
    refine ⟨hsuits, hheads.congr ?_⟩
    by_cases hid : id = w
    · -- it is the widget's own action, but about something else
      subst hid
      rw [Happening.target?, if_pos rfl] at hword
      exact Action.run_sameCourse hran hlive (Action.leaves_of_target?_eq_none hword hproperty)
    · exact (Action.run_changesOf hran).sameCourse (Ne.symm hid)
  cameBack := by
    intro target stage registry id duration ⟨hsuits, hheads⟩
    have hne : (id, Property.scale) ≠ (w, property) := by
      rcases hproperty with rfl | rfl <;> simp
    exact ⟨hsuits, hheads.congr (Step.settle_sameCourse hne)⟩
  moved := fun dt htidy ⟨hsuits, hheads⟩ => ⟨hsuits, Session.moved_heads hheads hsuits htidy dt⟩
  aside := by
    intro target stage stage' haside ⟨hsuits, hheads⟩
    have hne : property ≠ .progress := by rcases hproperty with rfl | rfl <;> simp
    exact ⟨hsuits, hheads.congr (haside.sameCourse hne hheads.live)⟩

theorem Animator.isAnimating_of_isIdle {a : Animator} (h : a.isIdle = true) (w : WidgetId)
    (property : Property) : a.isAnimating w property = false := by
  rw [isIdle, Bool.and_eq_true, List.isEmpty_iff] at h
  rw [Animator.isAnimating, Table.contains, h.1, List.any_nil]

namespace Session

variable {s : Session}

/-- The last action that gave a target to the opacity or the position of a widget wins. As long as
the widget is there the property is being animated to that target or has it, and when nothing is in
motion it has it. -/
theorem Past.last_target (hpast : Past done s)
    (hlast : latest? (Happening.target? s.config w property) done = some target) :
    (s.stage.animator.target? w property = some target ∨
      s.stage.canvas.property? w property = some target) ∧
    (s.stage.animator.isIdle = true → s.stage.canvas.property? w property = some target) := by
  obtain ⟨happening, -, hword⟩ := exists_of_latest? hlast
  obtain ⟨-, htarget⟩ := Option.ite_none_right_eq_some.mp hword
  have hproperty := (Action.target?_eq_some htarget).1
  have hheads := (hpast.latest (settles_target hproperty) target hlast).2
  refine ⟨?_, fun hidle => hheads.value (Animator.isAnimating_of_isIdle hidle w property)⟩
  cases hheads with
  | there hvalue => exact .inr hvalue
  | underWay _ track htrack hgoal =>
    exact .inl (by rw [Animator.target?, htrack, Option.map_some, hgoal])

/-- What holds of the session that has loaded a panel holds of a session without a past. -/
theorem exists_past_panel {p : Session → Bool}
    (h : ((Session.new {} {} {}).after (.loadDocument panel)).toOption.any p = true) :
    ∃ s, Past [] s ∧ p s = true := by
  cases hafter : (Session.new {} {} {}).after (.loadDocument panel) with
  | error breakdown => rw [hafter] at h; cases h
  | ok s =>
    rw [hafter] at h
    exact ⟨s, (Past.new {} {} {}).after hafter, h⟩

/-- Whether the opacity of a widget is given a last target by operations, after which nothing is in
motion. -/
def fadesTo (s : Session) (w : WidgetId) (alpha : Float32) (ops : List Operation) : Bool :=
  (s.play ops).any fun (done, t) =>
    decide (latest? (Happening.target? t.config w .alpha) done = some (.scalar alpha)) &&
      t.stage.animator.isIdle

/-- A panel that is faded while it is on its way to another opacity has the last one in the end. -/
theorem last_target_twoFades :
    ∃ done t, Past done t ∧
      latest? (Happening.target? t.config ⟨0⟩ .alpha) done = some (.scalar 0.5) ∧
      t.stage.animator.isIdle = true ∧
      t.stage.canvas.property? ⟨0⟩ .alpha = some (.scalar 0.5) := by
  obtain ⟨s, hs, hvalue⟩ := exists_past_panel
    (p := (fadesTo · ⟨0⟩ 0.5 [.execute "b" "fade" ["2", "0"], .tick 0.5,
      .execute "b" "fade" ["1", "0.5"], .tick 0.5, .tick 0.5])) (by decide +kernel)
  simp only [fadesTo, Option.any_eq_true, Bool.and_eq_true, decide_eq_true_eq] at hvalue
  obtain ⟨⟨done, t⟩, hplay, hlast, hidle⟩ := hvalue
  have hpast : Past done t := hs.run (run_of_play hplay)
  exact ⟨done, t, hpast, hlast, hidle, (Past.last_target hpast hlast).2 hidle⟩

end Session

end Uiml
