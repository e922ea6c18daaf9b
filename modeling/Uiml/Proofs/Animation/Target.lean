import Uiml.Proofs.Animation.Heading
import Uiml.Proofs.Animation.Restore

/-!
# The targets of actions

An action gives the opacity, the position or the scale of its widget a target, or leaves the
property alone. The target is settled by what the action finds: where the widget is, where it was
made, and whether it can be seen.

## Main definitions

* `Action.alphaTarget?`, `Action.positionTarget?`, `Action.scaleTarget?` — what an action aims at
* `Action.target?` — the same for opacity and position, which an action with a target heads for
* `Action.Leaves` — that an action has no target for a property

## Main results

* `Action.run_heads` — the property heads for the target of the action
* `Action.run_sameCourse` — without a target it is left alone
-/

namespace Uiml

variable {w : WidgetId} {property : Property} {target : TweenValue} {stage stage' : Stage}
  {config : Config} {action : Action} {ran : Logged Stage}

/-- Whether a switch between visible and invisible takes a widget for visible. -/
def Stage.isVisible (stage : Stage) (w : WidgetId) : Bool :=
  (stage.widget? w).any fun h => 0.5 < h.alpha

/-- Where a widget gets to when it slides off the screen. -/
def Stage.slideTarget? (stage : Stage) (config : Config) (w : WidgetId)
    (direction : SlideDirection) : Option Vec2 :=
  (stage.widget? w).map fun h => h.transform.position + direction.offset config.screenSize

namespace Action

/-- The opacity that an action gives to its widget. -/
def alphaTarget? (stage : Stage) (w : WidgetId) : Action → Option Float32
  | .show _ | .restore => some 1
  | .hide _ => some 0
  | .toggle _ => some (if stage.isVisible w then 0 else 1)
  | .fade alpha _ | .setAlpha alpha => some alpha
  | .moveTo _ _ | .moveHome _ | .scale _ _ | .slide _ _ | .bounce _ | .setInteractable _
  | .setText _ => none

/-- The position that an action gives to its widget. -/
def positionTarget? (config : Config) (stage : Stage) (w : WidgetId) : Action → Option Vec2
  | .show _ | .moveHome _ | .restore => some (stage.homePosition w)
  | .hide _ => stage.slideTarget? config w .left
  | .toggle _ =>
    if stage.isVisible w then stage.slideTarget? config w .left else some (stage.homePosition w)
  | .moveTo position _ => some position
  | .slide direction _ => stage.slideTarget? config w direction
  | .fade _ _ | .scale _ _ | .bounce _ | .setAlpha _ | .setInteractable _ | .setText _ => none

/-- The scale that an action gives to its widget, and for a bounce the one that it finds. -/
def scaleTarget? (stage : Stage) (w : WidgetId) : Action → Option Vec3
  | .show _ | .restore => some .one
  | .toggle _ => if stage.isVisible w then none else some .one
  | .scale factor _ => some (.splat factor)
  | .bounce _ => stage.canvas.scale? w
  | .hide _ | .fade _ _ | .moveTo _ _ | .moveHome _ | .slide _ _ | .setAlpha _
  | .setInteractable _ | .setText _ => none

/-- What an action gives to the opacity or to the position of its widget. -/
def target? (config : Config) (stage : Stage) (w : WidgetId) (property : Property)
    (action : Action) : Option TweenValue :=
  match property with
  | .alpha => (action.alphaTarget? stage w).map .scalar
  | .position => (action.positionTarget? config stage w).map .vec2
  | .scale | .progress => none

/-- An action has no target for a property of its widget. -/
def Leaves (config : Config) (stage : Stage) (w : WidgetId) (property : Property)
    (action : Action) : Prop :=
  match property with
  | .alpha => action.alphaTarget? stage w = none
  | .position => action.positionTarget? config stage w = none
  | .scale => action.scaleTarget? stage w = none
  | .progress => False

theorem leaves_of_target?_eq_none (h : action.target? config stage w property = none)
    (hproperty : property = .alpha ∨ property = .position) :
    action.Leaves config stage w property := by
  rcases hproperty with rfl | rfl <;> exact Option.map_eq_none_iff.mp h

end Action

namespace Stage

theorem slideTarget?_congr (h : SameCourse w .position stage stage') (direction : SlideDirection) :
    stage'.slideTarget? config w direction = stage.slideTarget? config w direction := by
  have hvalue := h.value
  simp only [Canvas.property?] at hvalue
  simp only [slideTarget?, widget?]
  cases hw : stage.canvas.widget? w <;> cases hw' : stage'.canvas.widget? w <;>
    simp_all [Handle.property?]

/-- A widget that slides heads for where it gets to. -/
theorem slide_heads {direction : SlideDirection} {position : Vec2}
    (h : stage.slideTarget? config w direction = some position) (duration : Float32) :
    (stage.slide config w direction duration).value.Heads w .position (.vec2 position) := by
  obtain ⟨handle, hw, rfl⟩ := Option.map_eq_some_iff.mp h
  have hlive : (stage.canvas.widget? w).isSome := Option.isSome_iff_exists.mpr ⟨handle, hw⟩
  rw [slide, hw]
  exact animate_heads (.position _) hlive duration

theorem slide_sameCourse (hne : property ≠ .position) (direction : SlideDirection)
    (duration : Float32) :
    SameCourse w property stage (stage.slide config w direction duration).value := by
  rw [slide]
  cases stage.widget? w with
  | none => exact .refl w property stage
  | some h => exact animate_sameCourse_of_ne hne _ _

theorem conceal_sameCourse (halpha : property ≠ .alpha) (hposition : property ≠ .position)
    (duration : Float32) :
    SameCourse w property stage (stage.conceal config w duration).value := by
  simp only [conceal, Logged.bind_value]
  exact (animate_sameCourse_of_ne halpha _ _).trans (slide_sameCourse hposition .left duration)

theorem bounce_sameCourse (hne : property ≠ .scale) (config : Config) (duration : Float32) :
    SameCourse w property stage (stage.bounce config w duration).value := by
  rw [bounce]
  cases stage.widget? w with
  | none => exact .refl w property stage
  | some h =>
    have hbegun : SameCourse w property stage
        ⟨stage.canvas, (stage.animator.beginBounce w h.transform.scale (duration / 2)).2⟩ :=
      ⟨rfl, rfl, fun _ hj => hj⟩
    exact hbegun.trans (animate_sameCourse_of_ne hne _ _)

section Live

variable (hlive : (stage.canvas.widget? w).isSome) (duration : Float32)

include hlive

/-- A widget that is revealed heads for full opacity and for where it was made. -/
theorem reveal_heads :
    (stage.reveal w duration).value.Heads w .alpha (.scalar 1) ∧
      (stage.reveal w duration).value.Heads w .position (.vec2 (stage.homePosition w)) := by
  simp only [reveal, Logged.bind_value]
  let lit : Stage := (stage.animate w .alpha (.scalar 1) duration).value
  have hlit : (lit.canvas.widget? w).isSome :=
    (stage.animate_changesOf w .alpha (.scalar 1) duration).keepsWidgets w hlive
  have halpha := animate_heads (.alpha 1) hlive duration
  have hposition := animate_heads (.position (stage.homePosition w)) hlit duration
  refine ⟨?_, hposition.congr (animate_sameCourse_of_ne (by simp) _ _)⟩
  exact (halpha.congr (animate_sameCourse_of_ne (by simp) _ _)).congr
    (animate_sameCourse_of_ne (by simp) _ _)

/-- A widget that is concealed heads for no opacity and off the screen. -/
theorem conceal_heads :
    (stage.conceal config w duration).value.Heads w .alpha (.scalar 0) ∧
      ∀ position, stage.slideTarget? config w .left = some position →
        (stage.conceal config w duration).value.Heads w .position (.vec2 position) := by
  simp only [conceal, Logged.bind_value]
  have halpha := animate_heads (.alpha 0) hlive duration
  refine ⟨halpha.congr (slide_sameCourse (by simp) _ _), fun position hslide => ?_⟩
  -- fading does not move the widget, so that it slides from where it was
  refine slide_heads ?_ duration
  rw [slideTarget?_congr (animate_sameCourse_of_ne (by simp) _ _), hslide]

omit duration in
/-- A widget that is restored has full opacity, is where it was made, and has its own size. -/
theorem restore_heads :
    (stage.restore w).Heads w .alpha (.scalar 1) ∧
      (stage.restore w).Heads w .position (.vec2 (stage.homePosition w)) ∧
      (stage.restore w).Heads w .scale (.vec3 .one) := by
  obtain ⟨h, hw⟩ : ∃ h, stage.canvas.widget? w = some h := Option.isSome_iff_exists.mp hlive
  have hrestored := widget?_restore hw
  have hhome : stage.homePosition w = h.home.transform.position := by
    rw [homePosition, widget?, hw]
  have hstill (property : Property) :
      (stage.restore w).animator.tracks.get? (w, property) = none := by
    rw [restore_animator]
    exact stage.animator.get?_tracks_cancelWidget w property
  refine ⟨.there ?_ (hstill _), .there ?_ (hstill _), .there ?_ (hstill _)⟩
  · rw [Canvas.property?, hrestored]
    rfl
  · rw [Canvas.property?, hrestored, hhome]
    rfl
  · rw [Canvas.property?, hrestored]
    rfl

end Live

end Stage

namespace Action

/-- A switch conceals what can be seen, and reveals what cannot. -/
theorem run_toggle (config : Config) (stage : Stage) (w : WidgetId) (duration : Float32) :
    (Action.toggle duration).run config w stage =
      .ok (if stage.isVisible w then stage.conceal config w duration
        else stage.reveal w duration) := rfl

/-- What an action gives to a property, the property heads for. -/
theorem run_heads (h : action.run config w stage = .ok ran)
    (hlive : (stage.canvas.widget? w).isSome)
    (htarget : action.target? config stage w property = some target) :
    ran.value.Heads w property target := by
  cases property with
  | alpha =>
    obtain ⟨alpha, halpha, rfl⟩ := Option.map_eq_some_iff.mp htarget
    cases action with
    | «show» duration => cases h; cases halpha; exact (Stage.reveal_heads hlive duration).1
    | hide duration => cases h; cases halpha; exact (Stage.conceal_heads hlive duration).1
    | toggle duration =>
      rw [run_toggle] at h
      cases h
      cases halpha
      split
      · exact (Stage.conceal_heads hlive duration).1
      · exact (Stage.reveal_heads hlive duration).1
    | fade alpha duration =>
      cases h; cases halpha; exact Stage.animate_heads (.alpha _) hlive duration
    | setAlpha alpha =>
      cases h; cases halpha
      exact .there (Canvas.property?_applyValue (.alpha _) hlive)
        ((Table.get?_erase _ _ _).trans (if_pos rfl))
    | restore => cases h; cases halpha; exact (Stage.restore_heads hlive).1
    | moveTo | moveHome | scale | slide | bounce | setInteractable | setText => cases halpha
  | position =>
    obtain ⟨position, hposition, rfl⟩ := Option.map_eq_some_iff.mp htarget
    cases action with
    | «show» duration => cases h; cases hposition; exact (Stage.reveal_heads hlive duration).2
    | hide duration => cases h; exact (Stage.conceal_heads hlive duration).2 position hposition
    | toggle duration =>
      rw [run_toggle] at h
      cases h
      rw [positionTarget?] at hposition
      by_cases hvisible : stage.isVisible w = true
      · rw [if_pos hvisible] at hposition ⊢
        exact (Stage.conceal_heads hlive duration).2 position hposition
      · rw [if_neg hvisible] at hposition ⊢
        cases hposition
        exact (Stage.reveal_heads hlive duration).2
    | moveTo position duration =>
      cases h; cases hposition; exact Stage.animate_heads (.position _) hlive duration
    | moveHome duration =>
      cases h; cases hposition; exact Stage.animate_heads (.position _) hlive duration
    | slide direction duration => cases h; exact Stage.slide_heads hposition duration
    | restore => cases h; cases hposition; exact (Stage.restore_heads hlive).2.1
    | fade | scale | bounce | setAlpha | setInteractable | setText => cases hposition
  | scale | progress => cases htarget

/-- What an action has no target for, it leaves alone. -/
theorem run_sameCourse (h : action.run config w stage = .ok ran)
    (hlive : (stage.canvas.widget? w).isSome) (hleaves : action.Leaves config stage w property) :
    Stage.SameCourse w property stage ran.value := by
  obtain ⟨handle, hw⟩ : ∃ h, stage.widget? w = some h := Option.isSome_iff_exists.mp hlive
  -- a widget that is there has somewhere to slide, and a scale to bounce at
  have hslide : ∀ direction, stage.slideTarget? config w direction ≠ none := by
    simp [Stage.slideTarget?, hw]
  have hscale : stage.canvas.scale? w ≠ none := by
    rw [Ne, Canvas.scale?, Option.map_eq_none_iff, ← Stage.widget?, hw]
    exact Option.some_ne_none handle
  have hkeeps := (Action.run_changesOf h).keepsWidgets
  cases action with
  | «show» | restore => cases property <;> cases hleaves
  | hide duration =>
    cases h
    exact Stage.conceal_sameCourse (by rintro rfl; cases hleaves)
      (by rintro rfl; exact hslide .left hleaves) duration
  | toggle duration =>
    rw [run_toggle] at h
    cases h
    by_cases hvisible : stage.isVisible w = true
    · rw [if_pos hvisible]
      refine Stage.conceal_sameCourse (by rintro rfl; cases hleaves) ?_ duration
      rintro rfl
      rw [Leaves, positionTarget?, if_pos hvisible] at hleaves
      exact hslide .left hleaves
    · -- a widget that is revealed is given all that it can be given
      cases property <;> simp [Leaves, alphaTarget?, positionTarget?, scaleTarget?, hvisible]
        at hleaves
  | fade alpha duration =>
    cases h
    exact Stage.animate_sameCourse_of_ne (by rintro rfl; cases hleaves) _ _
  | moveTo position duration =>
    cases h
    exact Stage.animate_sameCourse_of_ne (by rintro rfl; cases hleaves) _ _
  | moveHome duration =>
    cases h
    exact Stage.animate_sameCourse_of_ne (by rintro rfl; cases hleaves) _ _
  | scale factor duration =>
    cases h
    exact Stage.animate_sameCourse_of_ne (by rintro rfl; cases hleaves) _ _
  | slide direction duration =>
    cases h
    exact Stage.slide_sameCourse (by rintro rfl; exact hslide direction hleaves) _ _
  | bounce duration =>
    cases h
    exact Stage.bounce_sameCourse (by rintro rfl; exact hscale hleaves) config duration
  | setAlpha alpha =>
    cases h
    have hne : property ≠ .alpha := by rintro rfl; cases hleaves
    exact ⟨Canvas.property?_applyValue_of_ne (by simpa using hne.symm) _,
      (Table.get?_erase _ _ _).trans (if_neg (by simpa using hne)), hkeeps⟩
  | setInteractable interactable =>
    cases h
    exact ⟨stage.canvas.property?_setInteractable interactable, rfl, hkeeps⟩
  | setText text =>
    simp only [run, hw] at h
    split at h
    · cases h
      exact ⟨Canvas.Links.property?_eq (.single (.display (.text text))), rfl, hkeeps⟩
    · cases h

end Action

end Uiml
