import Uiml.Proofs.Animation.Unseen

/-!
# Numbers of steps

The steps of the animator are numbered in the order in which they are scheduled. The numbers only
tell which of two steps was scheduled first. So nothing that is done on a stage depends on how many
steps had been scheduled before those that are in the queue: where all numbers are greater by the
same amount, all that is done does the same, and the numbers are greater by that amount again.

## Main definitions

* `Animator.shift`, `Stage.shift` — the same with greater numbers

## Main results

* `Animator.advance_shift` — time makes the same steps due in the same order
* `Animator.unseen_shift` — the numbers cannot be seen otherwise
* `Stage.animate_shift`, `Command.execute_shift`, `runSteps_shift` — what is done does the same
-/

namespace Uiml

/-- The step with a greater number. -/
def TimedStep.shift (k : Nat) (timed : TimedStep) : TimedStep :=
  { timed with number := timed.number + k }

theorem TimedStep.isBefore_shift (k : Nat) (a b : TimedStep) :
    (a.shift k).isBefore (b.shift k) = a.isBefore b := by
  have hnumber : decide (a.number + k ≤ b.number + k) = decide (a.number ≤ b.number) :=
    decide_eq_decide.mpr Nat.add_le_add_iff_right
  rw [isBefore, isBefore, ← hnumber]
  rfl

namespace Animator

/-- The animator with greater numbers of steps. -/
def shift (k : Nat) (a : Animator) : Animator :=
  { a with steps := a.steps.map (TimedStep.shift k), scheduled := a.scheduled + k }

variable (k : Nat) (a : Animator) (id : WidgetId)

theorem start_shift (property : Property) (source target : TweenValue) (duration : Float32) :
    (a.shift k).start id property source target duration =
      ((a.start id property source target duration).1,
        (a.start id property source target duration).2.shift k) := by
  rw [start, start]
  split <;> rfl

theorem cancelWidget_shift : (a.shift k).cancelWidget id = (a.cancelWidget id).shift k := by
  simp only [cancelWidget, shift, List.filter_map]
  rfl

theorem schedule_shift (delay : Float32) (step : Step) :
    (a.shift k).schedule delay step = (a.schedule delay step).shift k := by
  simp only [schedule, shift, TimedStep.shift, List.map_append, List.map_cons, List.map_nil,
    Nat.add_right_comm]

theorem beginBounce_shift (current : Vec3) (half : Float32) :
    (a.shift k).beginBounce id current half =
      ((a.beginBounce id current half).1, (a.beginBounce id current half).2.shift k) := by
  rw [beginBounce, beginBounce, ← schedule_shift]
  rfl

theorem settleBounce_shift :
    (a.shift k).settleBounce id = ((a.settleBounce id).1, (a.settleBounce id).2.shift k) := by
  have hbounces : (a.shift k).bounces = a.bounces := rfl
  rw [settleBounce, settleBounce, hbounces]
  cases a.bounces.get? id <;> rfl

/-- Time makes the same steps due, in the same order. -/
theorem advance_shift (dt : Float32) :
    (a.shift k).advance dt = ((a.advance dt).1, (a.advance dt).2.shift k) := by
  have hready (p : TimedStep → Bool) (hp : ∀ timed, p (timed.shift k) = p timed) :
      (a.steps.map (TimedStep.shift k)).filter p = (a.steps.filter p).map (TimedStep.shift k) := by
    rw [List.filter_map]
    exact congrArg _ (List.filter_congr fun timed _ => hp timed)
  have hsorted (steps : List TimedStep) :
      ((steps.map (TimedStep.shift k)).mergeSort TimedStep.isBefore).map TimedStep.step =
        (steps.mergeSort TimedStep.isBefore).map TimedStep.step := by
    rw [← List.map_mergeSort fun a _ b _ => (TimedStep.isBefore_shift k a b).symm, List.map_map]
    rfl
  simp only [advance, shift]
  rw [hready _ fun _ => rfl, hready _ fun _ => rfl, hsorted]
  rfl

/-- The numbers of steps show only in the order in which steps come due. -/
theorem unseen_shift : Unseen fun a b => b = a.shift k where
  start := by
    rintro a _ rfl id property source target duration
    rw [start_shift]
  cancel := by
    rintro a _ rfl id property
    rfl
  cancelWidget := by
    rintro a _ rfl id
    exact a.cancelWidget_shift k id
  beginBounce := by
    rintro a _ rfl id current half
    rw [beginBounce_shift]
    exact ⟨rfl, rfl⟩
  settleBounce := by
    rintro a _ rfl id
    rw [settleBounce_shift]
    exact ⟨rfl, rfl⟩

end Animator

namespace Stage

/-- The stage with greater numbers of steps. -/
def shift (k : Nat) (stage : Stage) : Stage :=
  { stage with animator := stage.animator.shift k }

variable (k : Nat) (stage : Stage)

@[simp] theorem canvas_shift : (stage.shift k).canvas = stage.canvas := rfl

@[simp] theorem animator_shift : (stage.shift k).animator = stage.animator.shift k := rfl

theorem twins_shift : stage.Twins (fun a b => b = a.shift k) (stage.shift k) := ⟨rfl, rfl⟩

variable {k stage}

theorem Twins.eq_shift {stage' : Stage} (ht : stage.Twins (fun a b => b = a.shift k) stage') :
    stage' = stage.shift k := by
  obtain ⟨canvas, animator⟩ := stage'
  obtain ⟨rfl, rfl⟩ := ht
  rfl

variable (k stage)

theorem animate_shift (id : WidgetId) (property : Property) (target : TweenValue)
    (duration : Float32) :
    ((stage.shift k).animate id property target duration).value =
      (stage.animate id property target duration).value.shift k :=
  ((Animator.unseen_shift k).animate (stage.twins_shift k) id property target duration).eq_shift

end Stage

variable (k : Nat) (config : Config) (registry : Registry) (stage : Stage)

/-- A command does the same, and fails for the same reasons. -/
theorem Command.execute_shift (element command : String) (args : List String) :
    (execute config registry (stage.shift k) element command args).value =
      ((execute config registry stage element command args).value.1,
        (execute config registry stage element command args).value.2.shift k) := by
  obtain ⟨hresult, htwins⟩ := (Animator.unseen_shift k).execute config registry
    (stage.twins_shift k) element command args
  exact Prod.ext hresult htwins.eq_shift

theorem applyUpdates_shift (updates : List TweenUpdate) :
    (Session.applyUpdates (stage.shift k) updates).value =
      (Session.applyUpdates stage updates).value.shift k :=
  (Animator.Unseen.applyUpdates (stage.twins_shift k) updates).eq_shift

theorem runSteps_shift (steps : List Step) :
    (Session.runSteps config registry (stage.shift k) steps).value =
      (Session.runSteps config registry stage steps).value.shift k :=
  ((Animator.unseen_shift k).runSteps config registry (stage.twins_shift k) steps).eq_shift

end Uiml
