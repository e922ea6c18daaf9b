import Mathlib.Data.List.Nodup
import Uiml.Proofs.Animation.Queue
import Uiml.Proofs.Number.Unsigned

/-!
# The order of the queue

The clock of an animator only goes forward, and no step is queued for a time before that of the
clock. So times are numbers without a sign, whatever the spans of time and the delays are: any two
can be compared, and as no two steps of a queue have the same number there is just one order in
which steps can come due.

## Main definitions

* `TimedStep.Comparable` — steps have times without a sign, and numbers of their own
* `Animator.Operation`, `Animator.after` — what an animator can be asked for, and what it does
* `Animator.Punctual` — the steps of the queue are comparable, and their numbers are used up

## Main results

* `TimedStep.Comparable.pairwise` — steps are put in the order of their times, and of their numbers
  where the times are the same
* `TimedStep.Comparable.mergeSort_perm` — their order does not depend on that of the queue
* `Animator.steps_after` — what an operation leaves in the queue, and what it adds
* `Animator.Punctual.after` — every operation keeps an animator punctual
-/

namespace Uiml

/-! ### The order of steps -/

namespace TimedStep

/-- The place of a step in the order in which steps come due. -/
def key (timed : TimedStep) : (ℕ ×ₗ ℤ ×ₗ ℕ) ×ₗ ℕ := toLex (Double.rank timed.due, timed.number)

variable {t u : TimedStep} {steps steps' : List TimedStep}

theorem isBefore_iff (ht : Double.IsUnsigned t.due) (hu : Double.IsUnsigned u.due) :
    t.isBefore u = true ↔ t.key ≤ u.key := by
  rw [key, key, Prod.Lex.toLex_le_toLex, isBefore, Bool.or_eq_true, Bool.and_eq_true,
    Bool.not_eq_true', decide_eq_true_iff, decide_eq_false_iff_not, decide_eq_true_iff,
    ht.lt_iff hu, hu.lt_iff ht, not_lt]
  constructor
  · rintro (hlt | ⟨hle, hnumber⟩)
    · exact .inl hlt
    · exact hle.lt_or_eq.imp_right fun heq => ⟨heq, hnumber⟩
  · rintro (hlt | ⟨heq, hnumber⟩)
    · exact .inl hlt
    · exact .inr ⟨heq.le, hnumber⟩

/-- Steps have times without a sign, and numbers of their own. -/
structure Comparable (steps : List TimedStep) : Prop where
  due : ∀ timed ∈ steps, Double.IsUnsigned timed.due
  distinct : (steps.map TimedStep.number).Nodup

namespace Comparable

theorem sublist (h : Comparable steps) (hsub : steps'.Sublist steps) : Comparable steps' where
  due := fun timed hmem => h.due timed (hsub.subset hmem)
  distinct := h.distinct.sublist (hsub.map _)

theorem perm (h : Comparable steps) (hperm : steps.Perm steps') : Comparable steps' where
  due := fun timed hmem => h.due timed (hperm.mem_iff.mpr hmem)
  distinct := (hperm.map _).nodup_iff.mp h.distinct

theorem concat (h : Comparable steps) {timed : TimedStep} (hdue : Double.IsUnsigned timed.due)
    (hnumber : ∀ other ∈ steps, other.number < timed.number) :
    Comparable (steps ++ [timed]) where
  due := by
    intro other hmem
    rcases List.mem_append.mp hmem with hold | hnew
    · exact h.due other hold
    · rwa [List.mem_singleton.mp hnew]
  distinct := by
    rw [List.map_append, List.nodup_append]
    refine ⟨h.distinct, List.pairwise_singleton _ _, ?_⟩
    intro number hold new hnew
    obtain ⟨other, hmem, rfl⟩ := List.mem_map.mp hold
    rw [List.map_singleton, List.mem_singleton] at hnew
    exact hnew ▸ (hnumber other hmem).ne

theorem eq_of_key_le (h : Comparable steps) (ht : t ∈ steps) (hu : u ∈ steps)
    (htu : t.key ≤ u.key) (hut : u.key ≤ t.key) : t = u := by
  have hkey : t.key = u.key := le_antisymm htu hut
  exact List.inj_on_of_nodup_map h.distinct ht hu (congrArg (fun key => (ofLex key).2) hkey)

/-- Among comparable steps, the order is that of their keys. -/
theorem mergeSort_eq (h : Comparable steps) :
    steps.mergeSort isBefore = steps.mergeSort fun t u => decide (t.key ≤ u.key) := by
  -- the two tests differ on times that are no numbers, of which there are none
  have hsame : ∀ t ∈ steps, ∀ u ∈ steps, t.isBefore u = decide (t.key ≤ u.key) := by
    intro t ht u hu
    rw [Bool.eq_iff_iff, isBefore_iff (h.due t ht) (h.due u hu), decide_eq_true_iff]
  have hmap := List.map_mergeSort (s := fun t u : TimedStep => decide (t.key ≤ u.key)) (f := id)
    hsame
  rwa [List.map_id, List.map_id] at hmap

theorem pairwise_key (h : Comparable steps) :
    (steps.mergeSort isBefore).Pairwise fun t u => t.key ≤ u.key := by
  rw [h.mergeSort_eq]
  have hsorted : (steps.mergeSort fun t u => decide (t.key ≤ u.key)).Pairwise fun t u =>
      decide (t.key ≤ u.key) = true := by
    refine List.pairwise_mergeSort (fun t u v htu huv => ?_) (fun t u => ?_) steps
    · exact decide_eq_true ((of_decide_eq_true htu).trans (of_decide_eq_true huv))
    · rw [Bool.or_eq_true, decide_eq_true_iff, decide_eq_true_iff]
      exact le_total _ _
  exact hsorted.imp of_decide_eq_true

/-- There is only one order, whatever that of the queue is. -/
theorem mergeSort_perm (h : Comparable steps) (hperm : steps.Perm steps') :
    steps'.mergeSort isBefore = steps.mergeSort isBefore := by
  refine List.Perm.eq_of_pairwise ?_ (h.perm hperm).pairwise_key h.pairwise_key ?_
  · intro t u ht hu htu hut
    exact h.eq_of_key_le (hperm.mem_iff.mpr (List.mem_mergeSort.mp ht)) (List.mem_mergeSort.mp hu)
      htu hut
  · exact (List.mergeSort_perm _ _).trans (hperm.symm.trans (List.mergeSort_perm _ _).symm)

/-- Steps are put in the order of their times, and of their numbers where the times are the same. -/
theorem pairwise (h : Comparable steps) :
    (steps.mergeSort isBefore).Pairwise fun t u =>
      t.due ≤ u.due ∧ (u.due ≤ t.due → t.number < u.number) := by
  have hperm := List.mergeSort_perm steps isBefore
  have hsorted : Comparable (steps.mergeSort isBefore) := h.perm hperm.symm
  have hdistinct := List.pairwise_map.mp hsorted.distinct
  refine (h.pairwise_key.and hdistinct).imp_of_mem ?_
  rintro t u ht hu ⟨hkey, hne⟩
  have htdue := hsorted.due t ht
  have hudue := hsorted.due u hu
  rw [htdue.le_iff hudue, hudue.le_iff htdue]
  rw [key, key, Prod.Lex.toLex_le_toLex] at hkey
  rcases hkey with hlt | ⟨heq, hnumber⟩
  · exact ⟨hlt.le, fun hle => absurd hle hlt.not_ge⟩
  · exact ⟨heq.le, fun _ => lt_of_le_of_ne hnumber hne⟩

end Comparable

end TimedStep

/-! ### Operations -/

namespace Animator

/-- What an animator can be asked for. -/
inductive Operation where
  | schedule (delay : Float32) (step : Step)
  | start (widget : WidgetId) (property : Property) (source target : TweenValue)
      (duration : Float32)
  | beginBounce (widget : WidgetId) (current : Vec3) (half : Float32)
  | settleBounce (widget : WidgetId)
  | cancel (widget : WidgetId) (property : Property)
  | cancelWidget (widget : WidgetId)
  | clear
  | advance (dt : Float32)

/-- The animator after an operation, if time passes in a given way. -/
def afterBy (pass : Animator → Float32 → Advance × Animator) (a : Animator) :
    Operation → Animator
  | .schedule delay step => a.schedule delay step
  | .start widget property source target duration =>
    (a.start widget property source target duration).2
  | .beginBounce widget current half => (a.beginBounce widget current half).2
  | .settleBounce widget => (a.settleBounce widget).2
  | .cancel widget property => a.cancel widget property
  | .cancelWidget widget => a.cancelWidget widget
  | .clear => a.clear
  | .advance dt => (pass a dt).2

/-- The animator after an operation. -/
def after (a : Animator) (operation : Operation) : Animator := a.afterBy advance operation

/-- The step that an operation queues, and when it is due. -/
def booked? (a : Animator) : Operation → Option TimedStep
  | .schedule delay step =>
    some ⟨a.now + Double.ofSingle (notNegative delay), a.scheduled + 1, step⟩
  | .beginBounce widget _ half =>
    some ⟨a.now + Double.ofSingle (notNegative half), a.scheduled + 1, .settle widget half⟩
  | _ => none

end Animator

/-- Whether an operation takes back a step of the queue. -/
def TimedStep.isTakenBackBy (timed : TimedStep) : Animator.Operation → Bool
  | .cancelWidget widget => timed.step.widget? = some widget
  | .clear => true
  | _ => false

/-- Whether a step of the queue comes due with an operation after which the clock shows `now`. -/
def TimedStep.comesDueBy (timed : TimedStep) (now : Float) : Animator.Operation → Bool
  | .advance _ => timed.due ≤ now + Animator.dueSlack
  | _ => false

namespace Animator

variable {a : Animator} {operation : Operation} {timed : TimedStep}

/-- An operation leaves what it neither takes back nor makes due, and adds what it queues itself. -/
theorem steps_after (a : Animator) (operation : Operation) :
    (a.after operation).steps =
      (a.steps.filter fun timed => !timed.comesDueBy (a.after operation).now operation &&
        !timed.isTakenBackBy operation) ++ (a.booked? operation).toList := by
  cases operation with
  | cancelWidget =>
    simp [after, afterBy, cancelWidget, booked?, TimedStep.comesDueBy, TimedStep.isTakenBackBy]
  | clear => simp [after, afterBy, clear, booked?, TimedStep.comesDueBy, TimedStep.isTakenBackBy]
  | advance =>
    simp [after, afterBy, advance, booked?, TimedStep.comesDueBy, TimedStep.isTakenBackBy]
  | _ =>
    simp [after, afterBy, schedule, beginBounce, cancel, booked?, TimedStep.comesDueBy,
      TimedStep.isTakenBackBy, List.filter_true]

/-- Steps are numbered in the order in which they are queued. -/
theorem scheduled_after (a : Animator) (operation : Operation) :
    (a.after operation).scheduled =
      a.scheduled + (a.booked? operation).toList.length := by
  cases operation with
  | start =>
    simp only [after, afterBy, start, booked?]
    split <;> rfl
  | settleBounce =>
    simp only [after, afterBy, settleBounce, booked?]
    split <;> rfl
  | _ => rfl

theorem number_of_booked? (h : a.booked? operation = some timed) :
    timed.number = a.scheduled + 1 := by
  cases operation with
  | schedule | beginBounce => cases h; rfl
  | _ => cases h

/-- A span of time that has been cut to what a clock can go forward by. -/
theorem isUnsigned_notNegative (seconds : Float32) :
    Single.isUnsigned (notNegative seconds).toModel.unpack = true := by
  rw [notNegative]
  split
  next hpos => exact Single.isUnsigned_of_pos hpos
  next => decide

/-- The seconds by which the animator goes on. -/
theorem isUnsigned_seconds (dt : Float32) :
    Single.isUnsigned (if dt.isFinite then notNegative dt else 0).toModel.unpack = true := by
  split
  next => exact isUnsigned_notNegative dt
  next => decide

theorem isUnsigned_due_of_booked? (hnow : Double.IsUnsigned a.now)
    (h : a.booked? operation = some timed) : Double.IsUnsigned timed.due := by
  cases operation with
  | schedule | beginBounce =>
    cases h
    exact hnow.add (Double.isUnsigned_ofSingle (isUnsigned_notNegative _))
  | _ => cases h

/-- The clock goes forward. -/
theorem isUnsigned_now_after (hnow : Double.IsUnsigned a.now) (operation : Operation) :
    Double.IsUnsigned (a.after operation).now := by
  cases operation with
  | advance dt => exact hnow.add (Double.isUnsigned_ofSingle (isUnsigned_seconds dt))
  | start =>
    simp only [after, afterBy, start]
    split <;> exact hnow
  | settleBounce =>
    simp only [after, afterBy, settleBounce]
    split <;> exact hnow
  | _ => exact hnow

/-- The clock shows a time without a sign, the steps of the queue are comparable, and the numbers
that they have are used up. -/
structure Punctual (a : Animator) : Prop where
  now : Double.IsUnsigned a.now
  steps : TimedStep.Comparable a.steps
  number_le : ∀ timed ∈ a.steps, timed.number ≤ a.scheduled

namespace Punctual

/-- An animator that has done nothing yet is punctual. -/
theorem initial : Punctual {} where
  now := Double.isUnsigned_zero
  steps := ⟨(fun _ h => nomatch h), List.nodup_nil⟩
  number_le := fun _ h => nomatch h

/-- Every operation keeps an animator punctual. -/
theorem after (h : a.Punctual) (operation : Operation) : (a.after operation).Punctual := by
  have hsub := List.filter_sublist (l := a.steps) (p := fun timed =>
    !timed.comesDueBy (a.after operation).now operation && !timed.isTakenBackBy operation)
  refine ⟨isUnsigned_now_after h.now operation, ?_, ?_⟩
  · rw [steps_after]
    cases hbooked : a.booked? operation with
    | none => exact (List.append_nil _).symm ▸ h.steps.sublist hsub
    | some timed =>
      -- the new number is greater than all that are in use
      refine (h.steps.sublist hsub).concat (isUnsigned_due_of_booked? h.now hbooked) ?_
      intro other hother
      rw [number_of_booked? hbooked]
      exact Nat.lt_succ_of_le (h.number_le other (hsub.subset hother))
  · intro timed hmem
    rw [steps_after, List.mem_append] at hmem
    rw [scheduled_after]
    rcases hmem with hold | hnew
    · exact (h.number_le timed (hsub.subset hold)).trans (Nat.le_add_right _ _)
    · have hbooked := Option.mem_toList.mp hnew
      rw [number_of_booked? hbooked, hbooked]
      exact le_rfl

end Punctual

end Animator

end Uiml
