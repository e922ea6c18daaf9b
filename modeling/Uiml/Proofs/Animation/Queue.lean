import Uiml.Animation.Animator
import Uiml.Proofs.Table.Keys

/-!
# What the animator has in store

What an operation of the animator leaves to a widget: the animation of each of its properties, what
is remembered of its bounces, and how many of its bounces have not yet begun their way back. While
steps that have come due are being done, those that are not done yet count as being in store too.

## Main definitions

* `Animator.takesTime` — a duration is one in which something can move
* `Animator.toDo` — the steps that are still to be done
* `Animator.waysBack` — the number of bounces that have not begun their way back

## Main results

* `Animator.waysBack_beginBounce`, `Animator.get?_bounces_beginBounce`, … — one law for each
  operation and each thing that it has a say in
* `Animator.advance_toDo` — time does not lose steps, it only makes some of them due
-/

namespace Uiml

/-- Whether a step is the second half of a bounce of a widget. -/
def Step.isWayBack (w : WidgetId) : Step → Bool
  | .settle id _ => id = w
  | _ => false

/-- An animation a number of seconds further on. -/
def Track.after (track : Track) (seconds : Float32) : Track :=
  { track with elapsed := track.elapsed + seconds }

namespace Animator

variable (a : Animator) (due : List Step) (id w : WidgetId)

/-- The steps that are still to be done if `due` is what is left of those that have come due. -/
def toDo : List Step := due ++ a.steps.map TimedStep.step

/-- The number of bounces of a widget that have not begun their way back. -/
def waysBack : Nat := (a.toDo due).countP (Step.isWayBack w)

section Start

variable (property : Property) (source target : TweenValue) (duration : Float32)

@[simp] theorem start_steps : (a.start id property source target duration).2.steps = a.steps := by
  rw [start]
  split <;> rfl

@[simp] theorem start_bounces :
    (a.start id property source target duration).2.bounces = a.bounces := by
  rw [start]
  split <;> rfl

@[simp] theorem start_toDo :
    (a.start id property source target duration).2.toDo due = a.toDo due := by
  rw [toDo, start_steps, toDo]

@[simp] theorem start_waysBack :
    (a.start id property source target duration).2.waysBack due w = a.waysBack due w := by
  rw [waysBack, start_toDo, waysBack]

theorem start_distinct (h : a.tracks.Distinct) :
    (a.start id property source target duration).2.tracks.Distinct := by
  rw [start]
  split
  · exact h.erase _
  · exact h.insert _ _

/-- Only the animation of the one property is begun or ended. -/
theorem get?_tracks_start_of_ne {key : WidgetId × Property} (h : key ≠ (id, property)) :
    (a.start id property source target duration).2.tracks.get? key = a.tracks.get? key := by
  rw [start]
  split
  · simp only [Table.get?_erase, if_neg h]
  · simp only [Table.get?_insert, if_neg h]

/-- Either the animation runs to the target, or there is none and the target is given back. -/
theorem start_cases :
    ((a.start id property source target duration).1 = some target ∧
      (a.start id property source target duration).2.tracks.get? (id, property) = none) ∨
    ((a.start id property source target duration).1 = none ∧
      (a.start id property source target duration).2.tracks.get? (id, property) =
        some ⟨source, target, 0, duration⟩) := by
  rw [start]
  split
  · exact .inl ⟨rfl, by simp only [Table.get?_erase, if_true]⟩
  · exact .inr ⟨rfl, by simp only [Table.get?_insert, if_true]⟩

end Start

/-- Whether a duration is one in which something can move. -/
def takesTime (duration : Float32) : Bool := !(duration ≤ 0 || !duration.isFinite)

theorem start_of_takesTime (w : WidgetId) (property : Property) (source target : TweenValue)
    {duration : Float32} (h : takesTime duration = true) :
    a.start w property source target duration =
      (none, { a with tracks := a.tracks.insert (w, property) ⟨source, target, 0, duration⟩ }) := by
  rw [takesTime, Bool.not_eq_true'] at h
  rw [start, h, if_neg Bool.false_ne_true]

theorem start_of_not_takesTime (w : WidgetId) (property : Property) (source target : TweenValue)
    {duration : Float32} (h : takesTime duration = false) :
    a.start w property source target duration =
      (some target, { a with tracks := a.tracks.erase (w, property) }) := by
  rw [takesTime, Bool.not_eq_false'] at h
  rw [start, if_pos h]

/-! ### Bounces -/

theorem waysBack_schedule (delay : Float32) (step : Step) :
    (a.schedule delay step).waysBack due w =
      a.waysBack due w + if step.isWayBack w then 1 else 0 := by
  simp only [waysBack, toDo, schedule, List.map_append, List.map_cons, List.map_nil,
    List.countP_append, List.countP_singleton, Nat.add_assoc]

/-- A bounce adds one way back. -/
theorem waysBack_beginBounce (current : Vec3) (half : Float32) :
    (a.beginBounce id current half).2.waysBack due w =
      a.waysBack due w + if id = w then 1 else 0 := by
  have h := waysBack_schedule
    { a with bounces := (a.beginBounce id current half).2.bounces } due w half (.settle id half)
  simp only [Step.isWayBack, decide_eq_true_eq] at h
  exact h

/-- A bounce keeps the scale at rest of the bounces that it overlaps with. -/
theorem get?_bounces_beginBounce (current : Vec3) (half : Float32) :
    (a.beginBounce id current half).2.bounces.get? w =
      if w = id then
        some ⟨((a.bounces.get? id).getD ⟨current, 0⟩).scale,
          ((a.bounces.get? id).getD ⟨current, 0⟩).pending + 1⟩
      else a.bounces.get? w := by
  simp only [beginBounce, schedule, Table.get?_insert]

@[simp] theorem settleBounce_steps : (a.settleBounce id).2.steps = a.steps := by
  rw [settleBounce]
  cases a.bounces.get? id <;> rfl

@[simp] theorem settleBounce_tracks : (a.settleBounce id).2.tracks = a.tracks := by
  rw [settleBounce]
  cases a.bounces.get? id <;> rfl

@[simp] theorem settleBounce_toDo : (a.settleBounce id).2.toDo due = a.toDo due := by
  rw [toDo, settleBounce_steps, toDo]

@[simp] theorem settleBounce_waysBack :
    (a.settleBounce id).2.waysBack due w = a.waysBack due w := by
  rw [waysBack, settleBounce_toDo, waysBack]

theorem settleBounce_fst : (a.settleBounce id).1 = (a.bounces.get? id).map BounceRest.scale := by
  rw [settleBounce]
  cases a.bounces.get? id <;> rfl

/-- A way back takes one off the number of those to come, and with the last of them the scale at
rest is forgotten. -/
theorem get?_bounces_settleBounce :
    (a.settleBounce id).2.bounces.get? w =
      if w = id then
        (a.bounces.get? id).bind fun rest =>
          if rest.pending - 1 = 0 then none else some ⟨rest.scale, rest.pending - 1⟩
      else a.bounces.get? w := by
  rw [settleBounce]
  cases hid : a.bounces.get? id with
  | none =>
    by_cases hw : w = id
    · rw [if_pos hw, hw, hid]
      rfl
    · rw [if_neg hw]
  | some rest =>
    by_cases hlast : rest.pending - 1 = 0
    · simp only [if_pos hlast, Table.get?_erase, Option.bind_some]
    · simp only [if_neg hlast, Table.get?_insert, Option.bind_some]

/-- A due way back counts until it is done. -/
theorem waysBack_cons (step : Step) :
    a.waysBack (step :: due) w = a.waysBack due w + if step.isWayBack w then 1 else 0 := by
  simp only [waysBack, toDo, List.cons_append, List.countP_cons]

/-! ### The end of what goes on with a widget -/

theorem toDo_cancelWidget_sublist : ((a.cancelWidget id).toDo due).Sublist (a.toDo due) :=
  (List.Sublist.refl due).append (List.filter_sublist.map TimedStep.step)

theorem waysBack_cancelWidget_of_ne (h : w ≠ id) :
    (a.cancelWidget id).waysBack due w = a.waysBack due w := by
  simp only [waysBack, toDo, cancelWidget, List.countP_append, List.countP_map,
    List.countP_filter]
  congr 2
  funext timed
  -- a way back of the one widget is not a step of the other
  cases hstep : timed.step with
  | settle id' duration =>
    by_cases hw : id' = w
    · subst hw
      simp [hstep, Step.isWayBack, Step.widget?, h]
    · simp [hstep, Step.isWayBack, hw]
  | tween | command => simp [hstep, Step.isWayBack]

theorem get?_tracks_cancelWidget_of_ne (h : w ≠ id) (property : Property) :
    (a.cancelWidget id).tracks.get? (w, property) = a.tracks.get? (w, property) := by
  simp only [cancelWidget, Table.get?_filterKeys, ne_eq, h, not_false_iff, decide_true, if_true]

theorem get?_tracks_cancelWidget (property : Property) :
    (a.cancelWidget id).tracks.get? (id, property) = none := by
  rw [cancelWidget, Table.get?_filterKeys, if_neg (by simp)]

theorem get?_bounces_cancelWidget :
    (a.cancelWidget id).bounces.get? w = if w = id then none else a.bounces.get? w :=
  Table.get?_erase _ _ _

/-! ### Time -/

/-- The animations after a number of seconds, with those that have come to their end. -/
def moved (dt : Float32) : Table (WidgetId × Property) Track :=
  ⟨a.tracks.entries.map fun entry =>
    (entry.1, entry.2.after (if dt.isFinite then notNegative dt else 0))⟩

theorem moved_distinct (h : a.tracks.Distinct) (dt : Float32) : (a.moved dt).Distinct :=
  h.mapValues fun track => track.after _

/-- Time does not change where an animation goes. -/
theorem target_moved (dt : Float32) (key : WidgetId × Property) :
    ((a.moved dt).get? key).map Track.target = (a.tracks.get? key).map Track.target := by
  rw [moved, Table.get?_mapValues fun track : Track => track.after _, Option.map_map]
  rfl

theorem advance_tracks (dt : Float32) :
    (a.advance dt).2.tracks = ⟨(a.moved dt).entries.filter fun entry => !entry.2.isFinished⟩ := rfl

theorem advance_updates (dt : Float32) :
    (a.advance dt).1.updates = (a.moved dt).entries.map fun entry =>
      ⟨entry.1.1, entry.1.2, entry.2.value, entry.2.isFinished⟩ := rfl

/-- Time makes steps due, and drops none. -/
theorem advance_toDo (dt : Float32) :
    ((a.advance dt).2.toDo (a.advance dt).1.due).Perm (a.toDo []) := by
  simp only [advance, toDo, List.nil_append, ← List.map_append]
  exact (((List.mergeSort_perm _ _).append_right _).trans (List.filter_append_perm _ a.steps)).map _

theorem advance_waysBack (dt : Float32) :
    (a.advance dt).2.waysBack (a.advance dt).1.due w = a.waysBack [] w :=
  (a.advance_toDo dt).countP_eq _

@[simp] theorem advance_bounces (dt : Float32) : (a.advance dt).2.bounces = a.bounces := rfl

end Animator

end Uiml
