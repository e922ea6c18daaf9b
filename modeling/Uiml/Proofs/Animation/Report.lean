import Uiml.Proofs.Animation.Delivery
import Uiml.Proofs.Number.Share

/-!
# What is reported of running animations

With every span of time that passes the animator reports each running animation once: where it is on
its way, and in the end that it has reached its target, whereupon it is gone. An animation is
running as long as nothing has happened since its start that replaces it, calls it off or brings it
to its end. So it is reported from its start on every time, and after its end no more.

## Main definitions

* `Track.IsRunning` — an animation has time left
* `Animator.Operation.begun?`, `Animator.Operation.endsTrack` — the animation that an operation
  starts, and whether it puts an end to one
* `Animator.Reports` — what a span of time does to the animations, and what is told of it
* `Animator.reportedAt`, `Animator.IsUnderWay` — what is told of a property at a point of a run, and
  whether an animation is still running there

## Main results

* `Animator.Orderly.after` — all animations have time left, at most one for each property
* `Animator.reports_advance` — each of them is reported once
* `Animator.map_course_stateAt` — which animations are running at a point of a run
* `Animator.reports_running` — an animation is reported as long as it is running, and only then
-/

namespace Uiml

/-! ### Animations with time left -/

/-- Where an animation comes from, where it goes and how long it takes. -/
def Track.course (track : Track) : TweenValue × TweenValue × Float32 :=
  (track.start, track.target, track.duration)

@[simp] theorem Track.course_after (track : Track) (seconds : Float32) :
    (track.after seconds).course = track.course := rfl

/-- The property that an update is about. -/
def TweenUpdate.key (u : TweenUpdate) : WidgetId × Property := (u.widget, u.property)

/-- What is told of an animation where it is. -/
def Track.update (key : WidgetId × Property) (track : Track) : TweenUpdate :=
  ⟨key.1, key.2, track.value, track.isFinished⟩

@[simp] theorem Track.key_update (key : WidgetId × Property) (track : Track) :
    (track.update key).key = key := rfl

/-- An animation takes a finite time, but some, of which there is some left. -/
structure Track.IsRunning (track : Track) : Prop where
  finite : track.duration.isFinite = true
  duration : ¬track.duration ≤ 0
  elapsed : ¬track.duration ≤ track.elapsed
  unsigned : Single.isUnsigned track.elapsed.toModel.unpack = true

namespace Track.IsRunning

variable {track : Track}

theorem pos (h : track.IsRunning) : 0 < track.duration := by
  have hnumber : track.duration.isNaN = false := Single.isNaN_of_isFinite h.finite
  by_contra hle
  exact h.duration ((Single.not_lt_iff rfl hnumber).mp hle)

/-- The share of the way that has been gone is not what comes of a division by nothing. -/
theorem isFinite_share (h : track.IsRunning) : (track.elapsed / track.duration).isFinite = true :=
  Single.isFinite_share h.unsigned h.pos h.elapsed

/-- An animation that has just been started has all of its time left. -/
theorem of_takesTime {duration : Float32} (h : Animator.takesTime duration = true)
    (source target : TweenValue) : IsRunning ⟨source, target, 0, duration⟩ := by
  simp only [Animator.takesTime, Bool.not_eq_true', Bool.or_eq_false_iff, decide_eq_false_iff_not,
    Bool.not_eq_false'] at h
  have hzero : Single.isUnsigned (0 : Float32).toModel.unpack = true := by decide
  exact ⟨h.2, h.1, h.1, hzero⟩

/-- As long as it is not at its end, an animation has time left. -/
theorem after (h : track.IsRunning) {seconds : Float32}
    (hseconds : Single.isUnsigned seconds.toModel.unpack = true)
    (hend : (track.after seconds).isFinished = false) : (track.after seconds).IsRunning :=
  ⟨h.finite, h.duration, of_decide_eq_false hend, Single.isUnsigned_sum h.unsigned hseconds⟩

end Track.IsRunning

theorem Track.value_of_isFinished {track : Track} (h : track.isFinished = true) :
    track.value = track.target := by
  rw [value, if_pos h]

theorem Track.value_of_not_isFinished {track : Track} (h : track.isFinished = false) :
    track.value = track.start.lerp track.target (track.elapsed / track.duration) := by
  rw [value, h, if_neg Bool.false_ne_true]

namespace Animator

variable {a : Animator} {key : WidgetId × Property} {operation : Operation} {dt : Float32}

/-- At most one animation runs for each property, and all that run have time left. -/
structure Orderly (a : Animator) : Prop where
  distinct : a.tracks.Distinct
  running : ∀ key track, a.tracks.get? key = some track → track.IsRunning

theorem Orderly.initial : Orderly {} where
  distinct := Table.distinct_empty
  running := fun _ _ h => nomatch h

/-! ### One operation -/

/-- The animation of a property that an operation starts. -/
def Operation.begun? (key : WidgetId × Property) : Operation → Option Track
  | .start widget property source target duration =>
    if (widget, property) = key ∧ takesTime duration = true then some ⟨source, target, 0, duration⟩
    else none
  | _ => none

/-- Whether an operation puts an end to the animation of a property: something else takes its place,
or it is called off. -/
def Operation.endsTrack (key : WidgetId × Property) : Operation → Bool
  | .start widget property _ _ _ | .cancel widget property => (widget, property) = key
  | .cancelWidget widget => widget = key.1
  | .clear => true
  | _ => false

/-- What an operation brings of the animation of a property. -/
def reported (a : Animator) (key : WidgetId × Property) (operation : Operation) :
    List TweenUpdate :=
  (a.outcome advance operation).updates.filter fun u => u.key = key

theorem isRunning_of_begun? {track : Track} (h : operation.begun? key = some track) :
    track.IsRunning := by
  cases operation with
  | start widget property source target duration =>
    rw [Operation.begun?] at h
    split at h
    · next hbegun =>
      cases h
      exact .of_takesTime hbegun.2 source target
    · cases h
  | _ => cases h

/-- Unless time passes, a property is left with the animation that is started for it, or with the
one that it has had if that is not ended. -/
theorem get?_tracks_after (a : Animator) (operation : Operation) (key : WidgetId × Property)
    (h : ∀ dt, operation ≠ .advance dt) :
    (a.after operation).tracks.get? key =
      (operation.begun? key).or (if operation.endsTrack key then none else a.tracks.get? key) := by
  cases operation with
  | advance dt => exact absurd rfl (h dt)
  | start widget property source target duration =>
    by_cases htime : takesTime duration = true
    · by_cases hkey : (widget, property) = key
      · simp [after, afterBy, start_of_takesTime, Table.get?_insert, Operation.begun?, htime, hkey]
      · simp [after, afterBy, start_of_takesTime, Table.get?_insert, Operation.begun?,
          Operation.endsTrack, htime, hkey, Ne.symm hkey]
    · rw [Bool.not_eq_true] at htime
      by_cases hkey : (widget, property) = key
      · simp [after, afterBy, start_of_not_takesTime, Table.get?_erase, Operation.begun?,
          Operation.endsTrack, htime, hkey]
      · simp [after, afterBy, start_of_not_takesTime, Table.get?_erase, Operation.begun?,
          Operation.endsTrack, htime, hkey, Ne.symm hkey]
  | cancel widget property =>
    simp [after, afterBy, cancel, Table.get?_erase, Operation.begun?, Operation.endsTrack,
      eq_comm (a := key)]
  | cancelWidget widget =>
    by_cases hwidget : widget = key.1
    · simp [after, afterBy, cancelWidget, Table.get?_filterKeys, Operation.begun?,
        Operation.endsTrack, hwidget]
    · simp [after, afterBy, cancelWidget, Table.get?_filterKeys, Operation.begun?,
        Operation.endsTrack, hwidget, Ne.symm hwidget]
  | clear => simp [after, afterBy, clear, Operation.begun?, Operation.endsTrack, Table.get?]
  | settleBounce widget => simp [after, afterBy, Operation.begun?, Operation.endsTrack]
  | schedule | beginBounce => rfl

theorem distinct_after (h : a.tracks.Distinct) (operation : Operation) :
    (a.after operation).tracks.Distinct := by
  cases operation with
  | start => exact start_distinct _ _ _ _ _ _ h
  | settleBounce widget =>
    simp only [after, afterBy, settleBounce_tracks]
    exact h
  | cancel => exact h.erase _
  | cancelWidget => exact h.filterKeys _
  | clear => exact Table.distinct_empty
  | advance dt => exact (a.moved_distinct h dt).filter _
  | schedule | beginBounce => exact h

/-! ### Time -/

theorem get?_moved (a : Animator) (dt : Float32) (key : WidgetId × Property) :
    (a.moved dt).get? key = (a.tracks.get? key).map fun track =>
      track.after (if dt.isFinite then notNegative dt else 0) :=
  Table.get?_mapValues fun track : Track => track.after _

/-- A number that is negative or not finite is no span of time. -/
theorem seconds_eq_zero (h : dt.isFinite = false ∨ dt < 0) :
    (if dt.isFinite then notNegative dt else 0) = 0 := by
  rcases h with hinfinite | hnegative
  · rw [hinfinite, if_neg Bool.false_ne_true]
  · have hle : ¬0 < dt :=
      (Single.not_lt_iff rfl (Single.isNaN_of_lt hnegative).1).mpr (Single.le_of_lt hnegative)
    rw [notNegative, if_neg hle, ite_self]

/-- Of the animations that time has moved, those that are not at their end go on. -/
theorem get?_tracks_advance (h : a.tracks.Distinct) (dt : Float32) (key : WidgetId × Property) :
    (a.advance dt).2.tracks.get? key =
      ((a.moved dt).get? key).filter fun track => !track.isFinished := by
  rw [advance_tracks, (a.moved_distinct h dt).get?_filter]

/-- Of each property what is told is what its animation shows. -/
theorem reported_advance (h : a.tracks.Distinct) (dt : Float32) (key : WidgetId × Property) :
    a.reported key (.advance dt) = (((a.moved dt).get? key).map (Track.update key)).toList := by
  have hupdates : (a.advance dt).1.updates.filter (fun u => u.key = key) =
      ((a.moved dt).entries.filter fun entry => entry.1 = key).map fun entry =>
        entry.2.update entry.1 := by
    rw [advance_updates, List.filter_map]
    rfl
  rw [reported, outcome, hupdates, (a.moved_distinct h dt).filter_key]
  cases (a.moved dt).get? key <;> rfl

theorem exists_of_mem_updates (h : a.tracks.Distinct) {u : TweenUpdate}
    (hu : u ∈ (a.advance dt).1.updates) :
    ∃ key track, (a.moved dt).get? key = some track ∧ track.update key = u := by
  obtain ⟨⟨key, track⟩, hentry, rfl⟩ := List.mem_map.mp hu
  exact ⟨key, track, (a.moved_distinct h dt).get?_eq_some_iff.mpr hentry, rfl⟩

theorem Orderly.after (h : a.Orderly) (operation : Operation) : (a.after operation).Orderly where
  distinct := distinct_after h.distinct operation
  running := by
    intro key track htrack
    by_cases htime : ∃ dt, operation = .advance dt
    · obtain ⟨dt, rfl⟩ := htime
      have hmoved := (get?_tracks_advance h.distinct dt key).symm.trans htrack
      obtain ⟨hmoved, hend⟩ := Option.filter_eq_some_iff.mp hmoved
      rw [get?_moved] at hmoved
      obtain ⟨before, hbefore, rfl⟩ := Option.map_eq_some_iff.mp hmoved
      exact (h.running key before hbefore).after (isUnsigned_seconds dt) (by simpa using hend)
    · rw [get?_tracks_after a operation key (not_exists.mp htime), Option.or_eq_some_iff] at htrack
      rcases htrack with hbegun | ⟨-, hkept⟩
      · exact isRunning_of_begun? hbegun
      · split at hkept
        · cases hkept
        · exact h.running key track hkept

/-- What a span of time does to the animations is what is told of them: each of them once, those
that have come to their end with their targets, and the others with where they are on their way. -/
structure Reports (a : Animator) (dt : Float32) : Prop where
  once : (a.advance dt).1.updates.map TweenUpdate.key = a.tracks.entries.map Prod.fst
  finished : ∀ u ∈ (a.advance dt).1.updates, u.finished = true →
    (a.advance dt).2.tracks.get? u.key = none ∧
      (a.tracks.get? u.key).map Track.target = some u.value
  unfinished : ∀ u ∈ (a.advance dt).1.updates, u.finished = false →
    ∃ track, (a.advance dt).2.tracks.get? u.key = some track ∧
      (a.tracks.get? u.key).map Track.course = some track.course ∧
      u.value = track.start.lerp track.target (track.elapsed / track.duration) ∧
      (track.elapsed / track.duration).isFinite = true
  absent : ∀ key, a.tracks.get? key = none → (a.advance dt).2.tracks.get? key = none
  still : dt.isFinite = false ∨ dt < 0 → a.advance dt = a.advance 0

theorem Orderly.reports (h : a.Orderly) (dt : Float32) : a.Reports dt where
  once := by
    rw [advance_updates, moved, List.map_map, List.map_map]
    rfl
  finished := by
    intro u hu hfinished
    obtain ⟨key, track, hmoved, rfl⟩ := exists_of_mem_updates h.distinct hu
    rw [Track.key_update]
    have hend : track.isFinished = true := hfinished
    refine ⟨?_, ?_⟩
    · rw [get?_tracks_advance h.distinct, hmoved, Option.filter_some, hend]
      rfl
    · rw [← a.target_moved dt, hmoved]
      exact congrArg some (Track.value_of_isFinished hend).symm
  unfinished := by
    intro u hu hunfinished
    obtain ⟨key, track, hmoved, rfl⟩ := exists_of_mem_updates h.distinct hu
    rw [Track.key_update]
    have hend : track.isFinished = false := hunfinished
    have hafter : (a.advance dt).2.tracks.get? key = some track := by
      rw [get?_tracks_advance h.distinct, hmoved, Option.filter_some, hend]
      rfl
    have hrunning := (h.after (.advance dt)).running _ _ hafter
    rw [get?_moved] at hmoved
    obtain ⟨before, hbefore, rfl⟩ := Option.map_eq_some_iff.mp hmoved
    refine ⟨_, hafter, ?_, Track.value_of_not_isFinished hend, hrunning.isFinite_share⟩
    rw [hbefore]
    rfl
  absent := by
    intro key hnone
    rw [get?_tracks_advance h.distinct, get?_moved, hnone]
    rfl
  still := by
    intro hstill
    have hnone : (if (0 : Float32).isFinite then notNegative 0 else 0) = 0 := by decide
    simp only [advance, seconds_eq_zero hstill, hnone]

theorem reported_of_ne_advance (a : Animator) (key : WidgetId × Property)
    (h : ∀ dt, operation ≠ .advance dt) : a.reported key operation = [] := by
  cases operation with
  | advance dt => exact absurd rfl (h dt)
  | _ => rfl

/-- Whether an operation brings the animation of a property to its end. -/
def finishes (a : Animator) (key : WidgetId × Property) (operation : Operation) : Bool :=
  (a.reported key operation).any TweenUpdate.finished

theorem endsTrack_of_begun? {track : Track} (h : operation.begun? key = some track) :
    operation.endsTrack key = true := by
  cases operation with
  | start widget property source target duration =>
    rw [Operation.begun?] at h
    split at h
    · next hbegun => exact decide_eq_true hbegun.1
    · cases h
  | _ => cases h

/-- A property is left with the animation that an operation starts for it, or with the one that it
has had, if nothing ends that and it has not come to its end. -/
theorem map_course_after (h : a.tracks.Distinct) (operation : Operation)
    (key : WidgetId × Property) (course : TweenValue × TweenValue × Float32) :
    ((a.after operation).tracks.get? key).map Track.course = some course ↔
      (operation.begun? key).map Track.course = some course ∨
        (a.tracks.get? key).map Track.course = some course ∧ operation.endsTrack key = false ∧
          a.finishes key operation = false := by
  by_cases htime : ∃ dt, operation = .advance dt
  · obtain ⟨dt, rfl⟩ := htime
    have hafter : (a.after (.advance dt)).tracks.get? key =
        ((a.moved dt).get? key).filter fun track => !track.isFinished :=
      get?_tracks_advance h dt key
    have hcourse : (a.tracks.get? key).map Track.course =
        ((a.moved dt).get? key).map Track.course := by
      rw [get?_moved, Option.map_map]
      rfl
    rw [hafter, hcourse, finishes, reported_advance h]
    cases (a.moved dt).get? key with
    | none => simp [Operation.begun?]
    | some track =>
      cases hend : track.isFinished <;>
        simp [Operation.begun?, Operation.endsTrack, Track.update, hend]
  · rw [get?_tracks_after a operation key (not_exists.mp htime), finishes,
      reported_of_ne_advance a key (not_exists.mp htime)]
    cases hbegun : operation.begun? key with
    | none => cases operation.endsTrack key <;> simp
    | some track => simp [endsTrack_of_begun? hbegun]

/-! ### Runs -/

variable {operations : List Operation} {i j k : ℕ}

/-- The animation of a property that an operation of a run starts. -/
def begunAt? (operations : List Operation) (key : WidgetId × Property) (i : ℕ) : Option Track :=
  operations[i]?.bind (Operation.begun? key)

/-- Whether an operation of a run replaces the animation of a property, or calls it off. -/
def endsAt (operations : List Operation) (key : WidgetId × Property) (k : ℕ) : Bool :=
  operations[k]?.any (Operation.endsTrack key)

/-- What an operation of a run tells of the animation of a property. -/
def reportedAt (operations : List Operation) (key : WidgetId × Property) (k : ℕ) :
    List TweenUpdate :=
  operations[k]?.elim [] ((stateAt operations k).reported key)

/-- Whether an operation of a run tells that the animation of a property has come to its end. -/
def finishesAt (operations : List Operation) (key : WidgetId × Property) (k : ℕ) : Bool :=
  (reportedAt operations key k).any TweenUpdate.finished

/-- From where an animation is started in a run up to another point, nothing ends it, and it does
not come to its end. -/
def IsUnderWay (operations : List Operation) (key : WidgetId × Property) (i k : ℕ) : Prop :=
  ∀ j, i < j → j < k → endsAt operations key j = false ∧ finishesAt operations key j = false

theorem orderly_stateAt (operations : List Operation) (k : ℕ) :
    (stateAt operations k).Orderly := by
  induction k with
  | zero => exact .initial
  | succ k ih =>
    cases hoperation : operations[k]? with
    | none => rwa [stateAt_succ_of_none hoperation]
    | some operation =>
      rw [stateAt_succ hoperation]
      exact ih.after operation

/-- What an operation of a run leaves of the animation of a property. -/
theorem map_course_stateAt_succ (key : WidgetId × Property)
    (course : TweenValue × TweenValue × Float32) :
    ((stateAt operations (k + 1)).tracks.get? key).map Track.course = some course ↔
      (begunAt? operations key k).map Track.course = some course ∨
        ((stateAt operations k).tracks.get? key).map Track.course = some course ∧
          endsAt operations key k = false ∧ finishesAt operations key k = false := by
  cases hoperation : operations[k]? with
  | none =>
    simp [stateAt_succ_of_none hoperation, begunAt?, endsAt, finishesAt, reportedAt, hoperation]
  | some operation =>
    rw [stateAt_succ hoperation, map_course_after (orderly_stateAt operations k).distinct]
    simp [begunAt?, endsAt, finishesAt, reportedAt, finishes, hoperation]

/-- The animation that is running at a point of a run has been started there, and is still under
way. -/
theorem map_course_stateAt (key : WidgetId × Property) (k : ℕ)
    (course : TweenValue × TweenValue × Float32) :
    ((stateAt operations k).tracks.get? key).map Track.course = some course ↔
      ∃ i < k, (begunAt? operations key i).map Track.course = some course ∧
        IsUnderWay operations key i k := by
  induction k with
  | zero =>
    constructor
    · exact nofun
    · rintro ⟨i, hi, -⟩
      exact absurd hi (Nat.not_lt_zero i)
  | succ k ih =>
    rw [map_course_stateAt_succ, ih]
    constructor
    · rintro (hbegun | ⟨⟨i, hi, hbegun, hway⟩, hlast⟩)
      · exact ⟨k, Nat.lt_succ_self k, hbegun, fun j hkj hjk => by omega⟩
      · exact ⟨i, Nat.lt_succ_of_lt hi, hbegun, (forall_between_succ hi).mpr ⟨hway, hlast⟩⟩
    · rintro ⟨i, hi, hbegun, hway⟩
      rcases Nat.lt_succ_iff_lt_or_eq.mp hi with hlt | rfl
      · obtain ⟨hway, hlast⟩ := (forall_between_succ hlt).mp hway
        exact .inr ⟨⟨i, hlt, hbegun, hway⟩, hlast⟩
      · exact .inl hbegun

/-- An animation that is running is reported when time passes, once. -/
theorem reportedAt_of_isUnderWay {key : WidgetId × Property} {begun : Track}
    (hoperation : operations[k]? = some (.advance dt)) (hi : i < k)
    (hbegun : begunAt? operations key i = some begun) (hway : IsUnderWay operations key i k) :
    ∃ u, reportedAt operations key k = [u] ∧ (u.finished = true → u.value = begun.target) := by
  have hcourse := (map_course_stateAt key k begun.course).mpr ⟨i, hi, by rw [hbegun]; rfl, hway⟩
  obtain ⟨track, htrack, hsame⟩ := Option.map_eq_some_iff.mp hcourse
  have hreported : reportedAt operations key k =
      (stateAt operations k).reported key (.advance dt) := by
    rw [reportedAt, hoperation]
    rfl
  rw [hreported, reported_advance (orderly_stateAt operations k).distinct, get?_moved, htrack]
  refine ⟨_, rfl, fun hend => ?_⟩
  have htarget : track.target = begun.target := congrArg (fun course => course.2.1) hsame
  exact (Track.value_of_isFinished hend).trans htarget

/-- Only an animation that is running is reported. -/
theorem exists_of_reportedAt {key : WidgetId × Property} (h : reportedAt operations key k ≠ []) :
    ∃ i < k, (begunAt? operations key i).isSome = true ∧ IsUnderWay operations key i k := by
  cases hoperation : operations[k]? with
  | none =>
    rw [reportedAt, hoperation] at h
    exact absurd rfl h
  | some operation =>
    rw [reportedAt, hoperation, Option.elim_some] at h
    obtain ⟨dt, rfl⟩ : ∃ dt, operation = .advance dt := by
      by_contra htime
      exact h (reported_of_ne_advance _ key (not_exists.mp htime))
    rw [reported_advance (orderly_stateAt operations k).distinct, get?_moved] at h
    cases htrack : (stateAt operations k).tracks.get? key with
    | none =>
      rw [htrack] at h
      exact absurd rfl h
    | some track =>
      obtain ⟨i, hi, hbegun, hway⟩ :=
        (map_course_stateAt key k track.course).mp (by rw [htrack]; rfl)
      exact ⟨i, hi, by rw [← Option.isSome_map, hbegun]; rfl, hway⟩

/-- After its end an animation is reported no more, unless it is started again. -/
theorem reportedAt_of_finishesAt {key : WidgetId × Property} (hjk : j < k)
    (hfinishes : finishesAt operations key j = true)
    (hnone : ∀ i, j < i → i < k → begunAt? operations key i = none) :
    reportedAt operations key k = [] := by
  by_contra hreported
  obtain ⟨i, hi, hbegun, hway⟩ := exists_of_reportedAt hreported
  rcases lt_trichotomy i j with hlt | rfl | hgt
  · rw [(hway j hlt hjk).2] at hfinishes
    cases hfinishes
  · -- an operation does not both start an animation and let time pass
    obtain ⟨begun, hbegun⟩ := Option.isSome_iff_exists.mp hbegun
    obtain ⟨operation, hoperation, hstart⟩ := Option.bind_eq_some_iff.mp hbegun
    rw [finishesAt, reportedAt, hoperation, Option.elim_some, reported_of_ne_advance] at hfinishes
    · cases hfinishes
    · rintro dt rfl
      cases hstart
  · rw [hnone i hgt hi] at hbegun
    cases hbegun

/-- All animations that are running have a finite time that is not zero, and some of it left; there
is at most one for each property. Whatever span of time passes, each is reported once: with its
target if it has come to its end, and then it is gone, and else with where it is on its way. So an
animation that has been started is reported every time until it is replaced or called off, or it has
come to its end, and after that not until the next start. -/
theorem reports_running (operations : List Operation) :
    (∀ k, (stateAt operations k).Orderly) ∧
    (∀ k dt, (stateAt operations k).Reports dt) ∧
    (∀ key i k begun dt, i < k → begunAt? operations key i = some begun →
      IsUnderWay operations key i k → operations[k]? = some (.advance dt) →
        ∃ u, reportedAt operations key k = [u] ∧ (u.finished = true → u.value = begun.target)) ∧
    (∀ key k, reportedAt operations key k ≠ [] →
      ∃ i < k, (begunAt? operations key i).isSome = true ∧ IsUnderWay operations key i k) ∧
    ∀ key j k, j < k → finishesAt operations key j = true →
      (∀ i, j < i → i < k → begunAt? operations key i = none) →
        reportedAt operations key k = [] := by
  refine ⟨orderly_stateAt operations, fun k dt => (orderly_stateAt operations k).reports dt, ?_,
    fun _ _ => exists_of_reportedAt, fun _ _ _ => reportedAt_of_finishesAt⟩
  intro key i k begun dt hi hbegun hway hoperation
  exact reportedAt_of_isUnderWay hoperation hi hbegun hway

-- a negative span of time moves nothing, but reports all the same
example :
    let key : WidgetId × Property := (⟨3⟩, .alpha)
    let operations : List Operation :=
      [.start ⟨3⟩ .alpha (.scalar 0) (.scalar 1) 2, .advance 0.5, .advance (-1), .advance 5,
        .advance 1]
    (List.range 5).map (fun k => (reportedAt operations key k).map fun u => (u.value, u.finished)) =
      [[], [(.scalar 0.25, false)], [(.scalar 0.25, false)], [(.scalar 1, true)], []] := by
  decide +kernel

end Animator

end Uiml
