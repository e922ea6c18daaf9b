import Uiml.Proofs.Animation.Tidy
import Uiml.Proofs.Canvas.Property

/-!
# Where a property is going

A property of a widget that has been given a target either has it for its value and is at rest, or
is being animated to it. So it goes on, whatever time passes and whatever is done to other
properties and to other widgets.

## Main definitions

* `Stage.Heads` — a property has a value, or is being animated to it
* `Stage.SameCourse` — two stages do not differ in a property, nor in its animation

## Main results

* `Stage.animate_heads` — a property that is animated to a target heads for it
* `Stage.animate_sameCourse`, `Stage.ChangesOf.sameCourse` — others stay on their courses
* `Session.moved_heads` — time keeps a property on its course
-/

namespace Uiml

variable {w id : WidgetId} {property other : Property} {target : TweenValue}
  {stage stage' : Stage}

namespace Stage

/-- A property of a widget has a value and stays there, or is being animated to it. -/
inductive Heads (w : WidgetId) (property : Property) (target : TweenValue) (stage : Stage) : Prop
  | there (hvalue : stage.canvas.property? w property = some target)
      (htrack : stage.animator.tracks.get? (w, property) = none)
  | underWay (hlive : (stage.canvas.widget? w).isSome) (track : Track)
      (htrack : stage.animator.tracks.get? (w, property) = some track)
      (htarget : track.target = target)

/-- A property heads for something only as long as its widget is there. -/
theorem Heads.live (h : stage.Heads w property target) : (stage.canvas.widget? w).isSome := by
  cases h with
  | there hvalue => exact Canvas.live_of_property? hvalue
  | underWay hlive => exact hlive

/-- A property that is not animated has the value that it heads for. -/
theorem Heads.value (h : stage.Heads w property target)
    (hstill : stage.animator.isAnimating w property = false) :
    stage.canvas.property? w property = some target := by
  cases h with
  | there hvalue => exact hvalue
  | underWay _ track htrack =>
    have hget : stage.animator.tracks.get? (w, property) = none :=
      Table.get?_eq_none_iff.mpr hstill
    rw [hget] at htrack
    cases htrack

/-- Two stages do not differ in a property of a widget, nor in the animation of it. -/
structure SameCourse (w : WidgetId) (property : Property) (stage stage' : Stage) : Prop where
  value : stage'.canvas.property? w property = stage.canvas.property? w property
  track : stage'.animator.tracks.get? (w, property) = stage.animator.tracks.get? (w, property)
  live : stage.canvas.KeepsWidgets stage'.canvas

theorem SameCourse.refl (w : WidgetId) (property : Property) (stage : Stage) :
    SameCourse w property stage stage := ⟨rfl, rfl, fun _ hj => hj⟩

theorem SameCourse.trans {stage'' : Stage} (h : SameCourse w property stage stage')
    (h' : SameCourse w property stage' stage'') : SameCourse w property stage stage'' :=
  ⟨h'.value.trans h.value, h'.track.trans h.track, h.live.trans h'.live⟩

theorem Heads.congr (h : stage.Heads w property target)
    (hsame : SameCourse w property stage stage') : stage'.Heads w property target := by
  cases h with
  | there hvalue htrack => exact .there (hsame.value.trans hvalue) (hsame.track.trans htrack)
  | underWay hlive track htrack htarget =>
    exact .underWay (hsame.live w hlive) track (hsame.track.trans htrack) htarget

/-! ### What does not touch a property -/

theorem ChangesOf.keepsWidgets (h : ChangesOf id stage stage') :
    stage.canvas.KeepsWidgets stage'.canvas :=
  h.onCanvas.changes.keepsSlots.keepsWidgets

/-- What is done to one widget does not touch the properties of another. -/
theorem Change.sameCourse (h : Change id stage stage') (hne : w ≠ id) :
    SameCourse w property stage stage' := by
  have hlive : stage.canvas.KeepsWidgets stage'.canvas := ChangesOf.keepsWidgets (.single h)
  have hkey : ∀ other, (w, property) ≠ (id, other) := fun _ he => hne (congrArg Prod.fst he)
  cases h with
  | widget hchange => exact ⟨hchange.property?_of_ne hne, rfl, hlive⟩
  | start other source target duration =>
    exact ⟨rfl, Animator.get?_tracks_start_of_ne _ _ _ _ _ _ (hkey other), hlive⟩
  | cancel other =>
    refine ⟨rfl, ?_, hlive⟩
    simp only [Animator.cancel, Table.get?_erase, if_neg (hkey other)]
  | cancelWidget => exact ⟨rfl, Animator.get?_tracks_cancelWidget_of_ne _ _ _ hne property, hlive⟩
  | beginBounce current half => exact ⟨rfl, rfl, hlive⟩

theorem ChangesOf.sameCourse (h : ChangesOf id stage stage') (hne : w ≠ id) :
    SameCourse w property stage stage' :=
  reflTransGen_preserves (p := SameCourse w property stage)
    (fun hchange hsame => hsame.trans (hchange.sameCourse hne)) h (.refl w property stage)

/-- An animation of another property, or of another widget, does not touch a property. -/
theorem animate_sameCourse (hne : (id, other) ≠ (w, property)) (target : TweenValue)
    (duration : Float32) :
    SameCourse w property stage (stage.animate id other target duration).value := by
  rw [animate]
  cases (stage.widget? id).bind fun h => h.property? other with
  | none => exact .refl w property stage
  | some source =>
    let started : Stage :=
      ⟨stage.canvas, (stage.animator.start id other source target duration).2⟩
    have hstart : SameCourse w property stage started :=
      ⟨rfl, Animator.get?_tracks_start_of_ne _ _ _ _ _ _ hne.symm, fun _ hj => hj⟩
    simp only
    split
    · exact hstart
    · exact hstart.trans ⟨Canvas.property?_applyValue_of_ne hne _, rfl,
        (started.applyValue_changesOf id other _).keepsWidgets⟩

theorem animate_sameCourse_of_ne (hne : property ≠ other) (target : TweenValue)
    (duration : Float32) :
    SameCourse w property stage (stage.animate w other target duration).value :=
  animate_sameCourse (fun he => hne (congrArg Prod.snd he).symm) target duration

/-! ### What gives a property its target -/

theorem isSome_property? (hsuits : target.Suits property)
    (hlive : (stage.canvas.widget? w).isSome) :
    (stage.canvas.property? w property).isSome := by
  obtain ⟨h, hw⟩ := Option.isSome_iff_exists.mp hlive
  rw [Canvas.property?, hw]
  cases hsuits <;> rfl

/-- A property that is animated to a target has it at once, or is on its way there. -/
theorem animate_heads (hsuits : target.Suits property) (hlive : (stage.canvas.widget? w).isSome)
    (duration : Float32) :
    (stage.animate w property target duration).value.Heads w property target := by
  obtain ⟨source, hsource⟩ := Option.isSome_iff_exists.mp (isSome_property? hsuits hlive)
  have hbind : ((stage.widget? w).bind fun h => h.property? property) = some source := hsource
  rw [animate, hbind]
  simp only
  rcases stage.animator.start_cases w property source target duration with
    ⟨hnow, htrack⟩ | ⟨hnow, htrack⟩
  · rw [hnow]
    exact .there (Canvas.property?_applyValue hsuits hlive) htrack
  · rw [hnow]
    exact .underWay hlive _ htrack rfl

end Stage

/-! ### Time -/

namespace Session

variable {s : Session}

theorem moved_animator (dt : Float32) :
    (s.moved dt).animator = (s.stage.animator.advance dt).2 :=
  applyUpdates_animator _ _

theorem moved_keepsWidgets (dt : Float32) :
    s.stage.canvas.KeepsWidgets (s.moved dt).canvas := by
  have hchanges : Canvas.Changes s.stage.canvas (s.moved dt).canvas :=
    applyUpdates_changes ⟨s.stage.canvas, (s.stage.animator.advance dt).2⟩ _
  exact hchanges.keepsSlots.keepsWidgets

/-- An animation that time has moved is listed with the value that it shows, once. -/
theorem updates_nodup {a : Animator} (h : a.tracks.Distinct) (dt : Float32) :
    ((a.advance dt).1.updates.map fun u => (u.widget, u.property)).Nodup := by
  rw [Animator.advance_updates, List.map_map]
  exact a.moved_distinct h dt

/-- A property that is not animated is not in the list. -/
theorem updates_of_get?_eq_none {a : Animator} (h : a.tracks.Distinct)
    (hnone : a.tracks.get? (w, property) = none) (dt : Float32) :
    ∀ u ∈ (a.advance dt).1.updates, (u.widget, u.property) ≠ (w, property) := by
  have hmoved : (a.moved dt).get? (w, property) = none := by
    have htarget := a.target_moved dt (w, property)
    rwa [hnone, Option.map_none, Option.map_eq_none_iff] at htarget
  intro u hu he
  rw [Animator.advance_updates] at hu
  obtain ⟨⟨key, track⟩, hentry, rfl⟩ := List.mem_map.mp hu
  have hget := (a.moved_distinct h dt).get?_eq_some_iff.mpr hentry
  have hkey : key = (w, property) := he
  rw [hkey, hmoved] at hget
  cases hget

/-- Every animation that time has moved is in the list. -/
theorem mem_updates {a : Animator} {track : Track} {dt : Float32} (h : a.tracks.Distinct)
    (hget : (a.moved dt).get? (w, property) = some track) :
    ⟨w, property, track.value, track.isFinished⟩ ∈ (a.advance dt).1.updates := by
  rw [Animator.advance_updates]
  exact List.mem_map.mpr
    ⟨((w, property), track), (a.moved_distinct h dt).get?_eq_some_iff.mp hget, rfl⟩

/-- The last update of an animation is its target. -/
theorem mem_updates_of_isFinished {a : Animator} {track : Track} {dt : Float32}
    (h : a.tracks.Distinct) (hget : (a.moved dt).get? (w, property) = some track)
    (hfinished : track.isFinished = true) :
    ⟨w, property, track.target, true⟩ ∈ (a.advance dt).1.updates := by
  have hmem := mem_updates h hget
  rwa [Track.value, hfinished, if_pos rfl] at hmem

/-- An animation that time has moved, and has not brought to its end, was there before. -/
theorem exists_of_track_moved {dt : Float32} {key : WidgetId × Property} {track : Track}
    (h : s.stage.animator.tracks.Distinct)
    (htrack : (s.moved dt).animator.tracks.get? key = some track) :
    ∃ before seconds, s.stage.animator.tracks.get? key = some before ∧
      before.after seconds = track ∧ (s.stage.animator.moved dt).get? key = some track ∧
      track.isFinished = false := by
  rw [moved_animator, Animator.advance_tracks, (s.stage.animator.moved_distinct h dt).get?_filter]
    at htrack
  obtain ⟨hmoved, hunfinished⟩ := Option.filter_eq_some_iff.mp htrack
  rw [Bool.not_eq_true'] at hunfinished
  have hbefore := hmoved
  rw [Animator.moved, Table.get?_mapValues fun track : Track => track.after _] at hbefore
  obtain ⟨before, hbefore, hafter⟩ := Option.map_eq_some_iff.mp hbefore
  exact ⟨before, _, hbefore, hafter, hmoved, hunfinished⟩

/-- Time brings a property nearer to where it goes: an animation that is not at its end goes on, and
one that is leaves the target behind. -/
theorem moved_heads (h : s.stage.Heads w property target) (hsuits : target.Suits property)
    (htidy : s.stage.animator.Tidy []) (dt : Float32) :
    (s.moved dt).Heads w property target := by
  have hgoal := s.stage.animator.target_moved dt (w, property)
  have htracks : (s.moved dt).animator.tracks.get? (w, property) =
      ((s.stage.animator.moved dt).get? (w, property)).filter fun track => !track.isFinished := by
    rw [moved_animator, Animator.advance_tracks,
      (s.stage.animator.moved_distinct htidy.distinct dt).get?_filter]
  cases h with
  | there hvalue htrack =>
    have hnone := updates_of_get?_eq_none htidy.distinct htrack dt
    rw [htrack, Option.map_none, Option.map_eq_none_iff] at hgoal
    rw [hgoal, Option.filter_none] at htracks
    exact .there ((property?_applyUpdates_of_ne hnone).trans hvalue) htracks
  | underWay hlive track htrack htarget =>
    rw [htrack, Option.map_some, htarget] at hgoal
    obtain ⟨track', hget, rfl⟩ := Option.map_eq_some_iff.mp hgoal
    rw [hget, Option.filter_some] at htracks
    by_cases hfinished : track'.isFinished = true
    · have hupdate := mem_updates_of_isFinished htidy.distinct hget hfinished
      rw [hfinished, Bool.not_true, if_neg Bool.false_ne_true] at htracks
      exact .there (property?_applyUpdates (updates_nodup htidy.distinct dt) hupdate hsuits hlive)
        htracks
    · rw [Bool.not_eq_true] at hfinished
      rw [hfinished, Bool.not_false, if_pos rfl] at htracks
      exact .underWay (moved_keepsWidgets dt w hlive) track' htracks rfl

end Session

end Uiml
