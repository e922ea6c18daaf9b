import Uiml.Proofs.Animation.Heading
import Uiml.Proofs.Animation.Unseen
import Uiml.Proofs.Canvas.Patch

/-!
# Ticks and the order of animations

The running animations are kept in no particular order, and time moves them one after the other. The
order in which this is done does not show: neither in what the session is after the time, nor in
anything that is done later.

## Main definitions

* `Session.tickInOrder` — time passes, with the new values given in the order of a list
* `Animator.Rearranged` — the same animations in another order
* `Session.withTracks` — a session with its animations arranged in another way

## Main results

* `Session.applyUpdates_perm` — new values may be given in any order
* `Session.Reachable.tick_unordered` — the order of the animations does not show
-/

namespace Uiml

/-! ### The order of values -/

namespace Session

/-- New values of different properties may be given in any order. -/
theorem applyUpdates_perm {stage : Stage} {updates updates' : List TweenUpdate}
    (hc : stage.canvas.Faithful) (hkeys : (updates.map fun u => (u.widget, u.property)).Nodup)
    (hperm : updates.Perm updates') :
    (applyUpdates stage updates).value = (applyUpdates stage updates').value := by
  induction hperm generalizing stage with
  | nil => rfl
  | cons u _ ih =>
    obtain ⟨-, hkeys⟩ := List.nodup_cons.mp hkeys
    rw [applyUpdates_cons, applyUpdates_cons]
    refine ih ?_ hkeys
    exact reflTransGen_preserves (fun hchange hc => hc.change hchange)
      (stage.canvas.applyValue_changesOf u.widget u.property u.value) hc
  | swap u v rest =>
    -- the values of the first two are of different properties
    have hne : (v.widget, v.property) ≠ (u.widget, u.property) := fun he => by
      simp [he] at hkeys
    rw [applyUpdates_cons, applyUpdates_cons, applyUpdates_cons, applyUpdates_cons]
    congr 2
    exact congrArg (fun canvas => (⟨canvas, stage.animator⟩ : Stage)) (hc.applyValue_comm hne)
  | trans hperm _ ih ih' =>
    have hkeys' := (hperm.map fun u => (u.widget, u.property)).nodup_iff.mp hkeys
    exact (ih hc hkeys).trans (ih' hc hkeys')

end Session

/-! ### The order of animations -/

namespace Animator

/-- Two animators have the same animations, of which one lists them in another order. -/
structure Rearranged (a b : Animator) : Prop where
  rest : b = { a with tracks := b.tracks }
  perm : b.tracks.entries.Perm a.tracks.entries
  distinct : a.tracks.Distinct

variable {a b : Animator}

theorem Rearranged.eq_mk (h : a.Rearranged b) :
    ∃ tracks : Table (WidgetId × Property) Track, tracks.entries.Perm a.tracks.entries ∧
      b = { a with tracks } := ⟨b.tracks, h.perm, h.rest⟩

/-- The order of the animations cannot be seen. -/
theorem unseen_rearranged : Unseen Rearranged where
  start := by
    intro a b h id property source target duration
    obtain ⟨tracks, hperm, rfl⟩ := h.eq_mk
    rw [start, start]
    split
    · exact ⟨rfl, hperm.filter _, h.distinct.erase _⟩
    · exact ⟨rfl, h.distinct.perm_insert hperm _ _, h.distinct.insert _ _⟩
  cancel := by
    intro a b h id property
    obtain ⟨tracks, hperm, rfl⟩ := h.eq_mk
    exact ⟨rfl, hperm.filter _, h.distinct.erase _⟩
  cancelWidget := by
    intro a b h id
    obtain ⟨tracks, hperm, rfl⟩ := h.eq_mk
    exact ⟨rfl, hperm.filter _, h.distinct.filterKeys _⟩
  beginBounce := by
    intro a b h id current half
    obtain ⟨tracks, hperm, rfl⟩ := h.eq_mk
    exact ⟨rfl, rfl, hperm, h.distinct⟩
  settleBounce := by
    intro a b h id
    obtain ⟨tracks, hperm, rfl⟩ := h.eq_mk
    rw [settleBounce, settleBounce]
    cases a.bounces.get? id with
    | none => exact ⟨rfl, rfl, hperm, h.distinct⟩
    | some rest => exact ⟨rfl, rfl, hperm, h.distinct⟩

/-- Time makes the same steps due, and moves the same animations, in whatever order. -/
theorem Rearranged.advance (h : a.Rearranged b) (dt : Float32) :
    (b.advance dt).1.due = (a.advance dt).1.due ∧
      (b.advance dt).1.updates.Perm (a.advance dt).1.updates ∧
      (a.advance dt).2.Rearranged (b.advance dt).2 := by
  have hdistinct : (a.advance dt).2.tracks.Distinct := (a.moved_distinct h.distinct dt).filter _
  obtain ⟨tracks, hperm, rfl⟩ := h.eq_mk
  exact ⟨rfl, (hperm.map _).map _, rfl, (hperm.map _).filter _, hdistinct⟩

end Animator

/-! ### Ticks -/

namespace Session

variable {s : Session}

/-- Time passes, and the new values of properties are given in the order of a list. -/
def tickInOrder (s : Session) (dt : Float32) (updates : List TweenUpdate) : Logged Session := do
  let (advance, animator) := s.stage.animator.advance dt
  let stage ← applyUpdates { s.stage with animator } updates
  let stage ← runSteps s.config s.registry stage advance.due
  let (_, slots, canvas) ← s.slots.poll stage.canvas
  return { s with stage := { stage with canvas }, slots }

theorem tick_eq (s : Session) (dt : Float32) :
    s.tick dt = s.tickInOrder dt (s.stage.animator.advance dt).1.updates := rfl

/-- The session with its animations arranged in another way. -/
def withTracks (s : Session) (tracks : Table (WidgetId × Property) Track) : Session :=
  { s with stage := { s.stage with animator := { s.stage.animator with tracks } } }

/-- What new values and due steps leave, once an order of the new values is chosen. -/
theorem tickInOrder_value (s : Session) (dt : Float32) (updates : List TweenUpdate) :
    (s.tickInOrder dt updates).value =
      let stage := (runSteps s.config s.registry
        (applyUpdates ⟨s.stage.canvas, (s.stage.animator.advance dt).2⟩ updates).value
        (s.stage.animator.advance dt).1.due).value
      { s with
        stage := ⟨(s.slots.poll stage.canvas).value.2.2, stage.animator⟩
        slots := (s.slots.poll stage.canvas).value.2.1 } := by
  simp only [tickInOrder, Logged.bind_value, Logged.pure_value]

theorem Reachable.tickInOrder_perm (hs : Reachable s) (dt : Float32) {updates : List TweenUpdate}
    (hperm : updates.Perm (s.stage.animator.advance dt).1.updates) :
    (s.tickInOrder dt updates).value = (s.tick dt).value := by
  have hkeys := updates_nodup hs.tidy.distinct dt
  have hvalues : (applyUpdates ⟨s.stage.canvas, (s.stage.animator.advance dt).2⟩ updates).value =
      (applyUpdates ⟨s.stage.canvas, (s.stage.animator.advance dt).2⟩
        (s.stage.animator.advance dt).1.updates).value :=
    applyUpdates_perm hs.faithful ((hperm.map _).nodup_iff.mpr hkeys) hperm
  rw [tick_eq, tickInOrder_value, tickInOrder_value, hvalues]

/-- The order of the animations does not show. Whatever order the new values are given in, a tick
leaves the same session; and if the animations are arranged in another way, so are they after the
tick, but all else is the same: scene, widgets, slots, and what is queued and bouncing. -/
theorem Reachable.tick_unordered (hs : Reachable s) (dt : Float32) :
    (∀ updates : List TweenUpdate, updates.Perm (s.stage.animator.advance dt).1.updates →
      (s.tickInOrder dt updates).value = (s.tick dt).value) ∧
    ∀ tracks : Table (WidgetId × Property) Track,
      tracks.entries.Perm s.stage.animator.tracks.entries →
      ∃ tracks' : Table (WidgetId × Property) Track,
        tracks'.entries.Perm (s.tick dt).value.stage.animator.tracks.entries ∧
          ((s.withTracks tracks).tick dt).value = (s.tick dt).value.withTracks tracks' := by
  refine ⟨fun updates hperm => hs.tickInOrder_perm dt hperm, fun tracks hperm => ?_⟩
  let still : Animator := { s.stage.animator with tracks }
  have hrearranged : s.stage.animator.Rearranged still := ⟨rfl, hperm, hs.tidy.distinct⟩
  obtain ⟨hdue, hupdates, hadvanced⟩ := hrearranged.advance dt
  have hkeys := updates_nodup hs.tidy.distinct dt
  let before : Stage := ⟨s.stage.canvas, (s.stage.animator.advance dt).2⟩
  let before' : Stage := ⟨s.stage.canvas, (still.advance dt).2⟩
  have htwins : before.Twins Animator.Rearranged before' := ⟨rfl, hadvanced⟩
  -- the same values are given on both sides, if in another order, and then the same steps are done
  have hvalues : (applyUpdates before' (still.advance dt).1.updates).value =
      (applyUpdates before' (s.stage.animator.advance dt).1.updates).value :=
    applyUpdates_perm hs.faithful ((hupdates.map _).nodup_iff.mpr hkeys) hupdates
  have hmoved := Animator.Unseen.applyUpdates htwins (s.stage.animator.advance dt).1.updates
  obtain ⟨hcanvas, hanimator⟩ := Animator.unseen_rearranged.runSteps s.config s.registry hmoved
    (s.stage.animator.advance dt).1.due
  obtain ⟨tracks', hperm', hrest⟩ := hanimator.eq_mk
  let after : Stage := (runSteps s.config s.registry
    (applyUpdates before (s.stage.animator.advance dt).1.updates).value
    (s.stage.animator.advance dt).1.due).value
  have hafter : (runSteps s.config s.registry
      (applyUpdates before' (still.advance dt).1.updates).value (still.advance dt).1.due).value =
      ⟨after.canvas, { after.animator with tracks := tracks' }⟩ := by
    rw [hvalues, hdue]
    exact congrArg₂ Stage.mk hcanvas hrest
  rw [tick_eq, tick_eq, tickInOrder_value, tickInOrder_value]
  refine ⟨tracks', hperm', ?_⟩
  exact congrArg (fun stage : Stage =>
    { s with
      stage := ⟨(s.slots.poll stage.canvas).value.2.2, stage.animator⟩
      slots := (s.slots.poll stage.canvas).value.2.1 }) hafter

/-- A document of a progress bar and a panel. -/
def barAndPanel : Element :=
  { tag := "UIML"
    children :=
      [{ tag := "ProgressBar", attributes := [⟨"name", "p"⟩] },
        { tag := "Panel", attributes := [⟨"name", "b"⟩] }] }

/-- Five animations of the two elements may be moved in the opposite order. -/
theorem tick_unordered_barAndPanel :
    ∃ s, ((((Session.new {} {} {}).after (.loadDocument barAndPanel)).bind
        (·.after (.setProgress "p" 1 true))).bind
        (·.after (.execute "p" "fade" ["1", "0"]))).bind
        (·.after (.execute "b" "show" ["1"])) = .ok s ∧
      (s.stage.animator.advance 0.25).1.updates.length = 5 ∧
      (s.tickInOrder 0.25 (s.stage.animator.advance 0.25).1.updates.reverse).value =
        (s.tick 0.25).value := by
  have hvalue : (((((Session.new {} {} {}).after (.loadDocument barAndPanel)).bind
      (·.after (.setProgress "p" 1 true))).bind
      (·.after (.execute "p" "fade" ["1", "0"]))).bind
      (·.after (.execute "b" "show" ["1"]))).toOption.map (fun s =>
        (s.stage.animator.advance 0.25).1.updates.length) = some 5 := by decide +kernel
  obtain ⟨s, hafter, hvalue⟩ := exists_of_toOption_map hvalue
  obtain ⟨third, hthird, hfourth⟩ := exists_of_bind_eq_ok hafter
  obtain ⟨second, hsecond, hthird⟩ := exists_of_bind_eq_ok hthird
  obtain ⟨first, hfirst, hsecond⟩ := exists_of_bind_eq_ok hsecond
  have hs : Reachable s :=
    .after (.after (.after (.after (.new {} {} {}) hfirst) hsecond) hthird) hfourth
  exact ⟨s, hafter, hvalue, (Reachable.tick_unordered hs 0.25).1 _ (List.reverse_perm _)⟩

end Session

end Uiml
