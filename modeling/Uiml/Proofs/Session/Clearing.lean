import Uiml.Proofs.Animation.Bounce
import Uiml.Proofs.Animation.Shift
import Uiml.Proofs.Session.Refusal
import Uiml.Proofs.Session.Reload

/-!
# The clearing

A clearing takes away all names, widgets and nodes but the root, takes everything off the slots, and
stops all that is in motion. Ids of widgets are given out anew afterwards, but nothing is left that
was meant for the old ones: what has been animated, queued or bouncing before the clearing has no
effect on anything that happens after it.

## Main definitions

* `Session.Emptied` — what a clearing leaves
* `Session.afterAll` — what a sequence of operations leaves
* `Session.still` — a session but for what is in motion

## Main results

* `Session.after_shift` — no operation depends on how many steps have been scheduled before
* `Session.Reachable.clear_empties` — a clearing empties everything, and for good
-/

namespace Uiml

/-! ### The scene -/

/-- A scene in which nothing but the root is live has one live node. -/
theorem Scene.liveCount_eq_one {scene : Scene}
    (h : ∀ j, scene.contains j = true ↔ j = root) : scene.liveCount = 1 := by
  have hnodes (i : Nat) : (scene.nodes.toList[i]?.join).isSome = true ↔ i = 0 := by
    rw [Array.getElem?_toList]
    refine (h ⟨i⟩).trans ⟨congrArg NodeId.index, ?_⟩
    rintro rfl
    rfl
  rw [liveCount]
  cases hlist : scene.nodes.toList with
  | nil =>
    rw [hlist] at hnodes
    cases (hnodes 0).mpr rfl
  | cons head tail =>
    rw [hlist] at hnodes
    have htail : tail.countP Option.isSome = 0 := by
      refine List.countP_eq_zero.mpr fun node hmem hlive => ?_
      obtain ⟨i, hi⟩ := List.mem_iff_getElem?.mp hmem
      have hzero := (hnodes (i + 1)).mp (by rw [List.getElem?_cons_succ, hi]; exact hlive)
      cases hzero
    have hhead : head.isSome = true := (hnodes 0).mpr rfl
    rw [List.countP_cons, htail, hhead]
    rfl

namespace Session

variable {s : Session}

/-! ### What the clearing leaves -/

/-- Nothing is left of a session but its slots with what they hold, and its root. -/
structure Emptied (s cleared : Session) : Prop where
  /-- There are no names, neither among all widgets nor among those of a kind. -/
  names : cleared.registry.byName.entries = [] ∧ cleared.registry.byKind.entries = []
  widgets : cleared.stage.canvas.widgets = #[]
  /-- The slots have lost their widgets and nothing else. -/
  slots : cleared.slots =
    { s.slots with slots := s.slots.slots.map fun slot => { slot with bindings := [] } }
  /-- Nothing is in motion, nothing is queued and nothing bounces. -/
  idle : cleared.stage.animator.tracks.entries = [] ∧ cleared.stage.animator.steps = [] ∧
    cleared.stage.animator.bounces.entries = []
  /-- The root is the only node. -/
  alone : ∀ j, cleared.scene.contains j = true ↔ j = Scene.root
  liveCount : cleared.scene.liveCount = 1
  childless : cleared.scene.children Scene.root = []

theorem Reachable.emptied_clear (hs : Reachable s) : s.Emptied s.clear.value := by
  have halone (j : NodeId) : s.clear.value.scene.contains j = true ↔ j = Scene.root := by
    rw [Scene.contains, scene, hs.node?_clear]
    split
    · next hj => exact iff_of_true rfl hj
    · next hj => exact iff_of_false Bool.false_ne_true hj
  have hchildless : s.clear.value.scene.children Scene.root = [] := by
    rw [Scene.children, scene, hs.node?_clear, if_pos rfl]
  have hvalue := s.clear_value
  refine ⟨?_, ?_, ?_, ?_, halone, Scene.liveCount_eq_one halone, hchildless⟩
  all_goals rw [hvalue]
  · exact ⟨rfl, rfl⟩
  · rfl
  · rfl
  · exact ⟨rfl, rfl, rfl⟩

/-! ### How many steps have been scheduled -/

/-- The session after some operations, or why one of them broke down. -/
def afterAll (s : Session) (ops : List Operation) : Except Breakdown Session :=
  ops.foldlM Session.after s

theorem afterAll_cons (s : Session) (op : Operation) (ops : List Operation) :
    s.afterAll (op :: ops) = (s.after op).bind fun t => t.afterAll ops := List.foldlM_cons

/-- The session with greater numbers of steps. -/
def shift (k : Nat) (s : Session) : Session := { s with stage := s.stage.shift k }

section Shift

variable (k : Nat) (s : Session)

@[simp] theorem config_shift : (s.shift k).config = s.config := rfl

@[simp] theorem registry_shift : (s.shift k).registry = s.registry := rfl

@[simp] theorem slots_shift : (s.shift k).slots = s.slots := rfl

@[simp] theorem listening_shift : (s.shift k).listening = s.listening := rfl

@[simp] theorem stage_shift : (s.shift k).stage = s.stage.shift k := rfl

@[simp] theorem workbench_shift : (s.shift k).workbench = s.workbench := rfl

@[simp] theorem progressBar?_shift (element : String) :
    (s.shift k).progressBar? element = s.progressBar? element := rfl

theorem clear_shift : (s.shift k).clear.value = s.clear.value.shift k := by
  rw [clear_value, clear_value]
  rfl

theorem clearForLoad_shift : (s.shift k).clearForLoad.value = s.clearForLoad.value.shift k := by
  rw [clearForLoad_value, clearForLoad_value, clear_shift, config_shift]
  split <;> rfl

theorem afterRefusal_shift (e : LoadError) :
    (s.shift k).afterRefusal e = (s.afterRefusal e).shift k := by
  rw [afterRefusal, afterRefusal, clear_shift, config_shift]
  split <;> rfl

theorem compile_shift (root : Element) :
    ((s.shift k).compile root).run.value =
      (s.compile root).run.value.map (Prod.map id (Session.shift k)) := by
  rw [compile_value, compile_value, workbench_shift, config_shift]
  split
  · cases (s.workbench.compile s.config.theme root Scene.root).run.value <;> rfl
  · rfl

/-- A document is loaded or refused alike. -/
theorem loadFrom_shift (source : Source) :
    ((s.shift k).loadFrom source).run.value =
      (s.loadFrom source).run.value.map (Prod.map id (Session.shift k)) := by
  rw [loadFrom_value, loadFrom_value, slots_shift]
  cases source.document s.slots.assets.files with
  | error e =>
    have hleft := s.afterRefusal_shift k e
    exact congrArg (fun t => Except.ok (Except.error e, t)) hleft
  | ok root =>
    simp only
    rw [clearForLoad_shift, compile_shift]

theorem setProgress_shift (element : String) (value : Float32) (animate : Bool) :
    ((s.shift k).setProgress element value animate).value.2 =
      (s.setProgress element value animate).value.2.shift k := by
  rw [setProgress, setProgress, progressBar?_shift]
  cases s.progressBar? element with
  | error e => rfl
  | ok id =>
    have hanimated := s.stage.animate_shift k id .progress (.scalar value)
      (if animate then progressSeconds else 0)
    exact congrArg (fun stage => { s with stage }) hanimated

theorem tick_shift (dt : Float32) : ((s.shift k).tick dt).value = (s.tick dt).value.shift k := by
  simp only [tick, Logged.bind_value, Logged.pure_value, stage_shift, Stage.animator_shift,
    Animator.advance_shift]
  generalize s.stage.animator.advance dt = advanced
  -- what moves moves alike, and then the same steps are done
  have hmoved : (applyUpdates { s.stage.shift k with animator := advanced.2.shift k }
      advanced.1.updates).value = (applyUpdates { s.stage with animator := advanced.2 }
        advanced.1.updates).value.shift k :=
    applyUpdates_shift k { s.stage with animator := advanced.2 } advanced.1.updates
  rw [hmoved, config_shift, registry_shift, slots_shift, runSteps_shift]
  rfl

/-- No operation depends on how many steps have been scheduled before. -/
theorem after_shift (op : Operation) :
    (s.shift k).after op = (s.after op).map (Session.shift k) := by
  have hload (source : Source) : ((s.shift k).loadFrom source).run.value.map Prod.snd =
      ((s.loadFrom source).run.value.map Prod.snd).map (Session.shift k) := by
    rw [loadFrom_shift]
    cases (s.loadFrom source).run.value <;> rfl
  cases op with
  | load source => exact hload (.text source)
  | loadFile path => exact hload (.file path)
  | loadDocument root => exact hload (.tree root)
  | clear => exact congrArg Except.ok (s.clear_shift k)
  | execute element command args =>
    have hdone := Command.execute_shift k s.config s.registry s.stage element command args
    exact congrArg (fun done => Except.ok { s with stage := Prod.snd done }) hdone
  | schedule delay element command args =>
    have hqueued := s.stage.animator.schedule_shift k delay (.command element command args)
    exact congrArg (fun animator => Except.ok { s with stage := { s.stage with animator } }) hqueued
  | setProgress element value animate =>
    exact congrArg Except.ok (s.setProgress_shift k element value animate)
  | tick dt => exact congrArg Except.ok (s.tick_shift k dt)
  | invoke element event args =>
    refine congrArg Except.ok ?_
    rw [invoke, invoke, Logged.bind_value, Logged.bind_value, listening_shift, registry_shift,
      stage_shift, Stage.canvas_shift]
    split <;> rfl
  | changeBinding element slot =>
    refine congrArg Except.ok ?_
    rw [changeBinding, changeBinding, registry_shift]
    split <;> rfl
  | unbind element =>
    refine congrArg Except.ok ?_
    rw [unbind, unbind, registry_shift]
    split <;> rfl
  -- the others leave the animator alone, and do not look at it
  | _ => rfl

/-- Nor does any sequence of operations. -/
theorem afterAll_shift (ops : List Operation) :
    (s.shift k).afterAll ops = (s.afterAll ops).map (Session.shift k) := by
  induction ops generalizing s with
  | nil => rfl
  | cons op ops ih =>
    rw [afterAll_cons, afterAll_cons, after_shift]
    cases s.after op with
    | error breakdown => rfl
    | ok t => exact ih t

end Shift

/-! ### What was in motion -/

/-- The session with other things in motion. -/
def withAnimator (s : Session) (animator : Animator) : Session :=
  { s with stage := { s.stage with animator } }

/-- The session but for what is in motion. -/
def still (s : Session) : Session := s.withAnimator {}

theorem map_still_afterAll_shift (k : Nat) (s : Session) (ops : List Operation) :
    ((s.shift k).afterAll ops).map still = (s.afterAll ops).map still := by
  rw [afterAll_shift]
  cases s.afterAll ops <;> rfl

/-- What had been in motion before a clearing is not seen after it. -/
theorem afterAll_clear_withAnimator (s : Session) {a : Animator}
    (hnow : a.now = s.stage.animator.now) (ops : List Operation) :
    ((s.withAnimator a).clear.value.afterAll ops).map still =
      (s.clear.value.afterAll ops).map still := by
  -- both are as if no step had ever been scheduled, but for the numbers that steps get
  let fresh : Session := s.clear.value.withAnimator { now := s.stage.animator.now }
  have hcleared : s.clear.value = fresh.shift s.stage.animator.scheduled := by
    simp [fresh, clear_value, withAnimator, shift, Stage.shift, Animator.shift, Animator.clear]
  have hother : (s.withAnimator a).clear.value = fresh.shift a.scheduled := by
    simp [fresh, clear_value, withAnimator, shift, Stage.shift, Animator.shift, Animator.clear,
      hnow]
  calc ((s.withAnimator a).clear.value.afterAll ops).map still
      = ((fresh.shift a.scheduled).afterAll ops).map still := by rw [hother]
    _ = (fresh.afterAll ops).map still := map_still_afterAll_shift _ fresh ops
    _ = ((fresh.shift s.stage.animator.scheduled).afterAll ops).map still :=
        (map_still_afterAll_shift _ fresh ops).symm
    _ = (s.clear.value.afterAll ops).map still := by rw [← hcleared]

/-- A clearing leaves nothing but the slots with what they hold, and the root. Whatever had been
animated, queued or bouncing before it, and however many steps had been scheduled, the session goes
on in the same way: its widgets, its scene, and all else but what is in motion come out the same
after all that can be done to it, or it breaks down in the same way. -/
theorem Reachable.clear_empties (hs : Reachable s) :
    s.Emptied s.clear.value ∧
      ∀ a : Animator, a.now = s.stage.animator.now → ∀ ops : List Operation,
        ((s.withAnimator a).clear.value.afterAll ops).map still =
          (s.clear.value.afterAll ops).map still := by
  refine ⟨hs.emptied_clear, ?_⟩
  intro a hnow ops
  exact s.afterAll_clear_withAnimator hnow ops

/-- A panel that is bouncing when the session is cleared, and another one of the same id after
that. -/
theorem clear_empties_panel :
    ∃ s, (((Session.new {} {} {}).after (.loadDocument panel)).bind
        fun s => s.after (.execute "b" "bounce" ["1"])) = .ok s ∧
      (s.stage.animator.tracks.size, s.stage.animator.steps.length,
        s.stage.animator.bounces.size) = (1, 1, 1) ∧ s.Emptied s.clear.value ∧
      ((s.withAnimator { now := s.stage.animator.now }).clear.value.afterAll
        [.loadDocument panel, .tick 0.5, .tick 0.5]).map still =
        (s.clear.value.afterAll [.loadDocument panel, .tick 0.5, .tick 0.5]).map still := by
  have hvalue : (((Session.new {} {} {}).after (.loadDocument panel)).bind
      fun s => s.after (.execute "b" "bounce" ["1"])).toOption.map (fun s =>
        (s.stage.animator.tracks.size, s.stage.animator.steps.length,
          s.stage.animator.bounces.size)) = some (1, 1, 1) := by decide +kernel
  obtain ⟨s, hafter, hvalue⟩ := exists_of_toOption_map hvalue
  obtain ⟨first, hfirst, hsecond⟩ := exists_of_bind_eq_ok hafter
  have hs : Reachable s := .after (.after (.new {} {} {}) hfirst) hsecond
  obtain ⟨hemptied, hsame⟩ := Reachable.clear_empties hs
  exact ⟨s, hafter, hvalue, hemptied, hsame { now := s.stage.animator.now } rfl _⟩

end Session

end Uiml
