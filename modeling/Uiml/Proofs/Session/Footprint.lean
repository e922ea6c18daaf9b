import Uiml.Proofs.Animation.Queue
import Uiml.Proofs.Canvas.References
import Uiml.Proofs.Session.Linked

/-!
# What a command reaches

A command is done to one widget. It reaches the state of that widget, the nodes that the widget
writes to, and what the animator has in store for the widget, and nothing else of a session.

## Main definitions

* `Stage.Spares` — a stage has changed for one widget only
* `Session.Spares` — a session has changed in its stage only, and there for one widget only

## Main results

* `Stage.ChangesOf.spares` — a sequence of changes of a widget spares all others
* `Session.Reachable.execute_spares` — a command spares all but the widget of its element
-/

namespace Uiml

/-- A node that shows what it showed, and hangs where it hung, is the same as before. -/
theorem Scene.KeepsOutside.node?_eq {scene scene' : Scene} {nodes : List NodeId} {j : NodeId}
    (hkeeps : scene.KeepsOutside scene' nodes) (htree : scene.SameTree scene') (hj : j ∉ nodes) :
    scene'.node? j = scene.node? j := by
  have hties : scene'.ties? j =
      (scene.ties? j).map fun t => { t with children := t.children ++ [] } := by
    rw [htree.ties]
    simp
  rw [Scene.node?_of_shows (hkeeps j hj) hties]
  simp [Scene.Node.adding]

namespace Animator

variable {a b c : Animator} {id : WidgetId}

/-- What two animators have in store differs for one widget only. -/
structure Spares (id : WidgetId) (a b : Animator) : Prop where
  /-- The animations of other widgets are the same. -/
  tracks : ∀ key, key.1 ≠ id → b.tracks.get? key = a.tracks.get? key
  /-- The bounces of other widgets are the same. -/
  bounces : ∀ j, j ≠ id → b.bounces.get? j = a.bounces.get? j
  /-- The steps of other widgets, and the commands, are the same, in the same order. -/
  steps : (b.steps.filter fun timed => timed.step.widget? ≠ some id) =
    a.steps.filter fun timed => timed.step.widget? ≠ some id
  /-- No time has passed. -/
  now : b.now = a.now

namespace Spares

theorem refl (id : WidgetId) (a : Animator) : Spares id a a :=
  ⟨fun _ _ => rfl, fun _ _ => rfl, rfl, rfl⟩

theorem trans (h : Spares id a b) (h' : Spares id b c) : Spares id a c where
  tracks := fun key hkey => (h'.tracks key hkey).trans (h.tracks key hkey)
  bounces := fun j hj => (h'.bounces j hj).trans (h.bounces j hj)
  steps := h'.steps.trans h.steps
  now := h'.now.trans h.now

theorem start (a : Animator) (id : WidgetId) (property : Property) (source target : TweenValue)
    (duration : Float32) : Spares id a (a.start id property source target duration).2 where
  tracks := fun _ hkey =>
    a.get?_tracks_start_of_ne id property source target duration fun he => hkey (he ▸ rfl)
  bounces := fun _ _ => by rw [start_bounces]
  steps := by rw [start_steps]
  now := by
    rw [Animator.start]
    split <;> rfl

theorem cancel (a : Animator) (id : WidgetId) (property : Property) :
    Spares id a (a.cancel id property) where
  tracks := fun key hkey => by
    have hne : key ≠ (id, property) := fun he => hkey (he ▸ rfl)
    rw [Animator.cancel, Table.get?_erase, if_neg hne]
  bounces := fun _ _ => rfl
  steps := rfl
  now := rfl

theorem cancelWidget (a : Animator) (id : WidgetId) : Spares id a (a.cancelWidget id) where
  tracks := fun key hkey => a.get?_tracks_cancelWidget_of_ne id key.1 hkey key.2
  bounces := fun j hj => by rw [get?_bounces_cancelWidget, if_neg hj]
  steps := by simp only [Animator.cancelWidget, List.filter_filter, Bool.and_self]
  now := rfl

/-- The second half of a bounce is queued for the widget that bounces. -/
theorem beginBounce (a : Animator) (id : WidgetId) (current : Vec3) (half : Float32) :
    Spares id a (a.beginBounce id current half).2 where
  tracks := fun _ _ => rfl
  bounces := fun j hj => by rw [get?_bounces_beginBounce, if_neg hj]
  steps := by
    simp only [Animator.beginBounce, schedule, List.filter_append]
    simp [Step.widget?]
  now := rfl

end Spares

end Animator

namespace Stage

/-- A stage has changed for one widget only: the state of the widget, its nodes, and what the
animator has in store for it. -/
structure Spares (id : WidgetId) (h : Handle) (stage stage' : Stage) : Prop where
  /-- Other widgets are the same. -/
  widgets : ∀ j, j ≠ id → stage'.widget? j = stage.widget? j
  /-- There are as many widgets. -/
  size : stage'.canvas.widgets.size = stage.canvas.widgets.size
  /-- The nodes that the widget does not write to are the same. -/
  nodes : ∀ j ∉ h.nodes, stage'.canvas.scene.node? j = stage.canvas.scene.node? j
  /-- Parents, children and names of nodes are the same, also of those that are written to. -/
  tree : stage.canvas.scene.SameTree stage'.canvas.scene
  animator : stage.animator.Spares id stage'.animator

variable {stage stage' stage'' : Stage} {id : WidgetId} {h h' : Handle}

theorem Spares.refl (id : WidgetId) (h : Handle) (stage : Stage) : Spares id h stage stage where
  widgets := fun _ _ => rfl
  size := rfl
  nodes := fun _ _ => rfl
  tree := .refl _
  animator := .refl id _

theorem Spares.trans (hs : Spares id h stage stage') (hs' : Spares id h' stage' stage'')
    (hnodes : h'.nodes = h.nodes) : Spares id h stage stage'' where
  widgets := fun j hj => (hs'.widgets j hj).trans (hs.widgets j hj)
  size := hs'.size.trans hs.size
  nodes := fun j hj => (hs'.nodes j (hnodes ▸ hj)).trans (hs.nodes j hj)
  tree := hs.tree.trans hs'.tree
  animator := hs.animator.trans hs'.animator

/-- A change of a widget spares all others, and the widget keeps its nodes. -/
theorem Change.spares (hchange : Change id stage stage') (hid : stage.widget? id = some h)
    (hs : h.Settled stage.canvas.scene) :
    Spares id h stage stage' ∧ ∃ h', stage'.widget? id = some h' ∧
      h'.Settled stage'.canvas.scene ∧ h'.nodes = h.nodes := by
  have hidle {animator : Animator} (hspares : stage.animator.Spares id animator) :
      Spares id h stage ⟨stage.canvas, animator⟩ :=
    { Spares.refl id h stage with animator := hspares }
  cases hchange with
  | widget hchange =>
    obtain ⟨h', hbecomes, hwidgets⟩ := hchange.turns hid hs
    have htree := hchange.sameTree
    refine ⟨⟨fun j hj => hchange.widget?_of_ne hj, hchange.size_widgets, fun j hj => ?_, htree,
      .refl id _⟩, h', ?_, hbecomes.settled, hbecomes.nodes⟩
    · exact hbecomes.keeps.node?_eq htree hj
    · exact (hwidgets id).trans (if_pos rfl)
  | start property source target duration =>
    exact ⟨hidle (.start stage.animator id property source target duration), h, hid, hs, rfl⟩
  | cancel property => exact ⟨hidle (.cancel stage.animator id property), h, hid, hs, rfl⟩
  | cancelWidget => exact ⟨hidle (.cancelWidget stage.animator id), h, hid, hs, rfl⟩
  | beginBounce current half =>
    exact ⟨hidle (.beginBounce stage.animator id current half), h, hid, hs, rfl⟩

/-- Changes of a widget spare all others. -/
theorem ChangesOf.spares (hchanges : ChangesOf id stage stage') (hid : stage.widget? id = some h)
    (hs : h.Settled stage.canvas.scene) : Spares id h stage stage' := by
  -- on the way the widget keeps its nodes, and stays in agreement with them
  have hall : Spares id h stage stage' ∧ ∃ h', stage'.widget? id = some h' ∧
      h'.Settled stage'.canvas.scene ∧ h'.nodes = h.nodes := by
    induction hchanges with
    | refl => exact ⟨.refl id h stage, h, hid, hs, rfl⟩
    | tail _ hlast ih =>
      obtain ⟨hspares, between, hbetween, hsettled, hnodes⟩ := ih
      obtain ⟨hspares', last, hlast, hsettled', hnodes'⟩ := hlast.spares hbetween hsettled
      exact ⟨hspares.trans hspares' hnodes, last, hlast, hsettled', hnodes'.trans hnodes⟩
  exact hall.1

end Stage

namespace Session

/-- A session has changed in its stage only, and there for one widget only: its names, its slots,
its settings, what has been read of attributes, and the calls of events are the same. -/
structure Spares (id : WidgetId) (h : Handle) (s s' : Session) : Prop where
  rest : s' = { s with stage := s'.stage }
  stage : Stage.Spares id h s.stage s'.stage

variable {s : Session} {element : String} {id : WidgetId}

/-- A command to an element spares all but the widget of the element: other widgets and their nodes,
the tree, names, slots and attributes stay as they are, and so does all that the animator has in
store for other widgets, and the commands that it has in store. -/
theorem Reachable.execute_spares (hs : Reachable s) (hget : s.registry.get? element = some id)
    (command : String) (args : List String) :
    ∃ h, s.stage.widget? id = some h ∧
      Spares id h s (s.execute element command args).value.2 := by
  obtain ⟨h, hid⟩ := Option.isSome_iff_exists.mp (hs.isLinked.named hget)
  obtain ⟨changed, hchanged, hchanges⟩ :=
    Command.execute_changesOf s.config s.registry s.stage element command args
  obtain rfl := hchanged id hget
  exact ⟨h, hid, rfl, hchanges.spares hid (hs.faithful.settled hid)⟩

/-- A document of two texts. -/
def pairOfTexts : Element :=
  { tag := "UIML"
    children :=
      [{ tag := "Text", attributes := [⟨"name", "a"⟩] },
        { tag := "Text", attributes := [⟨"name", "b"⟩] }] }

/-- When one of two bouncing texts is restored, it is seen again and does not come back from its
bounce any more; the other one goes on bouncing, and a command to the first one stays in store. -/
theorem execute_spares_pairOfTexts :
    ∃ s h, ((((((Session.new {} {} {}).after (.loadDocument pairOfTexts)).bind
        (·.after (.execute "a" "setalpha" ["0"]))).bind
        (·.after (.execute "a" "bounce" ["1"]))).bind
        (·.after (.execute "b" "bounce" ["1"]))).bind
        (·.after (.schedule 1 "a" "show" []))) = .ok s ∧
      s.registry.get? "a" = some ⟨0⟩ ∧ s.stage.widget? ⟨0⟩ = some h ∧
      let result := (s.execute "a" "restoretooriginalstate" []).value
      result.1.isOk = true ∧ Spares ⟨0⟩ h s result.2 ∧
        h.alpha = 0 ∧ (result.2.stage.widget? ⟨0⟩).map Handle.alpha = some 1 ∧
        (s.stage.animator.tracks.size, s.stage.animator.steps.length,
          s.stage.animator.bounces.size) = (2, 3, 2) ∧
        (result.2.stage.animator.tracks.size, result.2.stage.animator.steps.length,
          result.2.stage.animator.bounces.size) = (1, 2, 1) := by
  have hvalue : ((((((Session.new {} {} {}).after (.loadDocument pairOfTexts)).bind
      (·.after (.execute "a" "setalpha" ["0"]))).bind
      (·.after (.execute "a" "bounce" ["1"]))).bind
      (·.after (.execute "b" "bounce" ["1"]))).bind
      (·.after (.schedule 1 "a" "show" []))).toOption.map (fun s =>
        let result := (s.execute "a" "restoretooriginalstate" []).value
        decide (s.registry.get? "a" = some ⟨0⟩ ∧ result.1.isOk = true ∧
          (s.stage.widget? ⟨0⟩).map Handle.alpha = some 0 ∧
          (result.2.stage.widget? ⟨0⟩).map Handle.alpha = some 1 ∧
          (s.stage.animator.tracks.size, s.stage.animator.steps.length,
            s.stage.animator.bounces.size) = (2, 3, 2) ∧
          (result.2.stage.animator.tracks.size, result.2.stage.animator.steps.length,
            result.2.stage.animator.bounces.size) = (1, 2, 1))) = some true := by decide +kernel
  obtain ⟨s, hafter, hvalue⟩ := exists_of_toOption_map hvalue
  obtain ⟨fourth, hfourth, hfifth⟩ := exists_of_bind_eq_ok hafter
  obtain ⟨third, hthird, hfourth⟩ := exists_of_bind_eq_ok hfourth
  obtain ⟨second, hsecond, hthird⟩ := exists_of_bind_eq_ok hthird
  obtain ⟨first, hfirst, hsecond⟩ := exists_of_bind_eq_ok hsecond
  have hs : Reachable s :=
    .after (.after (.after (.after (.after (.new {} {} {}) hfirst) hsecond) hthird) hfourth) hfifth
  obtain ⟨hget, hok, hhidden, hseen, hbefore, hleft⟩ := of_decide_eq_true hvalue
  obtain ⟨h, hid, hspares⟩ := Reachable.execute_spares hs hget "restoretooriginalstate" []
  rw [hid] at hhidden
  exact ⟨s, h, hafter, hget, hid, hok, hspares, Option.some.inj hhidden, hseen, hbefore, hleft⟩

end Session

end Uiml
