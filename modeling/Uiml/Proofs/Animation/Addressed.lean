import Uiml.Proofs.Animation.Tidy
import Uiml.Proofs.Session.Linked

/-!
# Whom an animator works for

All that an animator has in store is for widgets that are there: the animations that run, the ways
back that are still to come, and the bounces that are remembered. Commands that are queued have no
widget yet, and find one that is there when they come due. Widgets go only when the animator is
cleared with them.

## Main definitions

* `Animator.Addressed` — what an animator has in store is for widgets of which something holds
* `Stage.Addressed` — it is for widgets that are there

## Main results

* `Stage.Change.addressed`, `Step.run_addressed`, `Animator.Addressed.advance` — what a running
  session does keeps it so
* `Session.Reachable.addressed` — it is so in every reachable session
-/

namespace Uiml

/-- What an animator has in store is for widgets of which something holds, if `due` is what is left
of the steps that have come due. -/
structure Animator.Addressed (a : Animator) (due : List Step) (live : WidgetId → Prop) : Prop where
  tracks : ∀ key ∈ a.tracks.entries.map Prod.fst, live key.1
  steps : ∀ step ∈ a.toDo due, ∀ w, step.widget? = some w → live w
  bounces : ∀ w ∈ a.bounces.entries.map Prod.fst, live w

/-- What the animator of a stage has in store is for widgets that are there. -/
def Stage.Addressed (stage : Stage) (due : List Step) : Prop :=
  stage.animator.Addressed due fun w => (stage.canvas.widget? w).isSome = true

variable {a : Animator} {due : List Step} {live live' : WidgetId → Prop} {id : WidgetId}

/-! ### The operations of the animator -/

namespace Animator.Addressed

theorem clear (a : Animator) (live : WidgetId → Prop) : a.clear.Addressed [] live where
  tracks := fun _ h => nomatch h
  steps := fun _ h => nomatch h
  bounces := fun _ h => nomatch h

theorem mono (h : a.Addressed due live) (hlive : ∀ w, live w → live' w) :
    a.Addressed due live' where
  tracks := fun key hkey => hlive _ (h.tracks key hkey)
  steps := fun step hstep w hw => hlive w (h.steps step hstep w hw)
  bounces := fun w hw => hlive w (h.bounces w hw)

theorem cancel (h : a.Addressed due live) (property : Property) :
    (a.cancel id property).Addressed due live where
  tracks := fun key hkey => h.tracks key (Table.mem_keys_of_filter hkey)
  steps := h.steps
  bounces := h.bounces

theorem start (h : a.Addressed due live) (hid : live id) (property : Property)
    (source target : TweenValue) (duration : Float32) :
    (a.start id property source target duration).2.Addressed due live where
  tracks := by
    intro key hkey
    rw [Animator.start] at hkey
    split at hkey
    · exact h.tracks key (Table.mem_keys_of_filter hkey)
    · rcases Table.mem_keys_insertEntry hkey with rfl | hold
      · exact hid
      · exact h.tracks key hold
  steps := by
    rw [start_toDo]
    exact h.steps
  bounces := by
    rw [start_bounces]
    exact h.bounces

theorem cancelWidget (h : a.Addressed due live) : (a.cancelWidget id).Addressed due live where
  tracks := fun key hkey => h.tracks key (Table.mem_keys_of_filter hkey)
  steps := fun step hstep => h.steps step ((a.toDo_cancelWidget_sublist due id).subset hstep)
  bounces := fun w hw => h.bounces w (Table.mem_keys_of_filter hw)

theorem schedule (h : a.Addressed due live) (delay : Float32) {step : Step}
    (hstep : ∀ w, step.widget? = some w → live w) : (a.schedule delay step).Addressed due live where
  tracks := h.tracks
  steps := by
    intro old hold w hw
    simp only [toDo, Animator.schedule, List.map_append, List.map_cons, List.map_nil,
      List.mem_append, List.mem_singleton] at hold
    rcases hold with hdue | hqueued | rfl
    · exact h.steps old (List.mem_append_left _ hdue) w hw
    · exact h.steps old (List.mem_append_right _ hqueued) w hw
    · exact hstep w hw
  bounces := h.bounces

theorem beginBounce (h : a.Addressed due live) (hid : live id) (current : Vec3) (half : Float32) :
    (a.beginBounce id current half).2.Addressed due live where
  tracks := h.tracks
  steps := by
    have hscheduled : (a.schedule half (.settle id half)).Addressed due live := by
      refine h.schedule half fun w hw => ?_
      obtain rfl := Option.some.inj hw
      exact hid
    exact hscheduled.steps
  bounces := by
    intro w hw
    rcases Table.mem_keys_insertEntry hw with rfl | hold
    · exact hid
    · exact h.bounces w hold

theorem settleBounce (h : a.Addressed due live) (hid : live id) :
    (a.settleBounce id).2.Addressed due live where
  tracks := by
    rw [settleBounce_tracks]
    exact h.tracks
  steps := by
    rw [settleBounce_toDo]
    exact h.steps
  bounces := by
    intro w hw
    rw [Animator.settleBounce] at hw
    split at hw
    · exact h.bounces w hw
    · simp only at hw
      split at hw
      · exact h.bounces w (Table.mem_keys_of_filter hw)
      · rcases Table.mem_keys_insertEntry hw with rfl | hold
        · exact hid
        · exact h.bounces w hold

theorem tail {step : Step} (h : a.Addressed (step :: due) live) : a.Addressed due live where
  tracks := h.tracks
  steps := fun old hold => h.steps old (List.mem_cons_of_mem _ hold)
  bounces := h.bounces

/-- Time ends animations and makes steps due, and does neither start nor queue any. -/
theorem advance (h : a.Addressed [] live) (dt : Float32) :
    (a.advance dt).2.Addressed (a.advance dt).1.due live where
  tracks := by
    intro key hkey
    rw [advance_tracks] at hkey
    have hmoved : key ∈ (a.moved dt).entries.map Prod.fst := Table.mem_keys_of_filter hkey
    rw [moved, List.map_map] at hmoved
    exact h.tracks key hmoved
  steps := fun step hstep => h.steps step ((a.advance_toDo dt).mem_iff.mp hstep)
  bounces := h.bounces

end Animator.Addressed

/-! ### Stages -/

namespace Stage.Addressed

variable {stage stage' : Stage} {canvas : Canvas}

/-- Widgets may be added to a stage. -/
theorem keepsWidgets (h : stage.Addressed due) (hkeeps : stage.canvas.KeepsWidgets canvas) :
    Stage.Addressed ⟨canvas, stage.animator⟩ due := h.mono hkeeps

end Stage.Addressed

theorem Stage.Change.addressed {stage stage' : Stage} (hchange : Stage.Change id stage stage')
    (hid : (stage.canvas.widget? id).isSome = true) (h : stage.Addressed due) :
    stage'.Addressed due := by
  cases hchange with
  | widget hcanvas => exact h.keepsWidgets hcanvas.keepsSlots.keepsWidgets
  | start property source target duration =>
    exact Animator.Addressed.start h hid property source target duration
  | cancel property => exact Animator.Addressed.cancel h property
  | cancelWidget => exact Animator.Addressed.cancelWidget h
  | beginBounce current half => exact Animator.Addressed.beginBounce h hid current half

/-- An action on a widget that is there leaves something in store for that widget at most. -/
theorem Stage.ChangesOf.addressed {stage stage' : Stage} (hchanges : Stage.ChangesOf id stage stage')
    (hid : (stage.canvas.widget? id).isSome = true) (h : stage.Addressed due) :
    stage'.Addressed due := by
  have hboth : (stage'.canvas.widget? id).isSome = true ∧ stage'.Addressed due := by
    induction hchanges with
    | refl => exact ⟨hid, h⟩
    | tail _ hlast ih =>
      have hkeeps := (Stage.ChangesOf.onCanvas (.single hlast)).changes.keepsSlots.keepsWidgets
      exact ⟨hkeeps id ih.1, hlast.addressed ih.1 ih.2⟩
  exact hboth.2

/-- Every name leads to a widget that is there. -/
def Registry.Leads (registry : Registry) (canvas : Canvas) : Prop :=
  ∀ name id, registry.get? name = some id → (canvas.widget? id).isSome = true

/-- A command is done to the widget that its element's name leads to. -/
theorem Command.execute_addressed {config : Config} {registry : Registry} {stage : Stage}
    (hnames : registry.Leads stage.canvas) (h : stage.Addressed due)
    (element command : String) (args : List String) :
    (Command.execute config registry stage element command args).value.2.Addressed due := by
  cases hdeed : Command.deed? config registry stage element command args with
  | none =>
    obtain ⟨e, he⟩ := Command.execute_of_deed?_eq_none hdeed
    rw [he]
    exact h
  | some deed =>
    obtain ⟨ran, hrun, hexecute⟩ := Command.execute_of_deed? hdeed
    have hid := hnames element deed.1 (Command.get?_of_deed? hdeed)
    rw [hexecute]
    exact (Action.run_changesOf hrun).addressed hid h

/-- A step that has come due is for a widget that is there. -/
theorem Step.run_addressed {config : Config} {registry : Registry} {stage : Stage} {step : Step}
    (hnames : registry.Leads stage.canvas) (h : stage.Addressed (step :: due)) :
    (step.run config registry stage).value.Addressed due := by
  have hstep : ∀ w, step.widget? = some w → (stage.canvas.widget? w).isSome = true :=
    h.steps step List.mem_cons_self
  cases step with
  | tween widget property target duration =>
    have hid := hstep widget rfl
    exact (stage.animate_changesOf widget property target duration).addressed hid h.tail
  | settle widget duration =>
    have hid := hstep widget rfl
    have hsettled : Stage.Addressed ⟨stage.canvas, (stage.animator.settleBounce widget).2⟩ due :=
      h.tail.settleBounce hid
    rw [run_settle]
    cases stage.animator.bounces.get? widget with
    | none => exact hsettled
    | some rest =>
      have hchanges := Stage.animate_changesOf
        ⟨stage.canvas, (stage.animator.settleBounce widget).2⟩ widget .scale (.vec3 rest.scale)
        duration
      exact hchanges.addressed hid hsettled
  | command element name args => exact Command.execute_addressed hnames h.tail element name args

namespace Session

variable {s s' : Session}

theorem tick_addressed (hnames : s.registry.Leads s.stage.canvas) (h : s.stage.Addressed [])
    (dt : Float32) : (s.tick dt).value.stage.Addressed [] := by
  let advanced : Stage := ⟨s.stage.canvas, (s.stage.animator.advance dt).2⟩
  let moved := (applyUpdates advanced (s.stage.animator.advance dt).1.updates).value
  have hkeeps : s.stage.canvas.KeepsWidgets moved.canvas :=
    (applyUpdates_changes advanced (s.stage.animator.advance dt).1.updates).keepsSlots.keepsWidgets
  have hmoved : moved.Addressed (s.stage.animator.advance dt).1.due := by
    have hadvanced := (h.advance dt).mono hkeeps
    rwa [Stage.Addressed, applyUpdates_animator]
  -- the names lead to widgets that are there at every step, not only at the first
  have hran := runSteps_history s.config s.registry
    (p := fun _ stage due => s.registry.Leads stage.canvas ∧ stage.Addressed due)
    (fun {_ stage step _} ⟨hnames, h⟩ =>
      ⟨fun name id hget => (step.run_changes s.config s.registry stage).keepsSlots.keepsWidgets id
        (hnames name id hget), Step.run_addressed hnames h⟩)
    (s.stage.animator.advance dt).1.due [] moved
    ⟨fun name id hget => hkeeps id (hnames name id hget), hmoved⟩
  simp only [tick, Logged.bind_value, Logged.pure_value]
  exact hran.2.keepsWidgets (s.slots.poll_displays _).changes.keepsSlots.keepsWidgets

theorem clearForLoad_addressed (h : s.stage.Addressed []) :
    s.clearForLoad.value.stage.Addressed [] := by
  rw [clearForLoad]
  cases s.config.clearOnLoad with
  | true => exact .clear s.stage.animator _
  | false => exact h

/-- A load leaves the widgets that the clearing has left, and adds some. -/
theorem Loading.addressed (hload : Loading s s') (h : s.stage.Addressed []) :
    s'.stage.Addressed [] := by
  cases hload with
  | unread => exact h
  | refused => exact clearForLoad_addressed h
  | compiled root bench hbench =>
    exact (clearForLoad_addressed h).keepsWidgets (Workbench.compileAll_keepsWidgets hbench)

theorem get?_of_progressBar? {element : String} (h : s.progressBar? element = .ok id) :
    s.registry.get? element = some id := by
  rw [progressBar?] at h
  cases hget : s.registry.get? element with
  | none => rw [hget] at h; cases h
  | some id' =>
    rw [hget] at h
    simp only at h
    split at h
    · exact congrArg some (Except.ok.inj h)
    · cases h

theorem Effect.addressed {op : Operation} (heffect : Effect s op s')
    (hnames : s.registry.Leads s.stage.canvas) (h : s.stage.Addressed []) :
    s'.stage.Addressed [] := by
  cases heffect with
  | loaded _ hloading => exact hloading.addressed h
  | cleared => exact .clear s.stage.animator _
  | executed element command args =>
    exact Command.execute_addressed hnames h element command args
  | scheduled delay element command args =>
    -- a command has no widget before it is done
    exact Animator.Addressed.schedule h delay fun _ hw => nomatch hw
  | progressed element value animate =>
    rw [setProgress]
    cases hbar : s.progressBar? element with
    | error e => exact h
    | ok id =>
      have hid := hnames element id (get?_of_progressBar? hbar)
      exact (s.stage.animate_changesOf id .progress (.scalar value) _).addressed hid h
  | ticked dt => exact tick_addressed hnames h dt
  | linked _ hanimator hcanvas =>
    have hkept := h.keepsWidgets hcanvas.keepsWidgets
    rwa [Stage.Addressed, hanimator]

/-- In every reachable session the animator works for widgets that are there. -/
theorem Reachable.addressed (hs : Reachable s) : s.stage.Addressed [] := by
  induction hs with
  | new => exact .clear {} _
  | after hs hafter ih =>
    exact (after_effect hafter).addressed (fun _ _ hget => hs.isLinked.named hget) ih

end Session

end Uiml
