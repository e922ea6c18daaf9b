import Mathlib.Logic.Relation
import Uiml.Proofs.Command.Execution
import Uiml.Session.Operations

/-!
# Changes of a canvas and of its stage

What a canvas shows changes in eight ways only, each of them a change of one widget together with
what its nodes show. Commands, animations, slots and arriving pictures all come down to sequences of
such changes, so that what every change preserves is preserved by everything that a running session
does. An action may moreover change what the animator has in store for its widget, in four ways.

## Main definitions

* `Canvas.Change` — one change of one widget
* `Canvas.ChangesOf`, `Canvas.Changes` — sequences of changes, of one widget and of any
* `Canvas.Display`, `Canvas.Displays` — the changes that slots make
* `Stage.Change`, `Stage.ChangesOf` — what an action does to the stage
* `Canvas.Adjust`, `Stage.WorksOf` — changes that leave texts and pictures alone

## Main results

* `Action.run_works` — an action leaves texts and pictures alone, unless it is to set a text
* `Action.run_changesOf` — an action changes the widget that it is done to
* `Session.tick_changes`, `Session.execute_changes`, … — what a session does between loads
-/

namespace Uiml

/-- One change of a widget, on the widget and on what its nodes show. -/
inductive Canvas.Change (id : WidgetId) (canvas : Canvas) : Canvas → Prop
  | position (v : Vec2) : Change id canvas (canvas.setPosition id v)
  | scale (v : Vec3) : Change id canvas (canvas.setScale id v)
  | alpha (v : Float32) : Change id canvas (canvas.setAlpha id v)
  | interactable (b : Bool) : Change id canvas (canvas.setInteractable id b)
  | toggle (b : Bool) : Change id canvas (canvas.setToggle id b).2
  | progress (v : Float32) : Change id canvas (canvas.setProgress id v).2
  | text (s : String) : Change id canvas (canvas.showText id s).2
  | image (p : Picture) : Change id canvas (canvas.showImage id p).2

/-- One change of a widget that leaves its text and its picture alone. -/
inductive Canvas.Adjust (id : WidgetId) (canvas : Canvas) : Canvas → Prop
  | position (v : Vec2) : Adjust id canvas (canvas.setPosition id v)
  | scale (v : Vec3) : Adjust id canvas (canvas.setScale id v)
  | alpha (v : Float32) : Adjust id canvas (canvas.setAlpha id v)
  | interactable (b : Bool) : Adjust id canvas (canvas.setInteractable id b)
  | toggle (b : Bool) : Adjust id canvas (canvas.setToggle id b).2
  | progress (v : Float32) : Adjust id canvas (canvas.setProgress id v).2

/-- A sequence of changes of one widget. -/
abbrev Canvas.ChangesOf (id : WidgetId) : Canvas → Canvas → Prop :=
  Relation.ReflTransGen (Canvas.Change id)

/-- A sequence of changes of widgets. -/
abbrev Canvas.Changes : Canvas → Canvas → Prop :=
  Relation.ReflTransGen fun canvas canvas' => ∃ id, Canvas.Change id canvas canvas'

/-- One change of a widget that shows the content of a slot. -/
inductive Canvas.Display (id : WidgetId) (canvas : Canvas) : Canvas → Prop
  | text (s : String) : Display id canvas (canvas.showText id s).2
  | image (p : Picture) : Display id canvas (canvas.showImage id p).2

/-- A sequence of changes that show contents of slots. -/
abbrev Canvas.Displays : Canvas → Canvas → Prop :=
  Relation.ReflTransGen fun canvas canvas' => ∃ id, Canvas.Display id canvas canvas'

/-- One change that an action on a widget makes to a stage: of the widget, or of what the animator
has in store for it. -/
inductive Stage.Change (id : WidgetId) (stage : Stage) : Stage → Prop
  | widget {canvas : Canvas} (h : Canvas.Change id stage.canvas canvas) :
      Change id stage ⟨canvas, stage.animator⟩
  | start (property : Property) (source target : TweenValue) (duration : Float32) :
      Change id stage ⟨stage.canvas, (stage.animator.start id property source target duration).2⟩
  | cancel (property : Property) :
      Change id stage ⟨stage.canvas, stage.animator.cancel id property⟩
  | cancelWidget : Change id stage ⟨stage.canvas, stage.animator.cancelWidget id⟩
  | beginBounce (current : Vec3) (half : Float32) :
      Change id stage ⟨stage.canvas, (stage.animator.beginBounce id current half).2⟩

/-- A sequence of changes that actions on a widget make. -/
abbrev Stage.ChangesOf (id : WidgetId) : Stage → Stage → Prop :=
  Relation.ReflTransGen (Stage.Change id)

/-- One change that an action makes without touching texts and pictures. -/
inductive Stage.Work (id : WidgetId) (stage : Stage) : Stage → Prop
  | widget {canvas : Canvas} (h : Canvas.Adjust id stage.canvas canvas) :
      Work id stage ⟨canvas, stage.animator⟩
  | start (property : Property) (source target : TweenValue) (duration : Float32) :
      Work id stage ⟨stage.canvas, (stage.animator.start id property source target duration).2⟩
  | cancel (property : Property) : Work id stage ⟨stage.canvas, stage.animator.cancel id property⟩
  | cancelWidget : Work id stage ⟨stage.canvas, stage.animator.cancelWidget id⟩
  | beginBounce (current : Vec3) (half : Float32) :
      Work id stage ⟨stage.canvas, (stage.animator.beginBounce id current half).2⟩

/-- A sequence of changes that touch no texts and pictures. -/
abbrev Stage.WorksOf (id : WidgetId) : Stage → Stage → Prop :=
  Relation.ReflTransGen (Stage.Work id)

open Relation

variable {canvas canvas' : Canvas} {id : WidgetId} {α σ : Type}

/-- A change either does nothing or is an update of the widget, which keeps its slot, its name and
its handlers. -/
theorem Canvas.Change.update_cases (h : Canvas.Change id canvas canvas') :
    canvas' = canvas ∨ ∃ f g, canvas' = canvas.update id f g ∧
      ∀ h : Handle, (f h).slot = h.slot ∧ (f h).name = h.name ∧ (f h).handlers = h.handlers := by
  cases h with
  | position | scale | alpha | interactable =>
    refine .inr ⟨_, _, rfl, fun h => ?_⟩
    exact ⟨rfl, rfl, rfl⟩
  | toggle =>
    rw [Canvas.setToggle]
    split
    · simp only
      refine .inr ⟨_, _, rfl, fun h => ?_⟩
      exact ⟨rfl, rfl, rfl⟩
    · exact .inl rfl
  | progress =>
    rw [Canvas.setProgress]
    split
    · simp only
      refine .inr ⟨_, _, rfl, fun h => ?_⟩
      exact ⟨rfl, rfl, rfl⟩
    · exact .inl rfl
  | text =>
    rw [Canvas.showText]
    split
    · simp only
      refine .inr ⟨_, _, rfl, fun h => ?_⟩
      exact ⟨rfl, rfl, rfl⟩
    · exact .inl rfl
  | image =>
    rw [Canvas.showImage]
    split
    · simp only
      refine .inr ⟨_, _, rfl, fun h => ?_⟩
      exact ⟨rfl, rfl, rfl⟩
    · exact .inl rfl

theorem Canvas.Adjust.change (h : Canvas.Adjust id canvas canvas') :
    Canvas.Change id canvas canvas' := by
  cases h with
  | position v => exact .position v
  | scale v => exact .scale v
  | alpha v => exact .alpha v
  | interactable b => exact .interactable b
  | toggle b => exact .toggle b
  | progress v => exact .progress v

theorem Stage.Work.change {stage stage' : Stage} (h : Stage.Work id stage stage') :
    Stage.Change id stage stage' := by
  cases h with
  | widget hadjust => exact .widget hadjust.change
  | start property source target duration => exact .start property source target duration
  | cancel property => exact .cancel property
  | cancelWidget => exact .cancelWidget
  | beginBounce current half => exact .beginBounce current half

theorem Stage.WorksOf.changesOf {stage stage' : Stage} (h : Stage.WorksOf id stage stage') :
    Stage.ChangesOf id stage stage' := ReflTransGen.mono (fun _ _ hwork => hwork.change) _ _ h

theorem Canvas.Display.change (h : Canvas.Display id canvas canvas') :
    Canvas.Change id canvas canvas' := by
  cases h with
  | text s => exact .text s
  | image p => exact .image p

theorem Canvas.Displays.changes (h : Canvas.Displays canvas canvas') :
    Canvas.Changes canvas canvas' :=
  ReflTransGen.mono (fun _ _ ⟨id, hdisplay⟩ => ⟨id, hdisplay.change⟩) _ _ h

theorem Canvas.ChangesOf.changes (h : Canvas.ChangesOf id canvas canvas') :
    Canvas.Changes canvas canvas' :=
  ReflTransGen.mono (fun _ _ hc => ⟨id, hc⟩) _ _ h

theorem Logged.foldlM_value (f : σ → α → Logged σ) (xs : List α) (s : σ) :
    (xs.foldlM f s).value = xs.foldl (fun s x => (f s x).value) s := by
  induction xs generalizing s with
  | nil => rfl
  | cons x xs ih =>
    rw [List.foldlM_cons, Logged.bind_value, ih]
    rfl

/-- What each step preserves is preserved by sequences of steps. -/
theorem reflTransGen_preserves {r : α → α → Prop} {p : α → Prop} {a b : α}
    (hstep : ∀ {a b}, r a b → p a → p b) (h : ReflTransGen r a b) (hp : p a) : p b := by
  induction h with
  | refl => exact hp
  | tail _ hlast ih => exact hstep hlast ih

/-- Folding over a list takes the steps of its elements, in what is seen of the state. -/
theorem foldl_reflTransGen {r : α → α → Prop} {β : Type} {f : σ → β → σ} (view : σ → α)
    (hf : ∀ s b, ReflTransGen r (view s) (view (f s b))) (xs : List β) (s : σ) :
    ReflTransGen r (view s) (view (xs.foldl f s)) := by
  induction xs generalizing s with
  | nil => exact .refl
  | cons x xs ih => exact (hf s x).trans (ih (f s x))

/-- Adjustments of a canvas are work on its stage. -/
theorem Stage.worksOf_of_adjusts (h : ReflTransGen (Canvas.Adjust id) canvas canvas')
    (animator : Animator) : Stage.WorksOf id ⟨canvas, animator⟩ ⟨canvas', animator⟩ := by
  induction h with
  | refl => exact .refl
  | tail _ hlast ih => exact ih.tail (.widget hlast)

theorem Stage.ChangesOf.onCanvas {stage stage' : Stage} (h : Stage.ChangesOf id stage stage') :
    Canvas.ChangesOf id stage.canvas stage'.canvas := by
  induction h with
  | refl => exact .refl
  | tail _ hlast ih =>
    cases hlast with
    | widget hchange => exact ih.tail hchange
    | start | cancel | cancelWidget | beginBounce => exact ih

/-! ### Values and animations -/

theorem Canvas.applyValue_adjusts (canvas : Canvas) (id : WidgetId) (property : Property)
    (value : TweenValue) :
    ReflTransGen (Canvas.Adjust id) canvas (canvas.applyValue id property value).value := by
  rw [Canvas.applyValue]
  cases canvas.widget? id with
  | none => exact .refl
  | some h =>
    cases property <;> cases value
    case alpha.scalar v => exact .single (.alpha v)
    case position.vec2 v => exact .single (.position v)
    case scale.vec3 v => exact .single (.scale v)
    case progress.scalar v => exact .single (.progress v)
    all_goals exact .refl

theorem Canvas.applyValue_changesOf (canvas : Canvas) (id : WidgetId) (property : Property)
    (value : TweenValue) :
    Canvas.ChangesOf id canvas (canvas.applyValue id property value).value :=
  ReflTransGen.mono (fun _ _ hadjust => hadjust.change) _ _
    (canvas.applyValue_adjusts id property value)

namespace Stage

variable (stage : Stage) (config : Config) (id : WidgetId)

theorem applyValue_works (property : Property) (value : TweenValue) :
    WorksOf id stage (stage.applyValue id property value).value :=
  worksOf_of_adjusts (stage.canvas.applyValue_adjusts id property value) stage.animator

theorem applyValue_changesOf (property : Property) (value : TweenValue) :
    ChangesOf id stage (stage.applyValue id property value).value :=
  (stage.applyValue_works id property value).changesOf

theorem animate_works (property : Property) (target : TweenValue) (duration : Float32) :
    WorksOf id stage (stage.animate id property target duration).value := by
  rw [animate]
  cases (stage.widget? id).bind fun h => h.property? property with
  | none => exact .refl
  | some source =>
    -- the animation is begun or ended first; only then may a value be applied at once
    have hstart : WorksOf id stage
        ⟨stage.canvas, (stage.animator.start id property source target duration).2⟩ :=
      .single (.start property source target duration)
    simp only
    split
    · exact hstart
    · exact hstart.trans (applyValue_works _ id property _)

theorem animate_changesOf (property : Property) (target : TweenValue) (duration : Float32) :
    ChangesOf id stage (stage.animate id property target duration).value :=
  (stage.animate_works id property target duration).changesOf

theorem reveal_works (duration : Float32) :
    WorksOf id stage (stage.reveal id duration).value := by
  simp only [reveal, Logged.bind_value]
  -- each of the three animations starts from the stage that the one before it leaves
  have halpha := stage.animate_works id .alpha (.scalar 1) duration
  have hposition := animate_works (stage.animate id .alpha (.scalar 1) duration).value id
    .position (.vec2 (stage.homePosition id)) duration
  exact (halpha.trans hposition).trans (animate_works _ id .scale _ _)

theorem slide_works (direction : SlideDirection) (duration : Float32) :
    WorksOf id stage (stage.slide config id direction duration).value := by
  rw [slide]
  cases stage.widget? id with
  | none => exact .refl
  | some h => exact animate_works stage id .position _ _

theorem conceal_works (duration : Float32) :
    WorksOf id stage (stage.conceal config id duration).value := by
  simp only [conceal, Logged.bind_value]
  exact (animate_works stage id .alpha _ _).trans (slide_works _ config id _ _)

theorem bounce_works (duration : Float32) :
    WorksOf id stage (stage.bounce config id duration).value := by
  rw [bounce]
  cases stage.widget? id with
  | none => exact .refl
  | some h =>
    exact (ReflTransGen.single (.beginBounce h.transform.scale (duration / 2))).trans
      (animate_works _ id .scale _ _)

theorem restore_works : WorksOf id stage (stage.restore id) := by
  have hcancel : WorksOf id stage ⟨stage.canvas, stage.animator.cancelWidget id⟩ :=
    .single .cancelWidget
  rw [restore]
  cases stage.widget? id with
  | none => exact hcancel
  | some h =>
    have hvisible : ReflTransGen (Canvas.Adjust id) stage.canvas
        ((((stage.canvas.setAlpha id 1).setPosition id h.home.transform.position).setScale id
          .one).setInteractable id true) :=
      (((ReflTransGen.single (.alpha 1)).tail (.position _)).tail (.scale _)).tail (.interactable _)
    simp only
    -- a switch moreover goes back to the state that it was declared with
    cases h.home.toggleOn with
    | none => exact hcancel.trans (worksOf_of_adjusts hvisible _)
    | some isOn => exact hcancel.trans (worksOf_of_adjusts (hvisible.tail (.toggle isOn)) _)

end Stage

/-- Whether an action is to set a text. -/
def Action.speaks : Action → Bool
  | .setText _ => true
  | _ => false

/-- An action touches no text and no picture, unless it is to set a text, and then it shows that. -/
theorem Action.run_works {config : Config} {stage : Stage} {action : Action}
    {result : Logged Stage} (h : action.run config id stage = .ok result) :
    (action.speaks = true ∧ ∃ text,
      result.value = ⟨(stage.canvas.showText id text).2, stage.animator⟩) ∨
    (action.speaks = false ∧ Stage.WorksOf id stage result.value) := by
  cases action <;> simp only [Action.run] at h
  case «show» duration => cases h; exact .inr ⟨rfl, stage.reveal_works id duration⟩
  case hide duration => cases h; exact .inr ⟨rfl, stage.conceal_works config id duration⟩
  case toggle duration =>
    cases h
    refine .inr ⟨rfl, ?_⟩
    split
    · exact stage.conceal_works config id duration
    · exact stage.reveal_works id duration
  case fade alpha duration => cases h; exact .inr ⟨rfl, stage.animate_works id _ _ _⟩
  case moveTo position duration => cases h; exact .inr ⟨rfl, stage.animate_works id _ _ _⟩
  case moveHome duration => cases h; exact .inr ⟨rfl, stage.animate_works id _ _ _⟩
  case scale factor duration => cases h; exact .inr ⟨rfl, stage.animate_works id _ _ _⟩
  case slide direction duration => cases h; exact .inr ⟨rfl, stage.slide_works config id _ _⟩
  case bounce duration => cases h; exact .inr ⟨rfl, stage.bounce_works config id duration⟩
  case setAlpha alpha =>
    cases h
    refine .inr ⟨rfl, ?_⟩
    exact (ReflTransGen.single (.cancel .alpha)).trans (Stage.applyValue_works _ id .alpha _)
  case setInteractable interactable =>
    cases h
    exact .inr ⟨rfl, .single (.widget (.interactable interactable))⟩
  case setText text =>
    refine .inl ⟨rfl, text, ?_⟩
    -- a widget without a place for a text fails, and then there is no result
    split at h
    · next hnone =>
      cases h
      have hsame : (stage.canvas.showText id text).2 = stage.canvas := by
        rw [Canvas.showText, show stage.canvas.widget? id = none from hnone, Option.bind_none]
      rw [hsame]
      rfl
    · split at h
      · cases h; rfl
      · cases h
  case restore => cases h; exact .inr ⟨rfl, stage.restore_works id⟩

/-- An action changes the widget that it is done to, and no other. -/
theorem Action.run_changesOf {config : Config} {stage : Stage} {action : Action}
    {result : Logged Stage} (h : action.run config id stage = .ok result) :
    Stage.ChangesOf id stage result.value := by
  rcases Action.run_works h with ⟨-, text, htext⟩ | ⟨-, hworks⟩
  · exact htext ▸ .single (.widget (.text text))
  · exact hworks.changesOf

/-- A command changes one widget at most, the one that its element's name leads to. -/
theorem Command.execute_changesOf (config : Config) (registry : Registry) (stage : Stage)
    (element command : String) (args : List String) :
    ∃ id, (∀ w, registry.get? element = some w → w = id) ∧
      Stage.ChangesOf id stage
        (Command.execute config registry stage element command args).value.2 := by
  cases hdeed : Command.deed? config registry stage element command args with
  | none =>
    -- nothing has been done, so that any widget will do
    obtain ⟨e, he⟩ := Command.execute_of_deed?_eq_none hdeed
    refine ⟨(registry.get? element).getD ⟨0⟩, fun w hw => by rw [hw, Option.getD_some], ?_⟩
    rw [he]
  | some deed =>
    obtain ⟨ran, hrun, hexecute⟩ := Command.execute_of_deed? hdeed
    refine ⟨deed.1, fun w hw => ?_, ?_⟩
    · exact Option.some.inj (hw.symm.trans (Command.get?_of_deed? hdeed))
    · rw [hexecute]
      exact Action.run_changesOf hrun

theorem Step.run_changes (config : Config) (registry : Registry) (stage : Stage) (step : Step) :
    Canvas.Changes stage.canvas (step.run config registry stage).value.canvas := by
  cases step with
  | tween widget property target duration =>
    exact (stage.animate_changesOf widget property target duration).onCanvas.changes
  | settle widget duration =>
    rw [Step.run]
    obtain ⟨rest, animator⟩ := stage.animator.settleBounce widget
    cases rest with
    | none => exact .refl
    | some scale =>
      exact (Stage.animate_changesOf ⟨stage.canvas, animator⟩ widget .scale _ _).onCanvas.changes
  | command element name args =>
    obtain ⟨id, -, hchanges⟩ := Command.execute_changesOf config registry stage element name args
    exact hchanges.onCanvas.changes

/-! ### Slots -/

theorem Canvas.showContent_displays (canvas : Canvas) (id : WidgetId) (slot : Slot) :
    Canvas.Displays canvas (canvas.showContent id slot) := by
  rw [Canvas.showContent]
  cases slot.text <;> cases slot.image
  case none.none => exact .refl
  case none.some image => exact .single ⟨id, .image image⟩
  case some.none text => exact .single ⟨id, .text text⟩
  case some.some text image =>
    exact (ReflTransGen.single ⟨id, .text text⟩).tail ⟨id, .image image⟩

namespace Slots

variable (board : Slots) (canvas : Canvas) (index : Nat) (id : WidgetId)

theorem showTextOn_displays (text : String) (state : Nat × Canvas) :
    Canvas.Displays state.2 (showTextOn index text state id).value.2 := by
  rw [showTextOn]
  cases state.2.widget? id with
  | none => exact .refl
  | some h =>
    simp only
    split <;> exact .single ⟨id, .text text⟩

theorem setText_displays (text : String) :
    Canvas.Displays canvas (board.setText canvas index text).value.2.2 := by
  simp only [setText, lookUp]
  cases board.slot? index with
  | none => exact .refl
  | some slot =>
    simp only [Logged.bind_value, Logged.pure_value, Logged.foldlM_value]
    exact foldl_reflTransGen Prod.snd (fun state id => showTextOn_displays index id text state)
      slot.bindings (0, canvas)

theorem applyOutcome_displays (outcome : ImageOutcome) :
    Canvas.Displays canvas (board.applyOutcome canvas outcome).value.2 := by
  simp only [applyOutcome]
  cases ({ board with inFlight := board.inFlight - 1 } : Slots).slot? outcome.request.slot with
  | none => exact .refl
  | some slot =>
    simp only [Logged.bind_value]
    cases outcome.result with
    | error e => exact .refl
    | ok image =>
      exact foldl_reflTransGen (fun canvas => canvas)
        (fun _ id => .single ⟨id, .image image⟩) _ canvas

theorem poll_displays : Canvas.Displays canvas (board.poll canvas).value.2.2 := by
  simp only [poll, Logged.bind_value, Logged.pure_value, Logged.foldlM_value]
  exact foldl_reflTransGen Prod.snd
    (fun state outcome => applyOutcome_displays state.1 state.2 outcome) board.arrived
    ({ board with arrived := [] }, canvas)

theorem wait_displays (timeout : Span) :
    Canvas.Displays canvas (board.wait canvas timeout).value.2.2 := board.poll_displays canvas

end Slots

/-! ### Sessions -/

namespace Session

variable (s : Session)

theorem applyUpdates_changes (stage : Stage) (updates : List TweenUpdate) :
    Canvas.Changes stage.canvas (applyUpdates stage updates).value.canvas := by
  rw [applyUpdates, Logged.foldlM_value]
  exact foldl_reflTransGen Stage.canvas
    (fun stage u => (stage.applyValue_changesOf u.widget u.property u.value).onCanvas.changes)
    updates stage

theorem runSteps_changes (config : Config) (registry : Registry) (stage : Stage)
    (steps : List Step) :
    Canvas.Changes stage.canvas (runSteps config registry stage steps).value.canvas := by
  rw [runSteps, Logged.foldlM_value]
  exact foldl_reflTransGen Stage.canvas
    (fun stage step => step.run_changes config registry stage) steps stage

theorem execute_changes (element command : String) (args : List String) :
    Canvas.Changes s.stage.canvas (s.execute element command args).value.2.stage.canvas := by
  obtain ⟨id, -, hchanges⟩ :=
    Command.execute_changesOf s.config s.registry s.stage element command args
  exact hchanges.onCanvas.changes

theorem setProgress_changes (element : String) (value : Float32) (animate : Bool) :
    Canvas.Changes s.stage.canvas (s.setProgress element value animate).value.2.stage.canvas := by
  rw [setProgress]
  cases s.progressBar? element with
  | error e => exact .refl
  | ok id => exact (s.stage.animate_changesOf id .progress _ _).onCanvas.changes

theorem tick_changes (dt : Float32) :
    Canvas.Changes s.stage.canvas (s.tick dt).value.stage.canvas := by
  simp only [tick, Logged.bind_value, Logged.pure_value]
  generalize s.stage.animator.advance dt = advanced
  have hupdates := applyUpdates_changes { s.stage with animator := advanced.2 } advanced.1.updates
  have hsteps := runSteps_changes s.config s.registry
    (applyUpdates { s.stage with animator := advanced.2 } advanced.1.updates).value advanced.1.due
  exact (hupdates.trans hsteps).trans (s.slots.poll_displays _).changes

end Session

end Uiml
