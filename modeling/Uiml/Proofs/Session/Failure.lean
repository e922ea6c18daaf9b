import Uiml.Proofs.Animation.Addressed
import Uiml.Proofs.Animation.Bounce

/-!
# What is asked in vain

A command, a move of a progress bar or an event can be asked for in vain: the element is not there,
the arguments cannot be read, there is nowhere to show a text, nobody listens. For each of the three
the reasons are listed here, and that there are no others. Nothing has changed then. This is so as
the arguments are read before anything is done, and as a text is not kept by a widget that does not
show it.

## Main definitions

* `Command.Refused`, `Session.ProgressRefused`, `Event.Refused` — the reasons

## Main results

* `Action.read_faulty` — a failure to read a command is about one of its arguments
* `Session.Reachable.refused_unchanged` — what is asked in vain changes nothing
-/

namespace Uiml

/-! ### Reading arguments -/

namespace Arguments

variable {args : Arguments} {e : CommandError}

/-- The failures to read an argument: it is missing, or it is not what it should be. -/
inductive Faulty (args : Arguments) : CommandError → Prop
  | missing {index : Nat} (what : String) (h : args.get? index = none) :
      Faulty args (.missingArgument args.command index what)
  | invalid {index : Nat} {text : String} (what : String) (h : args.get? index = some text) :
      Faulty args (.invalidArgument args.command text what)

theorem read_faulty {α : Type} {index : Nat} {what : String} {parse : String → Option α}
    (h : args.read index what parse = .error e) : args.Faulty e := by
  rw [read] at h
  cases hget : args.get? index with
  | none =>
    rw [hget] at h
    cases h
    exact .missing what hget
  | some text =>
    rw [hget] at h
    cases hparse : parse text with
    | none =>
      simp only [hparse] at h
      cases h
      exact .invalid what hget
    | some value =>
      simp only [hparse] at h
      cases h

theorem durationOrDefault_faulty (h : args.durationOrDefault = .error e) : args.Faulty e := by
  rw [durationOrDefault] at h
  split at h
  · cases h
  · cases h
  · exact read_faulty h

end Arguments

namespace Action

variable {builtin : Command} {args : Arguments} {e : CommandError}

/-- A failure to read a command is about one of its arguments. -/
theorem read_faulty (h : read builtin args = .error e) : args.Faulty e := by
  cases builtin <;> simp only [read, bind_eq_error_iff] at h
  case toggle | restorePosition =>
    obtain hduration | ⟨duration, -, h⟩ := h
    · exact Arguments.durationOrDefault_faulty hduration
    · cases h
  case fade | scale =>
    obtain hduration | ⟨duration, -, hvalue | ⟨value, -, h⟩⟩ := h
    · exact Arguments.read_faulty hduration
    · exact Arguments.read_faulty hvalue
    · cases h
  case moveTo =>
    obtain hduration | ⟨duration, -, hx | ⟨x, -, hy | ⟨y, -, h⟩⟩⟩ := h
    · exact Arguments.read_faulty hduration
    · exact Arguments.read_faulty hx
    · exact Arguments.read_faulty hy
    · cases h
  case setText =>
    cases htexts : args.texts with
    | nil =>
      rw [htexts] at h
      cases h
      exact .missing "text" (by rw [Arguments.get?, htexts]; rfl)
    | cons text rest =>
      rw [htexts] at h
      cases h
  case restoreState => cases h
  -- the others read one argument
  all_goals
    obtain hread | ⟨value, -, h⟩ := h
    · exact Arguments.read_faulty hread
    · cases h

/-- Only one command is read as an action that shows a text, and that is its first argument. -/
theorem read_setText {action : Logged Action} {text : String} (h : read builtin args = .ok action)
    (htext : action.value = .setText text) :
    builtin = .setText ∧ ∃ rest, args.texts = text :: rest := by
  cases builtin <;> simp only [read] at h
  case setText =>
    cases htexts : args.texts with
    | nil => rw [htexts] at h; cases h
    | cons first rest =>
      rw [htexts] at h
      cases h
      cases htext
      exact ⟨rfl, rest, rfl⟩
  case restoreState => cases h; cases htext
  case fade | scale =>
    obtain ⟨duration, -, h⟩ := exists_of_bind_eq_ok h
    obtain ⟨value, -, h⟩ := exists_of_bind_eq_ok h
    cases h
    cases htext
  case moveTo =>
    obtain ⟨duration, -, h⟩ := exists_of_bind_eq_ok h
    obtain ⟨x, -, h⟩ := exists_of_bind_eq_ok h
    obtain ⟨y, -, h⟩ := exists_of_bind_eq_ok h
    cases h
    cases htext
  all_goals
    obtain ⟨value, -, h⟩ := exists_of_bind_eq_ok h
    cases h
    cases htext

end Action

/-! ### Doing commands -/

/-- A text that is not shown changes nothing. -/
theorem Canvas.showText_false {canvas : Canvas} {id : WidgetId} {text : String}
    (h : (canvas.showText id text).1 = false) : (canvas.showText id text).2 = canvas := by
  rw [showText] at h ⊢
  split
  · next surface hsurface =>
    rw [hsurface] at h
    cases h
  · rfl

/-- An action on a widget that is there fails only if it is to show a text where there is nowhere to
show it. -/
theorem Action.run_eq_error_iff {config : Config} {id : WidgetId} {stage : Stage} {h : Handle}
    {action : Action} {e : CommandError} (hid : stage.widget? id = some h) :
    action.run config id stage = .error e ↔
      (∃ text, action = .setText text) ∧ h.textSurface = none ∧ e = .noTextSurface h.name := by
  cases action
  case setText text =>
    have hcanvas : stage.canvas.widget? id = some h := hid
    simp only [run, hid, Canvas.showText, hcanvas, Option.bind_some]
    cases h.textSurface with
    | none => simp [eq_comm]
    | some surface => simp
  all_goals simp [run]

/-- Why a command is not done, given the widget that its element's name leads to: there is none, the
command is not known, an argument is missing or wrong, or it is to show a text and there is nowhere
to show it. -/
inductive Command.Refused (config : Config) (element command : String) (args : List String) :
    Option Handle → CommandError → Prop
  | element : Refused config element command args none (.unknownElement element)
  | command {h : Handle} (hname : ofName? command = none) :
      Refused config element command args (some h) (.unknownCommand command)
  | arguments {h : Handle} {builtin : Command} {e : CommandError}
      (hname : ofName? command = some builtin)
      (hread : Action.read builtin ⟨command, args, config.defaultDuration⟩ = .error e) :
      Refused config element command args (some h) e
  | surface {h : Handle} {text : String} {rest : List String}
      (hname : ofName? command = some .setText) (hargs : args = text :: rest)
      (hnone : h.textSurface = none) :
      Refused config element command args (some h) (.noTextSurface h.name)

theorem Command.dispatch_eq_error_iff {config : Config} {registry : Registry} {stage : Stage}
    {element command : String} {args : List String} {e : CommandError}
    (hnames : registry.Leads stage.canvas) :
    dispatch config registry stage element command args = .error e ↔
      Refused config element command args ((registry.get? element).bind stage.widget?) e := by
  rw [dispatch]
  -- the reasons are looked for in this order, and the first one counts
  cases hget : registry.get? element with
  | none =>
    constructor
    · rintro ⟨⟩
      exact .element
    · rintro ⟨⟩
      rfl
  | some id =>
    obtain ⟨h, hid⟩ := Option.isSome_iff_exists.mp (hnames element id hget)
    have hwidget : stage.widget? id = some h := hid
    rw [Option.bind_some, hwidget]
    cases hname : ofName? command with
    | none =>
      constructor
      · rintro ⟨⟩
        exact .command hname
      · rintro (_ | _ | ⟨hname', _⟩ | ⟨hname', _, _⟩)
        · rfl
        all_goals simp [hname] at hname'
    | some builtin =>
      simp only [bind_eq_error_iff, Action.run_eq_error_iff hwidget]
      constructor
      · rintro (hread | ⟨action, hread, ⟨⟨text, htext⟩, hnone, rfl⟩ | ⟨ran, -, hdone⟩⟩)
        · exact .arguments hname hread
        · obtain ⟨rfl, rest, hargs⟩ := Action.read_setText hread htext
          exact .surface hname hargs hnone
        · cases hdone
      · rintro (_ | hname' | ⟨hname', hread⟩ | ⟨hname', hargs, hnone⟩)
        · simp [hname] at hname'
        · obtain rfl := Option.some.inj (hname.symm.trans hname')
          exact .inl hread
        · obtain rfl := Option.some.inj (hname.symm.trans hname')
          subst hargs
          exact .inr ⟨_, rfl, .inl ⟨⟨_, rfl⟩, hnone, rfl⟩⟩

/-! ### Events -/

/-- Why no call is handed on for an event: its element is not there or declares none, or nobody
listens. -/
inductive Event.Refused (listening : Bool) (element event : String) :
    Option Handle → CommandError → Prop
  | element : Refused listening element event none (.unknownElement element)
  | handlers {h : Handle} (hnone : ∀ handler ∈ h.handlers, handler.event ≠ canonical event) :
      Refused listening element event (some h) (.noHandlers element (canonical event))
  | listener {h : Handle} {handler : EventHandler} (hmem : handler ∈ h.handlers)
      (hevent : handler.event = canonical event) (hdeaf : listening = false) :
      Refused listening element event (some h) .noExternalHandler

theorem Event.dispatch_eq_error_iff {listening : Bool} {registry : Registry} {canvas : Canvas}
    {element event : String} {e : CommandError} (args : List String) :
    dispatch listening registry canvas.widgets element event args = .error e ↔
      Refused listening element event ((registry.get? element).bind canvas.widget?) e := by
  rw [dispatch]
  cases registry.get? element with
  | none =>
    constructor
    · rintro ⟨⟩
      exact .element
    · rintro ⟨⟩
      rfl
  | some id =>
    rw [Option.bind_some, Canvas.widget?]
    simp only
    cases canvas.widgets[id.index]? with
    | none =>
      constructor
      · rintro ⟨⟩
        exact .element
      · rintro ⟨⟩
        rfl
    | some h =>
      simp only
      cases hcalls : h.handlers.filter fun handler => handler.event = canonical event with
      | nil =>
        have hnone : ∀ handler ∈ h.handlers, handler.event ≠ canonical event := by
          simpa using hcalls
        constructor
        · rintro ⟨⟩
          exact .handlers hnone
        · rintro (_ | _ | ⟨hmem, hevent, _⟩)
          · rfl
          · exact absurd hevent (hnone _ hmem)
      | cons handler rest =>
        have hfiltered : handler ∈ h.handlers.filter fun handler =>
            handler.event = canonical event := hcalls.symm ▸ List.mem_cons_self
        obtain ⟨hmem, hevent⟩ := List.mem_filter.mp hfiltered
        cases listening with
        | false =>
          constructor
          · rintro ⟨⟩
            exact .listener hmem (of_decide_eq_true hevent) rfl
          · rintro (_ | hnone | ⟨_, _, _⟩)
            · exact absurd (of_decide_eq_true hevent) (hnone _ hmem)
            · rfl
        | true =>
          constructor
          · rintro ⟨⟩
          · rintro (_ | hnone | ⟨_, _, hdeaf⟩)
            · exact absurd (of_decide_eq_true hevent) (hnone _ hmem)
            · cases hdeaf

/-! ### Sessions -/

namespace Session

variable {s s' : Session} {e : CommandError}

/-- Why a progress bar is not moved: it is not there, or is something else. -/
inductive ProgressRefused (element : String) : Option Handle → CommandError → Prop
  | element : ProgressRefused element none (.unknownElement element)
  | kind {h : Handle} (hnone : h.progress? = none) :
      ProgressRefused element (some h) (.notAProgressBar element)

theorem IsLinked.progressBar?_eq_error_iff (hs : s.IsLinked) (element : String) :
    s.progressBar? element = .error e ↔ ProgressRefused element (s.element? element) e := by
  rw [progressBar?, element?]
  cases hget : s.registry.get? element with
  | none =>
    constructor
    · rintro ⟨⟩
      exact .element
    · rintro ⟨⟩
      rfl
  | some id =>
    obtain ⟨h, hid⟩ := Option.isSome_iff_exists.mp (hs.named hget)
    have hwidget : s.stage.widget? id = some h := hid
    simp only [Option.bind_some, hwidget]
    cases hprogress : h.progress? with
    | none =>
      constructor
      · rintro ⟨⟩
        exact .kind hprogress
      · rintro ⟨⟩
        rfl
    | some progress =>
      constructor
      · rintro ⟨⟩
      · rintro (_ | hnone)
        simp [hprogress] at hnone

theorem IsLinked.execute_error_iff (hs : s.IsLinked) (element command : String)
    (args : List String) :
    (s.execute element command args).value = (.error e, s') ↔
      Command.Refused s.config element command args (s.element? element) e ∧ s' = s := by
  rw [element?, ← Command.dispatch_eq_error_iff (fun _ _ hget => hs.named hget), execute,
    Logged.bind_value, Command.execute_value]
  cases Command.dispatch s.config s.registry s.stage element command args with
  | error e' =>
    constructor
    · rintro ⟨⟩
      exact ⟨rfl, rfl⟩
    · rintro ⟨⟨⟩, rfl⟩
      rfl
  | ok result =>
    constructor
    · rintro ⟨⟩
    · rintro ⟨⟨⟩, -⟩

theorem IsLinked.setProgress_error_iff (hs : s.IsLinked) (element : String) (value : Float32)
    (animate : Bool) :
    (s.setProgress element value animate).value = (.error e, s') ↔
      ProgressRefused element (s.element? element) e ∧ s' = s := by
  rw [← hs.progressBar?_eq_error_iff, setProgress]
  cases s.progressBar? element with
  | error e' =>
    constructor
    · rintro ⟨⟩
      exact ⟨rfl, rfl⟩
    · rintro ⟨⟨⟩, rfl⟩
      rfl
  | ok id =>
    constructor
    · rintro ⟨⟩
    · rintro ⟨⟨⟩, -⟩

theorem invoke_error_iff (element event : String) (args : List String) :
    (s.invoke element event args).value = (.error e, s') ↔
      Event.Refused s.listening element event (s.element? element) e ∧ s' = s := by
  have hfound : s.element? element = (s.registry.get? element).bind s.stage.canvas.widget? := rfl
  rw [hfound, ← Event.dispatch_eq_error_iff args, invoke, Logged.bind_value,
    Event.invoke]
  cases Event.dispatch s.listening s.registry s.stage.canvas.widgets element event args with
  | error e' =>
    constructor
    · rintro ⟨⟩
      exact ⟨rfl, rfl⟩
    · rintro ⟨⟨⟩, rfl⟩
      rfl
  | ok calls =>
    constructor
    · rintro ⟨⟩
    · rintro ⟨⟨⟩, -⟩

/-- A command, a move of a progress bar and an event fail for the reasons listed and for no others,
and leave everything as it was: the scene, the widgets, their names, the slots, the animator, and
the calls that have been handed on. A text in particular is kept nowhere if it is not shown. -/
theorem Reachable.refused_unchanged (hs : Reachable s) :
    (∀ id text, (s.stage.canvas.showText id text).1 = false →
        (s.stage.canvas.showText id text).2 = s.stage.canvas) ∧
      (∀ element command args e s', (s.execute element command args).value = (.error e, s') ↔
        Command.Refused s.config element command args (s.element? element) e ∧ s' = s) ∧
      (∀ element value animate e s',
        (s.setProgress element value animate).value = (.error e, s') ↔
          ProgressRefused element (s.element? element) e ∧ s' = s) ∧
      ∀ element event args e s', (s.invoke element event args).value = (.error e, s') ↔
        Event.Refused s.listening element event (s.element? element) e ∧ s' = s := by
  have hlinked := hs.isLinked
  refine ⟨fun _ _ => Canvas.showText_false, ?_, ?_, ?_⟩
  · intro element command args e s'
    exact hlinked.execute_error_iff element command args
  · intro element value animate e s'
    exact hlinked.setProgress_error_iff element value animate
  · intro element event args e s'
    exact s.invoke_error_iff element event args

/-- A panel has nowhere to show a text, no value to be moved and declares no calls, and two numbers
are not enough to move it. -/
theorem refused_unchanged_panel :
    ∃ s, (Session.new {} {} {}).after (.loadDocument panel) = .ok s ∧
      (s.execute "b" "setText" ["x"]).value = (.error (.noTextSurface "b"), s) ∧
      (s.execute "b" "moveTo" ["1", "2"]).value = (.error (.missingArgument "moveTo" 2 "y"), s) ∧
      (s.setProgress "b" 1 true).value = (.error (.notAProgressBar "b"), s) ∧
      (s.invoke "b" "onClick" []).value = (.error (.noHandlers "b" "click"), s) := by
  have hvalue : ((Session.new {} {} {}).after (.loadDocument panel)).toOption.map (fun s =>
      (s.element? "b").any fun h => h.name = "b" ∧ h.textSurface = none ∧ h.progress? = none ∧
        h.handlers = [] ∧ s.config.defaultDuration = 2) = some true := by decide +kernel
  obtain ⟨s, hafter, hvalue⟩ := exists_of_toOption_map hvalue
  obtain ⟨h, hfound, hpanel⟩ := (Option.any_eq_true _ _).mp hvalue
  obtain ⟨hname, htext, hprogress, hhandlers, hduration⟩ := of_decide_eq_true hpanel
  obtain ⟨-, hexecute, hset, hinvoke⟩ :=
    Reachable.refused_unchanged (.after (.new {} {} {}) hafter)
  refine ⟨s, hafter, ?text, ?move, ?progress, ?event⟩
  case text =>
    have hcommand : Command.ofName? "setText" = some .setText := by decide +kernel
    refine (hexecute _ _ _ _ _).mpr ⟨?_, rfl⟩
    rw [hfound, ← hname]
    exact .surface hcommand rfl htext
  case move =>
    have hcommand : Command.ofName? "moveTo" = some .moveTo := by decide +kernel
    refine (hexecute _ _ _ _ _).mpr ⟨?_, rfl⟩
    rw [hfound]
    refine .arguments hcommand ?_
    rw [hduration]
    decide +kernel
  case progress =>
    refine (hset _ _ _ _ _).mpr ⟨?_, rfl⟩
    rw [hfound]
    exact .kind hprogress
  case event =>
    have hclick : Event.canonical "onClick" = "click" := by decide +kernel
    refine (hinvoke _ _ _ _ _).mpr ⟨?_, rfl⟩
    rw [hfound, ← hclick]
    refine .handlers ?_
    rw [hhandlers]
    intro handler hmem
    cases hmem

end Session

end Uiml
