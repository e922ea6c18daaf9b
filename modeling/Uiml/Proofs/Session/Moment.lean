import Uiml.Proofs.Session.Latest
import Uiml.Proofs.Session.Turn

/-!
# Moments

Between two operations a session is at rest. A span of time is lived through in beats: the
animations move, the steps that have come due are done one after the other, and the pictures that
have come are shown. A moment is a session at rest, or one with steps that are still to be done.
What is said of every moment is said of commands at once and of commands that come due alike, in
whatever order they are done within a span of time.

## Main definitions

* `Moment`, `Beat`, `Moment.Next` — what happens to a session, one thing at a time
* `Life` — the moments that a new session comes to, and how it has come there
* `Moment.happening?` — the action that is done in a beat
* `Moment.Does` — what a beat does to the stage, if it takes no widgets away

## Main results

* `Session.reachable_iff_life` — at rest, the moments are the reachable sessions
* `Life.tidy`, `Life.isLinked` — the books of the animator and the bindings are in order
* `Moment.Next.does`, `Moment.Next.animator_of_clears` — what a beat does to the stage
-/

namespace Uiml

/-- A session at rest, or one with what is left of the steps that have come due. -/
structure Moment where
  session : Session
  due : Option (List Step) := none

/-- What happens to a session next. -/
inductive Beat where
  | operation (op : Session.Operation)
  /-- Time passes, and steps come due. -/
  | time (dt : Float32)
  /-- The first of the steps that have come due is done. -/
  | step
  /-- All steps that have come due are done, and pictures that have come are shown. -/
  | close

/-- Whether time passes in a beat. -/
def Beat.passesTime : Beat → Bool
  | .time _ => true
  | _ => false

namespace Session

/-- Whether an operation lets time pass. -/
def Operation.passesTime : Operation → Bool
  | .tick _ => true
  | _ => false

/-- The session after a number of seconds, before the steps that are due then. -/
def passed (s : Session) (dt : Float32) : Session := { s with stage := s.moved dt }

/-- The session after a step that has come due. -/
def stepped (s : Session) (step : Step) : Session :=
  { s with stage := (step.run s.config s.registry s.stage).value }

/-- The session after the pictures that have come are shown. -/
def polled (s : Session) : Session :=
  let (slots, canvas) := (s.slots.poll s.stage.canvas).value.2
  s.withSlots slots canvas

/-- The session after steps that have come due. -/
def steppedThrough (s : Session) (due : List Step) : Session := due.foldl stepped s

end Session

namespace Moment

/-- The steps that have come due and are still to be done. -/
def left (m : Moment) : List Step := m.due.getD []

/-- One moment follows another. -/
inductive Next : Moment → Beat → Moment → Prop
  | operation {s s' : Session} {op : Session.Operation} (hop : op.passesTime = false)
      (h : s.after op = .ok s') : Next ⟨s, none⟩ (.operation op) ⟨s', none⟩
  | time (s : Session) (dt : Float32) :
      Next ⟨s, none⟩ (.time dt) ⟨s.passed dt, some (s.stage.animator.advance dt).1.due⟩
  | step (s : Session) (step : Step) (due : List Step) :
      Next ⟨s, some (step :: due)⟩ .step ⟨s.stepped step, some due⟩
  | close (s : Session) : Next ⟨s, some []⟩ .close ⟨s.polled, none⟩

end Moment

/-- What has happened to a session so far, each time with the moment that it has happened at. -/
abbrev Trace : Type := List (Moment × Beat)

/-- A moment that a new session comes to, and all that has happened before. -/
inductive Life : Trace → Moment → Prop
  | new (config : Config) (files : Files) (bundles : Table String (List UInt8)) :
      Life [] ⟨.new config files bundles, none⟩
  | next {trace : Trace} {m m' : Moment} {beat : Beat} (h : Life trace m)
      (hnext : m.Next beat m') : Life (trace ++ [(m, beat)]) m'

/-- What happens from one moment on to another. -/
inductive Moment.Course (m : Moment) : Trace → Moment → Prop
  | nil : Course m [] m
  | next {trace : Trace} {n n' : Moment} {beat : Beat} (h : Course m trace n)
      (hnext : n.Next beat n') : Course m (trace ++ [(n, beat)]) n'

variable {m m' n : Moment} {trace more : Trace} {beat : Beat} {s s' : Session} {due : List Step}

theorem Life.course (h : Life trace m) (hcourse : m.Course more n) : Life (trace ++ more) n := by
  induction hcourse with
  | nil => rwa [List.append_nil]
  | next _ hnext ih =>
    rw [← List.append_assoc]
    exact ih.next hnext

/-! ### Spans of time -/

namespace Session

theorem exists_of_passesTime {op : Operation} (hop : op.passesTime = true) :
    ∃ dt, op = .tick dt := by
  cases op <;> first | exact ⟨_, rfl⟩ | cases hop

theorem steppedThrough_eq (s : Session) (due : List Step) :
    s.steppedThrough due =
      { s with stage := (runSteps s.config s.registry s.stage due).value } := by
  rw [runSteps, Logged.foldlM_value]
  induction due generalizing s with
  | nil => rfl
  | cons step due ih => exact ih (s.stepped step)

/-- A span of time is its beats. -/
theorem tick_eq_polled (s : Session) (dt : Float32) :
    (s.tick dt).value =
      ((s.passed dt).steppedThrough (s.stage.animator.advance dt).1.due).polled := by
  rw [steppedThrough_eq]
  rfl

theorem after_wait_eq_polled (s : Session) (timeout : Span) :
    s.after (.wait timeout) = .ok s.polled := rfl

end Session

theorem Life.steps (h : Life trace ⟨s, some due⟩) :
    ∃ more, Life (trace ++ more) ⟨s.steppedThrough due, some []⟩ := by
  induction due generalizing s trace with
  | nil => exact ⟨[], by rwa [List.append_nil]⟩
  | cons step due ih =>
    obtain ⟨more, hmore⟩ := ih (h.next (.step s step due))
    rw [List.append_assoc] at hmore
    exact ⟨_, hmore⟩

theorem Session.Reachable.exists_life (hs : Session.Reachable s) :
    ∃ trace, Life trace ⟨s, none⟩ := by
  induction hs with
  | new config files bundles => exact ⟨[], .new config files bundles⟩
  | @after s s' op _ hafter ih =>
    obtain ⟨trace, hlife⟩ := ih
    by_cases hop : op.passesTime = true
    · obtain ⟨dt, rfl⟩ := Session.exists_of_passesTime hop
      obtain ⟨more, hmore⟩ := (hlife.next (.time s dt)).steps
      cases hafter
      rw [Session.tick_eq_polled]
      exact ⟨_, hmore.next (.close _)⟩
    · exact ⟨_, hlife.next (.operation (Bool.not_eq_true _ ▸ hop) hafter)⟩

/-- A moment comes out of a reachable session, at rest or within a span of time. -/
inductive Moment.Rooted : Moment → Prop
  | atRest {s : Session} (hs : s.Reachable) : Rooted ⟨s, none⟩
  | within {s : Session} (hs : s.Reachable) (dt : Float32) (done due : List Step)
      (hdue : (s.stage.animator.advance dt).1.due = done ++ due) :
      Rooted ⟨(s.passed dt).steppedThrough done, some due⟩

theorem Moment.Next.rooted (hnext : m.Next beat m') (h : m.Rooted) : m'.Rooted := by
  cases hnext with
  | operation hop hafter =>
    cases h with
    | atRest hs => exact .atRest (.after hs hafter)
  | time s dt =>
    cases h with
    | atRest hs => exact .within hs dt [] _ rfl
  | step s step due =>
    cases h with
    | within hs dt done _ hdue =>
      rw [List.append_cons] at hdue
      have hwithin := Rooted.within hs dt (done ++ [step]) due hdue
      rwa [Session.steppedThrough, List.foldl_append] at hwithin
  | close s =>
    cases h with
    | @within s hs dt done _ hdue =>
      rw [List.append_nil] at hdue
      have hafter : s.after (.tick dt) = .ok ((s.passed dt).steppedThrough done).polled := by
        rw [← hdue, ← Session.tick_eq_polled]
        rfl
      exact .atRest (.after hs hafter)

theorem Life.rooted (h : Life trace m) : m.Rooted := by
  induction h with
  | new config files bundles => exact .atRest (.new config files bundles)
  | next _ hnext ih => exact hnext.rooted ih

theorem Life.reachable (h : Life trace ⟨s, none⟩) : s.Reachable := by
  cases h.rooted with
  | atRest hs => exact hs

/-- At rest, what a new session comes to are the reachable sessions. -/
theorem Session.reachable_iff_life : s.Reachable ↔ ∃ trace, Life trace ⟨s, none⟩ :=
  ⟨Reachable.exists_life, fun ⟨_, h⟩ => h.reachable⟩

/-! ### What is in order at every moment -/

namespace Life

/-- At every moment the books of the animator are in order. -/
theorem tidy (h : Life trace m) : m.session.stage.animator.Tidy m.left := by
  induction h with
  | new => exact .clear {}
  | next _ hnext ih =>
    cases hnext with
    | operation _ hafter => exact (Session.after_effect hafter).tidy ih
    | time s dt =>
      have hmoved : (s.passed dt).stage.animator = (s.stage.animator.advance dt).2 :=
        Session.moved_animator dt
      rw [hmoved]
      exact ih.advance dt
    | step s step due => exact Step.run_tidy ih
    | close s => exact ih

/-- At every moment slots and widgets know of each other, and names lead to widgets. -/
theorem isLinked (h : Life trace m) : m.session.IsLinked := by
  induction h with
  | new config files bundles => exact Session.isLinked_new config files bundles
  | next _ hnext ih =>
    cases hnext with
    | operation _ hafter => exact ih.after hafter
    | time s dt =>
      exact ih.changes (.refl s.slots) (Session.applyUpdates_changes
        ⟨s.stage.canvas, (s.stage.animator.advance dt).2⟩ _) rfl
    | step s step due =>
      exact ih.changes (.refl s.slots) (step.run_changes s.config s.registry s.stage) rfl
    | close s => exact ih.after (s.after_wait_eq_polled ⟨0⟩)

end Life

/-! ### What a beat does -/

namespace Moment

/-- The command that is given in a beat, at once or because it has come due, with the name of its
element and its arguments. -/
def command? (m : Moment) : Beat → Option (String × String × List String)
  | .operation (.execute element name args) => some (element, name, args)
  | .step =>
    match m.left with
    | .command element name args :: _ => some (element, name, args)
    | _ => none
  | _ => none

/-- The action that is done in a beat. -/
def happening? (m : Moment) (beat : Beat) : Option Happening :=
  (m.command? beat).bind fun (element, name, args) =>
    (Step.command element name args).happening? m.session.config m.session.registry m.session.stage

/-- The way back of a bounce that begins in a beat, and the time that it takes. -/
def wayBack? (m : Moment) (beat : Beat) : Option (WidgetId × Float32) :=
  match beat, m.left with
  | .step, .settle id duration :: _ => some (id, duration)
  | _, _ => none

/-- Whether a beat takes the widgets away. -/
def clears (m : Moment) : Beat → Bool
  | .operation op => m.session.clears op
  | _ => false

/-- What a beat does to the stage, if it takes no widgets away. -/
inductive Does (m : Moment) : Beat → Stage → Prop
  | acted {beat : Beat} {id : WidgetId} {action : Action} {ran : Logged Stage}
      (h : m.happening? beat = some ⟨m.session.stage, id, action⟩)
      (hrun : action.run m.session.config id m.session.stage = .ok ran)
      (hlive : (m.session.stage.canvas.widget? id).isSome) : Does m beat ran.value
  | cameBack {beat : Beat} {id : WidgetId} {duration : Float32}
      (h : m.wayBack? beat = some (id, duration)) :
      Does m beat ((Step.settle id duration).run m.session.config m.session.registry
        m.session.stage).value
  | moved (dt : Float32) (h : m.left = []) : Does m (.time dt) (m.session.moved dt)
  | aside {beat : Beat} {stage : Stage} (hhappening : m.happening? beat = none)
      (hback : m.wayBack? beat = none) (htime : beat.passesTime = false)
      (h : m.session.stage.Aside stage) : Does m beat stage

theorem wayBack?_of_command? {command : String × String × List String}
    (h : m.command? beat = some command) : m.wayBack? beat = none := by
  unfold command? at h
  unfold wayBack?
  split at h
  · rfl
  · split at h
    · next hleft => rw [hleft]
    · cases h
  · cases h

theorem passesTime_of_command? {command : String × String × List String}
    (h : m.command? beat = some command) : beat.passesTime = false := by
  cases beat with
  | time dt => cases h
  | operation | step | close => rfl

theorem passesTime_of_wayBack? {back : WidgetId × Float32} (h : m.wayBack? beat = some back) :
    beat.passesTime = false := by
  cases beat with
  | time dt => cases h
  | operation | step | close => rfl

theorem exists_of_happening? {happening : Happening} (h : m.happening? beat = some happening) :
    ∃ command, m.command? beat = some command := by
  obtain ⟨command, hcommand, -⟩ := Option.bind_eq_some_iff.mp h
  exact ⟨command, hcommand⟩

theorem happening?_of_wayBack? {back : WidgetId × Float32} (h : m.wayBack? beat = some back) :
    m.happening? beat = none := by
  cases hhappening : m.happening? beat with
  | none => rfl
  | some happening =>
    obtain ⟨command, hcommand⟩ := exists_of_happening? hhappening
    rw [wayBack?_of_command? hcommand] at h
    cases h

/-- A command comes to an action, or to nothing. -/
theorem does_of_command? {element name : String} {args : List String}
    (h : m.command? beat = some (element, name, args)) (hlinked : m.session.IsLinked) :
    m.Does beat ((Step.command element name args).run m.session.config m.session.registry
      m.session.stage).value := by
  have hhappening : m.happening? beat = (Step.command element name args).happening?
      m.session.config m.session.registry m.session.stage := by rw [happening?, h, Option.bind_some]
  rcases Step.run_command m.session.config m.session.registry m.session.stage element name args with
    ⟨hnone, hstays⟩ | ⟨id, action, ran, hsome, hrun, hvalue⟩
  · rw [hstays]
    exact .aside (hhappening.trans hnone) (wayBack?_of_command? h) (passesTime_of_command? h)
      (.linked .refl)
  · rw [hvalue]
    refine .acted (hhappening.trans hsome) hrun ?_
    obtain ⟨deed, hdeed, hsame⟩ := Option.map_eq_some_iff.mp hsome
    cases hsame
    exact hlinked.named (Command.get?_of_deed? hdeed)

theorem happening?_of_acts {op : Session.Operation} (hacts : op.acts = false) (m : Moment) :
    m.happening? (.operation op) = none := by
  cases op <;> first | rfl | cases hacts

/-- A beat that takes no widgets away does an action, begins the way back of a bounce, lets time
pass, or does nothing of the kind. -/
theorem Next.does (hnext : m.Next beat m') (hclears : m.clears beat = false)
    (htidy : m.session.stage.animator.Tidy m.left) (hlinked : m.session.IsLinked) :
    m.Does beat m'.session.stage := by
  cases hnext with
  | @operation s s' op hop hafter =>
    have haside {stage : Stage} (hacts : op.acts = false) (h : s.stage.Aside stage) :
        Does ⟨s, none⟩ (.operation op) stage :=
      .aside (happening?_of_acts hacts _) rfl rfl h
    cases hrebuilds : op.rebuilds with
    | true =>
      exact haside (Session.acts_of_rebuilds hrebuilds)
        (.grown (Session.after_grows hafter hrebuilds hclears))
    | false =>
      cases Session.after_effect hafter with
      | loaded hloads => exact absurd (hrebuilds.symm.trans hloads) Bool.false_ne_true
      | cleared => cases hrebuilds
      | executed element name args =>
        have hcommand : command? ⟨s, none⟩ (.operation (.execute element name args)) =
            some (element, name, args) := rfl
        exact does_of_command? hcommand hlinked
      | ticked dt => cases hop
      | scheduled delay element name args =>
        exact haside rfl (.scheduled delay element name args)
      | progressed element value animate =>
        refine haside rfl ?_
        rw [Session.setProgress]
        cases s.progressBar? element with
        | error e => exact .linked .refl
        | ok id => exact .progressed id value _
      | linked hacts hanimator hcanvas =>
        have hlinks : s.stage.Aside ⟨s'.stage.canvas, s.stage.animator⟩ := .linked hcanvas
        rw [← hanimator] at hlinks
        exact haside hacts hlinks
  | time s dt => exact .moved dt rfl
  | step s step due =>
    cases step with
    | tween widget property target duration =>
      exact absurd List.mem_cons_self (htidy.noTween widget property target duration)
    | settle id duration => exact .cameBack rfl
    | command element name args =>
      have hcommand : command? ⟨s, some (.command element name args :: due)⟩ .step =
          some (element, name, args) := rfl
      exact does_of_command? hcommand hlinked
  | close s =>
    exact .aside rfl rfl rfl (.linked (s.slots.poll_displays s.stage.canvas).links)

/-- A way back that begins is taken from what is left to be done. -/
theorem Next.left_of_wayBack? (hnext : m.Next beat m') {id : WidgetId} {duration : Float32}
    (h : m.wayBack? beat = some (id, duration)) : m.left = .settle id duration :: m'.left := by
  cases hnext with
  | operation | time | close => cases h
  | step s step due =>
    cases step with
    | settle id' duration' =>
      cases h
      rfl
    | tween | command => cases h

/-- With the widgets, all that goes on with them is taken away. -/
theorem Next.animator_of_clears (hnext : m.Next beat m') (hclears : m.clears beat = true) :
    m'.session.stage.animator = m.session.stage.animator.clear := by
  cases hnext with
  | @operation s s' op hop hafter =>
    have hcleared : s.clears op = true := hclears
    have hrebuilds : op.rebuilds = true := by
      cases hop' : op.rebuilds with
      | true => rfl
      | false => rw [Session.clears_of_rebuilds hop'] at hcleared; cases hcleared
    have hcompiling := Session.after_compiling hafter hrebuilds
    rw [hcleared, if_pos rfl] at hcompiling
    rw [hcompiling.grows.animator, Session.clear_value]
  | time | step | close => cases hclears

end Moment

end Uiml
