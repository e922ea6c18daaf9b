import Uiml.Proofs.Animation.Addressed
import Uiml.Proofs.Session.Past

/-!
# The last word

Some actions have a say in a matter, such as where the scale of a widget ends up, and others have
not. If an action that has a say settles the matter, and everything else leaves it as it is, then in
every session the matter is as the last action with a say in the past of the session has settled it.

## Main definitions

* `latest?` — what the last happening of a history says
* `Stage.Aside` — what goes on besides actions and time
* `Session.Settles` — what happenings say is so, and stays so until another one says something
* `Session.AsLatest` — what the last happening with a say says is so

## Main results

* `Session.Settles.step`, `Session.Settles.effect` — steps and operations go on so, with the history
* `Session.Past.latest` — so it is in every session, with its past
-/

namespace Uiml

variable {α : Type} {word : Happening → Option α} {v : α} {done : List Happening}

/-- What the last happening says that has a say. -/
def latest? (word : Happening → Option α) (done : List Happening) : Option α :=
  (done.filterMap word).getLast?

theorem latest?_append (word : Happening → Option α) (done more : List Happening) :
    latest? word (done ++ more) = (latest? word more).or (latest? word done) := by
  rw [latest?, latest?, latest?, List.filterMap_append, List.getLast?_append]

theorem latest?_singleton (word : Happening → Option α) (happening : Happening) :
    latest? word [happening] = word happening := by
  rw [latest?, List.filterMap_cons]
  cases word happening <;> rfl

theorem exists_of_latest? (h : latest? word done = some v) :
    ∃ happening ∈ done, word happening = some v :=
  List.mem_filterMap.mp (List.mem_of_getLast? h)

theorem latest?_eq_none (h : ∀ happening ∈ done, word happening = none) :
    latest? word done = none := by
  rw [latest?, List.filterMap_eq_nil_iff.mpr h, List.getLast?_nil]

namespace Stage

/-- What goes on besides actions, ways back of bounces, and time: slots show what they have, widgets
are added, commands are put off, and progress bars are moved. -/
inductive Aside (stage : Stage) : Stage → Prop
  | linked {canvas : Canvas} (h : Canvas.Links stage.canvas canvas) :
      Aside stage ⟨canvas, stage.animator⟩
  | grown {stage' : Stage} (h : stage.Grows stage') : Aside stage stage'
  | scheduled (delay : Float32) (element command : String) (args : List String) :
      Aside stage ⟨stage.canvas, stage.animator.schedule delay (.command element command args)⟩
  | progressed (id : WidgetId) (value duration : Float32) :
      Aside stage (stage.animate id .progress (.scalar value) duration).value

variable {stage stage' : Stage} {w : WidgetId} {property : Property}

/-- All that may be touched is progress. -/
theorem Aside.sameCourse (h : stage.Aside stage') (hproperty : property ≠ .progress)
    (hw : (stage.canvas.widget? w).isSome) : SameCourse w property stage stage' := by
  cases h with
  | linked h => exact ⟨h.property?_eq, rfl, h.keepsWidgets⟩
  | grown h => exact h.sameCourse hw
  | scheduled => exact ⟨rfl, rfl, fun _ hj => hj⟩
  | progressed id value duration =>
    exact animate_sameCourse (fun he => hproperty (congrArg Prod.snd he).symm) _ _

end Stage

namespace Session

variable {s t : Session} {config : Config} {registry : Registry} {q : α → Stage → Prop}
  {stage : Stage} {due : List Step}

/-- What a happening says is so afterwards, and stays so whatever happens until another one says
something. -/
structure Settles (config : Config) (word : Happening → Option α) (q : α → Stage → Prop) :
    Prop where
  acted {v : α} {stage : Stage} {id : WidgetId} {action : Action} {ran : Logged Stage}
    (h : action.run config id stage = .ok ran) (hlive : (stage.canvas.widget? id).isSome)
    (hword : word ⟨stage, id, action⟩ = some v) : q v ran.value
  passed {v : α} {stage : Stage} {id : WidgetId} {action : Action} {ran : Logged Stage}
    (h : action.run config id stage = .ok ran) (hlive : (stage.canvas.widget? id).isSome)
    (hword : word ⟨stage, id, action⟩ = none) (hq : q v stage) : q v ran.value
  cameBack {v : α} {stage : Stage} (registry : Registry) (id : WidgetId) (duration : Float32)
    (hq : q v stage) : q v ((Step.settle id duration).run config registry stage).value
  moved {v : α} {s : Session} (dt : Float32) (htidy : s.stage.animator.Tidy [])
    (hq : q v s.stage) : q v (s.moved dt)
  aside {v : α} {stage stage' : Stage} (h : stage.Aside stage') (hq : q v stage) : q v stage'

/-- The stage is as the last happening with a say has it. -/
def AsLatest (word : Happening → Option α) (q : α → Stage → Prop) (done : List Happening)
    (stage : Stage) : Prop :=
  ∀ v, latest? word done = some v → q v stage

/-- A command has a say, or leaves things as they are. -/
theorem Settles.command (hq : Settles config word q) {element name : String} {args : List String}
    (hnames : registry.Leads stage.canvas) (h : AsLatest word q done stage) :
    AsLatest word q (done ++ ((Step.command element name args).happening? config registry
      stage).toList) ((Step.command element name args).run config registry stage).value := by
  rcases Step.run_command config registry stage element name args with
    ⟨hnone, hrun⟩ | ⟨id, action, ran, hsome, hran, hrun⟩
  · rw [hnone, hrun, Option.toList_none, List.append_nil]
    exact h
  · obtain ⟨deed, hdeed, hhappening⟩ := Option.map_eq_some_iff.mp hsome
    cases hhappening
    have hlive := hnames element deed.1 (Command.get?_of_deed? hdeed)
    rw [hsome, hrun, Option.toList_some]
    intro v hlast
    rw [latest?_append, latest?_singleton] at hlast
    cases hword : word ⟨stage, deed.1, deed.2⟩ with
    | some new =>
      rw [hword, Option.some_or] at hlast
      cases hlast
      exact hq.acted hran hlive hword
    | none =>
      rw [hword, Option.none_or] at hlast
      exact hq.passed hran hlive hword (h v hlast)

theorem Settles.step (hq : Settles config word q) {step : Step}
    (htidy : stage.animator.Tidy (step :: due)) (hnames : registry.Leads stage.canvas)
    (h : AsLatest word q done stage) :
    AsLatest word q (done ++ (step.happening? config registry stage).toList)
      (step.run config registry stage).value := by
  cases step with
  | tween widget property target duration =>
    exact absurd List.mem_cons_self (htidy.noTween widget property target duration)
  | settle id duration =>
    rw [Step.happening?, Option.toList_none, List.append_nil]
    exact fun v hlast => hq.cameBack registry id duration (h v hlast)
  | command element name args => exact hq.command hnames h

theorem Settles.tick (hq : Settles s.config word q) (htidy : s.stage.animator.Tidy [])
    (hnames : s.registry.Leads s.stage.canvas) (h : AsLatest word q done s.stage) (dt : Float32) :
    AsLatest word q (done ++ s.happenings (.tick dt)) (s.tick dt).value.stage := by
  -- the names lead to widgets at every step, and the books of the animator are in order
  have hsteps := runSteps_history s.config s.registry
    (p := fun done stage due => stage.animator.Tidy due ∧ s.registry.Leads stage.canvas ∧
      AsLatest word q done stage)
    (fun {_ stage step _} ⟨htidy, hnames, h⟩ => ⟨Step.run_tidy htidy,
      fun name id hget => (step.run_changes s.config s.registry stage).keepsSlots.keepsWidgets id
        (hnames name id hget), hq.step htidy hnames h⟩)
    (s.stage.animator.advance dt).1.due done (s.moved dt)
    ⟨by rw [moved_animator]; exact htidy.advance dt,
      fun name id hget => moved_keepsWidgets dt id (hnames name id hget),
      fun v hlast => hq.moved dt htidy (h v hlast)⟩
  have hpoll := s.slots.poll_displays (runSteps s.config s.registry (s.moved dt)
    (s.stage.animator.advance dt).1.due).value.canvas
  exact fun v hlast => hq.aside (.linked hpoll.links) (hsteps.2.2 v hlast)

/-- An operation that neither makes nor takes away widgets goes on with the history. -/
theorem Settles.effect {op : Operation} (hq : Settles s.config word q) (heffect : Effect s op t)
    (hop : op.rebuilds = false) (htidy : s.stage.animator.Tidy [])
    (hnames : s.registry.Leads s.stage.canvas) (h : AsLatest word q done s.stage) :
    AsLatest word q (done ++ s.happenings op) t.stage := by
  cases heffect with
  | loaded hloads => exact absurd (hop.symm.trans hloads) Bool.false_ne_true
  | cleared => cases hop
  | executed element command args => exact hq.command hnames h
  | ticked dt => exact hq.tick htidy hnames h dt
  | scheduled delay element command args =>
    rw [happenings_of_acts rfl, List.append_nil]
    exact fun v hlast => hq.aside (.scheduled delay element command args) (h v hlast)
  | progressed element value animate =>
    rw [happenings_of_acts rfl, List.append_nil, setProgress]
    cases s.progressBar? element with
    | error e => exact h
    | ok id => exact fun v hlast => hq.aside (.progressed id value _) (h v hlast)
  | linked hacts hanimator hcanvas =>
    rw [happenings_of_acts hacts, List.append_nil]
    intro v hlast
    have hlinked := hq.aside (.linked hcanvas) (h v hlast)
    rwa [← hanimator] at hlinked

/-- What is settled by actions is as the last action of the past with a say has settled it. -/
theorem Past.latest (hpast : Past done s) (hq : Settles s.config word q) :
    AsLatest word q done s.stage := by
  induction hpast with
  | new => exact fun v hlast => nomatch hlast
  | @after done s s' op hpast hafter ih =>
    rw [after_config hafter] at hq
    cases hclears : s.clears op with
    | true => exact fun v hlast => nomatch hlast
    | false =>
      rw [if_neg Bool.false_ne_true]
      cases hop : op.rebuilds with
      | true =>
        rw [happenings_of_acts (acts_of_rebuilds hop), List.append_nil]
        exact fun v hlast => hq.aside (.grown (after_grows hafter hop hclears)) (ih hq v hlast)
      | false =>
        exact hq.effect (after_effect hafter) hop hpast.reachable.tidy
          (fun _ _ hget => hpast.reachable.isLinked.named hget) (ih hq)

end Session

end Uiml
