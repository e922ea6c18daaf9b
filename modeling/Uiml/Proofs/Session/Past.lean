import Uiml.Proofs.Animation.Heading
import Uiml.Proofs.Session.Refusal

/-!
# The past of a session

Widgets live until the next clearing. The past of a session is all that has been done to its widgets
since the last one, by the operations that have led to it: commands, ticks, and loads that add to
what is there.

## Main definitions

* `Session.clears` — whether an operation takes the widgets away
* `Session.Past` — a session, and the actions that have been done since the last clearing
* `Stage.Grows` — widgets have been added to a stage, and nothing else has happened to it

## Main results

* `Session.Reachable.exists_past`, `Session.Past.run` — every reachable session has a past, and it
  goes on with every run
* `Session.after_grows` — a load without a clearing leaves the widgets alone that are there
-/

namespace Uiml

variable {w : WidgetId} {property : Property}

/-- A visit leaves the widgets alone that are there. -/
theorem Workbench.Visit.widget?_eq {bench : Workbench} {canvas : Canvas} {slots : Slots}
    {registry : Registry} (h : bench.Visit canvas slots registry)
    (hw : (bench.canvas.widget? w).isSome) : canvas.widget? w = bench.canvas.widget? w := by
  obtain ⟨handle, hhandle⟩ := Option.isSome_iff_exists.mp hw
  have hne : w ≠ ⟨bench.canvas.widgets.size⟩ := Canvas.ne_next (Canvas.widget?_lt hhandle)
  cases h with
  | passed | discarded => rfl
  | built => rw [Canvas.widget?_build, if_neg hne]
  | bound parent name kind outfit blueprint group index hbind =>
    rw [hbind, Slots.widget?_bind_of_ne hne, Canvas.widget?_build, if_neg hne]

/-- What is compiled leaves the widgets alone that are there. -/
theorem Workbench.compileAll_widget? {theme : Theme} {bench bench' : Workbench} {parent : NodeId}
    {es : List Element} (h : (compileAll theme bench parent es).run.value = .ok bench')
    (hw : (bench.canvas.widget? w).isSome) :
    bench'.canvas.widget? w = bench.canvas.widget? w :=
  compileAll_induction (p := fun between => between.canvas.widget? w = bench.canvas.widget? w)
    (fun hvisit hsame => ((visit_spec hvisit).widget?_eq (hsame ▸ hw)).trans hsame) es h rfl

/-- Widgets have been added to a stage, and nothing else has happened to it. -/
structure Stage.Grows (stage stage' : Stage) : Prop where
  animator : stage'.animator = stage.animator
  widgets : ∀ w, (stage.canvas.widget? w).isSome →
    stage'.canvas.widget? w = stage.canvas.widget? w

theorem Stage.Grows.refl (stage : Stage) : stage.Grows stage := ⟨rfl, fun _ _ => rfl⟩

theorem Stage.Grows.sameCourse {stage stage' : Stage} (h : stage.Grows stage')
    (hw : (stage.canvas.widget? w).isSome) : SameCourse w property stage stage' where
  value := Canvas.property?_congr (h.widgets w hw)
  track := by rw [h.animator]
  live := fun j hj => (h.widgets j hj).symm ▸ hj

namespace Session

variable {s s' t : Session} {op : Operation} {done more : List Happening}

/-- Whether an operation takes the widgets away: it is a clearing, or a load that begins with one.
A file that cannot be read is not loaded. -/
def clears (s : Session) : Operation → Bool
  | .clear => true
  | .load _ | .loadDocument _ => s.config.clearOnLoad
  | .loadFile path =>
    s.config.clearOnLoad && (s.slots.assets.files.readText path).toOption.isSome
  | _ => false

/-- A session that operations lead to, and the actions that have been done since the last
clearing. -/
inductive Past : List Happening → Session → Prop
  | new (config : Config) (files : Files) (bundles : Table String (List UInt8)) :
      Past [] (.new config files bundles)
  | after {done : List Happening} {s s' : Session} {op : Operation} (h : Past done s)
      (hafter : s.after op = .ok s') :
      Past (if s.clears op then [] else done ++ s.happenings op) s'

theorem Past.reachable (h : Past done s) : Reachable s := by
  induction h with
  | new config files bundles => exact .new config files bundles
  | after _ hafter ih => exact .after ih hafter

theorem Reachable.exists_past (h : Reachable s) : ∃ done, Past done s := by
  induction h with
  | new config files bundles => exact ⟨[], .new config files bundles⟩
  | after _ hafter ih =>
    obtain ⟨done, hpast⟩ := ih
    exact ⟨_, hpast.after hafter⟩

theorem clears_of_rebuilds (hop : op.rebuilds = false) : s.clears op = false := by
  cases op <;> first | rfl | cases hop

/-- The past goes on with every run. -/
theorem Past.run (h : Past done s) (hrun : Run s more t) : Past (done ++ more) t := by
  induction hrun with
  | nil => rwa [List.append_nil]
  | after _ hop hafter ih =>
    have hpast := ih.after hafter
    rwa [clears_of_rebuilds hop, if_neg Bool.false_ne_true, List.append_assoc] at hpast

/-! ### Operations that do not clear -/

theorem Loading.config (h : Loading s s') : s'.config = s.config := by
  cases h with
  | unread => rfl
  | refused => exact s.config_clearForLoad
  | compiled => exact s.config_clearForLoad

/-- The settings last. -/
theorem after_config (h : s.after op = .ok s') : s'.config = s.config := by
  cases hop : op.rebuilds with
  | true =>
    rcases after_of_rebuilds h hop with rfl | hloading
    · rw [clear_value]
    · exact hloading.config
  | false =>
    cases op <;> simp only [after] at h
    case load | loadFile | loadDocument | clear => cases hop
    case setProgress =>
      cases h
      rw [setProgress]
      split <;> rfl
    case invoke =>
      cases h
      rw [invoke, Logged.bind_value]
      split <;> rfl
    case changeBinding =>
      cases h
      rw [changeBinding]
      split <;> rfl
    case unbind =>
      cases h
      rw [unbind]
      split <;> rfl
    all_goals cases h; rfl

theorem Compiling.grows (h : Compiling s s') : s.stage.Grows s'.stage := by
  cases h with
  | refused => exact .refl s.stage
  | compiled root bench hbench => exact ⟨rfl, fun w hw => Workbench.compileAll_widget? hbench hw⟩

/-- What makes widgets or takes them away is a clearing, or none, and then the compiling of a
document or its refusal. -/
theorem after_compiling (h : s.after op = .ok s') (hop : op.rebuilds = true) :
    Compiling (if s.clears op then s.clear.value else s) s' := by
  cases op <;> simp only [after] at h
  case load source =>
    obtain ⟨result, houtcome, rfl⟩ := exists_of_map h
    exact s.clearForLoad_value ▸ load_compiling houtcome
  case loadDocument root =>
    obtain ⟨result, houtcome, rfl⟩ := exists_of_map h
    exact s.clearForLoad_value ▸ loadDocument_compiling houtcome
  case clear => cases h; exact .refused
  case loadFile path =>
    obtain ⟨result, houtcome, rfl⟩ := exists_of_map h
    rw [loadFile_value] at houtcome
    cases hread : s.slots.assets.files.readText path with
    | error fault =>
      -- nothing is cleared for a file that cannot be read
      rw [hread] at houtcome
      cases houtcome
      rw [clears, hread, Except.toOption, Option.isSome_none, Bool.and_false,
        if_neg Bool.false_ne_true]
      exact .refused
    | ok source =>
      rw [hread] at houtcome
      rw [clears, hread, Except.toOption, Option.isSome_some, Bool.and_true]
      exact s.clearForLoad_value ▸ load_compiling houtcome
  all_goals cases hop

/-- What makes widgets and does not clear, leaves those alone that are there. -/
theorem after_grows (h : s.after op = .ok s') (hop : op.rebuilds = true)
    (hclears : s.clears op = false) : s.stage.Grows s'.stage := by
  have hcompiling := after_compiling h hop
  rw [hclears, if_neg Bool.false_ne_true] at hcompiling
  exact hcompiling.grows

end Session

end Uiml
