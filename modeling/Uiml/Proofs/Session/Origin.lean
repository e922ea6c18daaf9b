import Uiml.Proofs.Build.Declared
import Uiml.Proofs.Session.Moment
import Uiml.Proofs.Session.Structure

/-!
# Where widgets come from

Every widget that there is at a moment has been made for an element of a document, by a load since
which the widgets have not been taken away. What it can be restored to stays with it all the time:
commands, animations, slots, names that come to lead to other widgets, and loads that clear nothing
leave it alone.

## Main definitions

* `Handle.Lasts` — something stays with a widget, whatever is done to it
* `Handle.origin` — the state that a widget can be restored to, which lasts
* `Moment.Made` — for which element a widget has been made, and how it was right after

## Main results

* `Life.exists_made` — every widget has been made
* `Moment.Made.map_widget?`, `Moment.Made.exists_home` — what has stayed with it, and what that was
-/

namespace Uiml

open Element (Encounter encountersAll)

/-- The state that a widget can be restored to, and whether it is a switch. -/
def Handle.origin (h : Handle) : Home × Bool := (h.home, h.isOn?.isSome)

/-- Something stays with a widget, whatever is done to it and whatever slot it is bound to. -/
structure Handle.Lasts {α : Type} (view : Handle → α) : Prop where
  change : ∀ {canvas canvas' : Canvas} {id : WidgetId}, Canvas.Change id canvas canvas' →
    ∀ w, (canvas'.widget? w).map view = (canvas.widget? w).map view
  stem : ∀ h : Handle, view h.stem = view h

namespace Handle.Lasts

variable {α : Type} {view : Handle → α} {canvas canvas' : Canvas}

theorem changes (hview : Lasts view) (h : canvas.Changes canvas') (w : WidgetId) :
    (canvas'.widget? w).map view = (canvas.widget? w).map view :=
  reflTransGen_preserves
    (p := fun between => (between.widget? w).map view = (canvas.widget? w).map view)
    (fun ⟨_, hchange⟩ hsame => (hview.change hchange w).trans hsame) h rfl

theorem links (hview : Lasts view) (h : canvas.Links canvas') (w : WidgetId) :
    (canvas'.widget? w).map view = (canvas.widget? w).map view := by
  have hstem := congrArg (Option.map view) (h.stem (j := w))
  rw [Option.map_map, Option.map_map] at hstem
  have hview' : view ∘ Handle.stem = view := funext hview.stem
  rwa [hview'] at hstem

end Handle.Lasts

namespace Canvas

variable {canvas canvas' : Canvas} {id w : WidgetId}

/-- What stays with the widget of an id. -/
def origin? (canvas : Canvas) (w : WidgetId) : Option (Home × Bool) :=
  (canvas.widget? w).map Handle.origin

theorem isSome_origin? : (canvas.origin? w).isSome = (canvas.widget? w).isSome :=
  Option.isSome_map

/-- A switch that is turned is a switch all the same. -/
theorem Change.origin?_eq (h : Change id canvas canvas') :
    canvas'.origin? w = canvas.origin? w := by
  cases h with
  | position | scale | alpha | interactable =>
    refine map_widget?_update Handle.origin ?_ w
    exact fun _ _ => rfl
  | toggle isOn =>
    rw [setToggle]
    split
    · next checkmark wasOn group hparts =>
      -- the parts are made anew, but they are those of a switch again
      refine map_widget?_update Handle.origin (fun h hid => ?_) w
      have hswitch : h.parts = .toggle checkmark wasOn group := by simpa [hid] using hparts
      simp [Handle.origin, Handle.isOn?, hswitch]
    · rfl
  | progress value =>
    rw [setProgress]
    split
    · next bar hparts =>
      refine map_widget?_update Handle.origin (fun h hid => ?_) w
      have hbar : h.parts = .progressBar bar := by simpa [hid] using hparts
      simp [Handle.origin, Handle.isOn?, hbar]
    · rfl
  | text =>
    rw [showText]
    split
    · refine map_widget?_update Handle.origin ?_ w
      exact fun _ _ => rfl
    · rfl
  | image =>
    rw [showImage]
    split
    · refine map_widget?_update Handle.origin ?_ w
      exact fun _ _ => rfl
    · rfl

/-- A widget that was not there before has been added for an encounter. -/
theorem GrownBy.exists_encounter {met : List Encounter} (hg : canvas.GrownBy met canvas')
    (hnew : canvas.widget? w = none) (hlive : (canvas'.widget? w).isSome) :
    ∃ m ∈ met, m.isKept = true ∧ m.widget = w := by
  obtain ⟨h, hid⟩ := Option.isSome_iff_exists.mp hlive
  have hlt := widget?_lt hid
  have hle : canvas.widgets.size ≤ w.index := Array.getElem?_eq_none_iff.mp hnew
  rw [hg.size] at hlt
  have hids : w ∈ (met.filter Encounter.isKept).map Encounter.widget := by
    rw [hg.ids]
    refine List.mem_map.mpr ⟨w.index, List.mem_range'_1.mpr ⟨hle, hlt⟩, rfl⟩
  obtain ⟨m, hm, rfl⟩ := List.mem_map.mp hids
  obtain ⟨hmem, hkept⟩ := List.mem_filter.mp hm
  exact ⟨m, hmem, hkept, rfl⟩

end Canvas

theorem Handle.lasts_origin : Handle.Lasts Handle.origin :=
  ⟨fun hchange _ => hchange.origin?_eq, fun _ => rfl⟩

/-- Whether a beat makes widgets, or takes them away. -/
def Beat.rebuilds : Beat → Bool
  | .operation op => op.rebuilds
  | _ => false

namespace Session

variable {s s' : Session} {op : Operation} {root : Element}
  {load : Building (Except LoadError CompileStats × Session)} {stats : CompileStats}

theorem clears_load (s : Session) {op : Operation}
    (hop : s.clears op = s.config.clearOnLoad) :
    s.clearForLoad.value = if s.clears op then s.clear.value else s := by
  rw [hop, clearForLoad_value]

/-- A load either leaves what there is after the clearing, or tells what it has counted. -/
theorem LoadsDocument.cases {result : Except LoadError CompileStats × Session}
    (hload : LoadsDocument s root load) (h : load.run.value = .ok result) :
    result.2 = s.clearForLoad.value ∨ ∃ stats, load.run.value = .ok (.ok stats, result.2) := by
  rw [h]
  rw [hload.value, compile_value] at h
  split at h
  · obtain ⟨bench, -, rfl⟩ := exists_of_map h
    exact .inr ⟨bench.stats, rfl⟩
  · cases h
    exact .inl rfl

/-- To make widgets or to take them away is a clearing, or none, and then maybe the load of a
document. -/
theorem after_loads (h : s.after op = .ok s') (hop : op.rebuilds = true) :
    s' = (if s.clears op then s.clear.value else s) ∨
      ∃ root load stats, s.clearForLoad.value = (if s.clears op then s.clear.value else s) ∧
        LoadsDocument s root load ∧ load.run.value = .ok (.ok stats, s') := by
  -- what a document that is loaded comes to is the same for all ways to load it
  have hloads {root load} (hload : LoadsDocument s root load)
      (hclears : s.clears op = s.config.clearOnLoad) {result} (hvalue : load.run.value = .ok result)
      (hs' : result.2 = s') :
      s' = (if s.clears op then s.clear.value else s) ∨
        ∃ root load stats, s.clearForLoad.value = (if s.clears op then s.clear.value else s) ∧
          LoadsDocument s root load ∧ load.run.value = .ok (.ok stats, s') := by
    rw [← hs', ← clears_load s hclears]
    rcases hload.cases hvalue with hsame | ⟨stats, hstats⟩
    · exact .inl hsame
    · exact .inr ⟨root, load, stats, rfl, hload, hstats⟩
  cases op <;> simp only [after] at h
  case load source =>
    obtain ⟨result, houtcome, hs'⟩ := exists_of_map h
    cases hparse : Markup.parse source with
    | error e =>
      rw [load_value, hparse] at houtcome
      cases houtcome
      exact .inl (hs'.symm.trans (clears_load s rfl))
    | ok root => exact hloads (.text hparse) rfl houtcome hs'
  case loadDocument root =>
    obtain ⟨result, houtcome, hs'⟩ := exists_of_map h
    exact hloads .tree rfl houtcome hs'
  case clear =>
    cases h
    exact .inl rfl
  case loadFile path =>
    obtain ⟨result, houtcome, hs'⟩ := exists_of_map h
    cases hread : s.slots.assets.files.readText path with
    | error fault =>
      rw [loadFile_value, hread] at houtcome
      cases houtcome
      rw [clears, hread]
      simpa [Except.toOption] using .inl hs'.symm
    | ok source =>
      have hclears : s.clears (.loadFile path) = s.config.clearOnLoad := by
        simp [clears, hread, Except.toOption]
      cases hparse : Markup.parse source with
      | error e =>
        rw [loadFile_value, hread] at houtcome
        simp only [load_value, hparse] at houtcome
        cases houtcome
        exact .inl (hs'.symm.trans (clears_load s hclears))
      | ok root => exact hloads (.file hread hparse) hclears houtcome hs'
  all_goals cases hop

/-- The widgets that a load makes are as they have been built. -/
theorem LoadsDocument.pristine (hload : LoadsDocument s root load)
    (h : load.run.value = .ok (.ok stats, s')) {m : Encounter}
    (hmet : m ∈ encountersAll none s.clearForLoad.value.stage.canvas.widgets.size root.children)
    (hkept : m.isKept = true) :
    ∃ first, s'.stage.widget? m.widget = some first ∧ first.Pristine m.element := by
  obtain ⟨bench, rfl, hwalk⟩ := hload.exists_walk h
  exact Workbench.walk_pristine (root.numbered_children _) hwalk m hmet hkept

/-- A load leaves the canvas grown from the one after the clearing. -/
theorem LoadsDocument.grownBy (hs : Reachable s) (hload : LoadsDocument s root load)
    (h : load.run.value = .ok (.ok stats, s')) :
    s.clearForLoad.value.stage.canvas.GrownBy
      (encountersAll none s.clearForLoad.value.stage.canvas.widgets.size root.children)
      s'.stage.canvas := by
  obtain ⟨bench, rfl, hwalk⟩ := hload.exists_walk h
  have horderly : s.clearForLoad.value.workbench.canvas.Orderly := hs.clearForLoad.orderly
  exact Canvas.GrownBy.walk horderly (root.numbered_children _) hwalk

end Session

namespace Moment

variable {m m' : Moment} {beat : Beat} {w : WidgetId} {e : Element} {first : Handle} {α : Type}
  {view : Handle → α}

/-- What makes no widgets and takes none away leaves alone what stays with them. -/
theorem Next.map_widget?_of_not_rebuilds (hnext : m.Next beat m') (hview : Handle.Lasts view)
    (hbeat : beat.rebuilds = false) :
    (m'.session.stage.canvas.widget? w).map view = (m.session.stage.canvas.widget? w).map view := by
  cases hnext with
  | @operation s s' op hop hafter =>
    have hop' : op.rebuilds = false := hbeat
    cases Session.after_effect hafter with
    | loaded hrebuilds => rw [hop'] at hrebuilds; cases hrebuilds
    | cleared => cases hop'
    | executed element name args => exact hview.changes (s.execute_changes element name args) w
    | scheduled => rfl
    | progressed element value animate =>
      exact hview.changes (s.setProgress_changes element value animate) w
    | ticked dt => exact hview.changes (s.tick_changes dt) w
    | linked _ _ hlinks => exact hview.links hlinks w
  | time s dt => exact hview.changes (Session.applyUpdates_changes ..) w
  | step s step due => exact hview.changes (step.run_changes ..) w
  | close s => exact hview.changes (s.slots.poll_displays s.stage.canvas).changes w

/-- What stays with a widget lasts as long as widgets are not taken away. -/
theorem Next.map_widget? (hnext : m.Next beat m') (hview : Handle.Lasts view)
    (hclears : m.clears beat = false)
    (hlive : (m.session.stage.canvas.widget? w).isSome) :
    (m'.session.stage.canvas.widget? w).map view = (m.session.stage.canvas.widget? w).map view := by
  cases hbeat : beat.rebuilds with
  | false => exact hnext.map_widget?_of_not_rebuilds hview hbeat
  | true =>
    cases hnext with
    | operation hop hafter =>
      -- widgets are added behind those that there are
      have hgrows := Session.after_grows hafter hbeat hclears
      exact congrArg (Option.map view) (hgrows.widgets w hlive)
    | time | step | close => cases hbeat

/-- A widget of a moment has been made for an element by a load since which the widgets have not
been taken away, and this is how it was right after the load. -/
inductive Made (w : WidgetId) (e : Element) (first : Handle) : Moment → Prop
  | loaded {s s' : Session} {root : Element}
      {load : Building (Except LoadError CompileStats × Session)} {stats : CompileStats}
      {above : Option WidgetId} (hs : s.Reachable) (hload : s.LoadsDocument root load)
      (h : load.run.value = .ok (.ok stats, s'))
      (hmet : ⟨e, above, w⟩ ∈
        encountersAll none s.clearForLoad.value.stage.canvas.widgets.size root.children)
      (hkept : e.fate.isKept = true) (hfirst : s'.stage.widget? w = some first) :
      Made w e first ⟨s', none⟩
  | next {m m' : Moment} {beat : Beat} (h : Made w e first m) (hnext : m.Next beat m')
      (hclears : m.clears beat = false) : Made w e first m'

namespace Made

/-- What stays with a widget has stayed with it. -/
theorem map_widget? (h : m.Made w e first) (hview : Handle.Lasts view) :
    (m.session.stage.canvas.widget? w).map view = some (view first) := by
  induction h with
  | loaded _ _ _ _ _ hfirst => exact congrArg (Option.map view) hfirst
  | next _ hnext hclears ih =>
    refine (hnext.map_widget? hview hclears ?_).trans ih
    rw [← Option.isSome_map (f := view), ih, Option.isSome_some]

theorem origin?_eq (h : m.Made w e first) :
    m.session.stage.canvas.origin? w = some first.origin := h.map_widget? Handle.lasts_origin

theorem live (h : m.Made w e first) : (m.session.stage.canvas.widget? w).isSome := by
  rw [← Canvas.isSome_origin?, h.origin?_eq, Option.isSome_some]

/-- Right after the load the widget was as it had been built. -/
theorem pristine (h : m.Made w e first) : first.Pristine e := by
  induction h with
  | loaded hs hload hvalue hmet hkept hfirst =>
    obtain ⟨h, hid, hpristine⟩ := hload.pristine hvalue hmet hkept
    rw [hfirst] at hid
    exact Option.some.inj hid ▸ hpristine
  | next _ _ _ ih => exact ih

/-- What a widget can be restored to is what it was made with. -/
theorem exists_home (h : m.Made w e first) :
    ∃ handle, m.session.stage.canvas.widget? w = some handle ∧
      handle.home = ⟨first.transform, first.alpha, e.declaredOn? first.kind⟩ ∧
      handle.home.toggleOn.isSome = handle.isOn?.isSome := by
  obtain ⟨handle, hid, horigin⟩ := Option.map_eq_some_iff.mp h.origin?_eq
  obtain ⟨hhome, hkind⟩ := Prod.mk.inj horigin
  have hfirst : first.home = ⟨first.transform, first.alpha, e.declaredOn? first.kind⟩ := by
    rw [h.pristine.home, h.pristine.declared]
  refine ⟨handle, hid, hhome.trans hfirst, ?_⟩
  rw [hhome, hfirst, hkind, h.pristine.declared]

end Made

/-- A widget that is there after an operation and was not before, or has been taken away, has been
made by the operation. -/
theorem exists_made_of_after {s s' : Session} {op : Session.Operation} (hs : s.Reachable)
    (hafter : s.after op = .ok s') (hop : op.rebuilds = true)
    (hnew : (if s.clears op then s.clear.value else s).stage.canvas.widget? w = none)
    (hlive : (s'.stage.canvas.widget? w).isSome) : ∃ e first, Made w e first ⟨s', none⟩ := by
  rcases Session.after_loads hafter hop with hsame | ⟨root, load, stats, hstart, hload, hvalue⟩
  · rw [hsame, hnew] at hlive
    cases hlive
  · rw [← hstart] at hnew
    obtain ⟨⟨e, above, _⟩, hmet, hkept, rfl⟩ :=
      (hload.grownBy hs hvalue).exists_encounter hnew hlive
    obtain ⟨first, hfirst⟩ := Option.isSome_iff_exists.mp hlive
    exact ⟨e, first, .loaded hs hload hvalue hmet hkept hfirst⟩

end Moment

/-- Every widget that there is at a moment has been made. -/
theorem Life.exists_made {trace : Trace} {m : Moment} {w : WidgetId} (h : Life trace m)
    (hlive : (m.session.stage.canvas.widget? w).isSome) : ∃ e first, m.Made w e first := by
  induction h with
  | new => simp [Session.new, Canvas.widget?] at hlive
  | @next trace m m' beat hlife hnext ih =>
    by_cases hkeep : m.clears beat = false ∧ (m.session.stage.canvas.widget? w).isSome
    · obtain ⟨e, first, hmade⟩ := ih hkeep.2
      exact ⟨e, first, hmade.next hnext hkeep.1⟩
    cases hbeat : beat.rebuilds with
    | false =>
      -- the widget was there before, and has not been taken away
      refine absurd ⟨?_, ?_⟩ hkeep
      · cases beat with
        | operation op => exact Session.clears_of_rebuilds hbeat
        | time | step | close => rfl
      · have hsame := hnext.map_widget?_of_not_rebuilds (w := w) Handle.lasts_origin hbeat
        rwa [← Canvas.isSome_origin?, Canvas.origin?, hsame, Option.isSome_map] at hlive
    | true =>
      cases hnext with
      | @operation s s' op hop hafter =>
        refine Moment.exists_made_of_after hlife.reachable hafter hbeat ?_ hlive
        by_cases hclears : s.clears op = true
        · rw [if_pos hclears, Session.clear_value]
          rfl
        · rw [if_neg hclears]
          simpa [Moment.clears, hclears] using hkeep
      | time | step | close => cases hbeat

end Uiml
