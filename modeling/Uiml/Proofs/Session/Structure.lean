import Uiml.Proofs.Build.Structure
import Uiml.Proofs.Session.Reach

/-!
# The structure that a load leaves

A document is given as a tree of elements, as a text, or in a file. If its root has the tag that the
settings ask for and nothing breaks down, the canvas has grown by the widgets of the elements that
are kept, and the elements that are visited have been counted.

## Main definitions

* `Session.LoadsDocument` — the three ways to load a document

## Main results

* `Session.Reachable.load_structure` — what a load adds to a session
-/

namespace Uiml.Session

open Element (Encounter encountersAll)

variable {s s' : Session} {root : Element}

/-- The ways to load a document into a session. -/
inductive LoadsDocument (s : Session) (root : Element) :
    Building (Except LoadError CompileStats × Session) → Prop
  | tree : LoadsDocument s root (s.loadDocument root)
  | text {source : String} (hparse : Markup.parse source = .ok root) :
      LoadsDocument s root (s.load source)
  | file {path source : String} (hread : s.slots.assets.files.readText path = .ok source)
      (hparse : Markup.parse source = .ok root) : LoadsDocument s root (s.loadFile path)

theorem LoadsDocument.value {load : Building (Except LoadError CompileStats × Session)}
    (hload : LoadsDocument s root load) :
    load.run.value = (s.clearForLoad.value.compile root).run.value := by
  cases hload with
  | tree => exact loadDocument_value s root
  | text hparse => rw [load_value, hparse]
  | file hread hparse =>
    rw [loadFile_value, hread]
    exact (load_value s _).trans (by rw [hparse])

/-- Compiling a document is a walk through the elements below its root. -/
theorem compile_eq_walk (s : Session) (root : Element) :
    (s.workbench.compile s.config.theme root Scene.root).run.value =
      Workbench.walk s.config.theme s.workbench
        (encountersAll none s.stage.canvas.widgets.size root.children) :=
  Workbench.compileAll_eq_walk s.config.theme root.children s.workbench none nofun

/-- A document that has been loaded has been walked through. -/
theorem LoadsDocument.exists_walk {load : Building (Except LoadError CompileStats × Session)}
    (hload : LoadsDocument s root load) {stats : CompileStats}
    (h : load.run.value = .ok (.ok stats, s')) :
    let start := s.clearForLoad.value
    ∃ bench, s' = start.compiled bench ∧ Workbench.walk start.config.theme start.workbench
      (encountersAll none start.stage.canvas.widgets.size root.children) = .ok bench := by
  rw [hload.value, compile_value] at h
  split at h
  · rw [compile_eq_walk] at h
    obtain ⟨bench, hwalk, hbench⟩ := exists_of_map h
    cases hbench
    exact ⟨bench, rfl, hwalk⟩
  · cases h

theorem Reachable.compile_structure (hs : Reachable s)
    (htag : Text.sameLetters root.tag s.config.rootTag = true)
    {result : Except LoadError CompileStats}
    (h : (s.compile root).run.value = .ok (result, s')) :
    result = .ok (Encounter.tally (encountersAll none s.stage.canvas.widgets.size root.children)) ∧
      s.stage.canvas.GrownBy (encountersAll none s.stage.canvas.widgets.size root.children)
        s'.stage.canvas := by
  rw [compile_value, if_pos htag, compile_eq_walk] at h
  cases hwalk : Workbench.walk s.config.theme s.workbench
      (encountersAll none s.stage.canvas.widgets.size root.children) with
  | error breakdown => rw [hwalk] at h; cases h
  | ok bench =>
    rw [hwalk] at h
    cases h
    refine ⟨congrArg _ ?_, Canvas.GrownBy.walk hs.orderly (root.numbered_children _) hwalk⟩
    -- nothing has been counted before
    refine (Workbench.walk_stats hwalk).trans ?_
    change CompileStats.mk _ _ _ _ = CompileStats.mk _ _ _ _
    simp [workbench, Encounter.tally]

/-- A load that does not break down counts the elements that are visited, and adds the widgets of
those that are kept, to what the clearing has left. -/
theorem Reachable.load_structure (hs : Reachable s)
    {load : Building (Except LoadError CompileStats × Session)} (hload : LoadsDocument s root load)
    (htag : Text.sameLetters root.tag s.config.rootTag = true)
    {result : Except LoadError CompileStats} (h : load.run.value = .ok (result, s')) :
    let start := s.clearForLoad.value.stage.canvas
    let met := encountersAll none start.widgets.size root.children
    result = .ok (Encounter.tally met) ∧ start.GrownBy met s'.stage.canvas := by
  rw [hload.value] at h
  exact hs.clearForLoad.compile_structure (by rwa [config_clearForLoad]) h

/-- A document with an element of each fate that can be met. -/
def allFates : Element :=
  { tag := "UIML"
    children := [
      { tag := "ScrollArea", attributes := [⟨"name", "s"⟩]
        children := [{ tag := "Panel", attributes := [⟨"name", "p"⟩] }] },
      { tag := "Panel", children := [{ tag := "Panel", attributes := [⟨"name", "q"⟩] }] },
      { tag := "Shelf", attributes := [⟨"name", "u"⟩]
        children := [{ tag := "Text", attributes := [⟨"name", "t"⟩] }] },
      { tag := "ProgressBar"
        attributes := [⟨"name", "b"⟩, ⟨"minValue", "2"⟩, ⟨"maxValue", "1"⟩] }] }

/-- Of the six elements that are visited, three are kept. -/
theorem load_structure_allFates :
    ∃ s, ((Session.new {} {} {}).loadDocument allFates).run.value = .ok (.ok ⟨3, 1, 1, 1⟩, s) ∧
      (Session.new {} {} {}).clearForLoad.value.stage.canvas.GrownBy
        (encountersAll none 0 allFates.children) s.stage.canvas := by
  -- that the load comes to an end is computed, and what it leaves is not
  have hvalue : ((Session.new {} {} {}).loadDocument allFates).run.value.toOption.isSome = true := by
    decide +kernel
  have htally : Encounter.tally (encountersAll none 0 allFates.children) = ⟨3, 1, 1, 1⟩ := by
    decide +kernel
  cases hload : ((Session.new {} {} {}).loadDocument allFates).run.value with
  | error breakdown => rw [hload] at hvalue; cases hvalue
  | ok outcome =>
    obtain ⟨hresult, hgrown⟩ :=
      (Reachable.new {} {} {}).load_structure .tree (by decide +kernel) hload
    refine ⟨outcome.2, ?_, hgrown⟩
    rw [← htally]
    exact congrArg (fun result => Except.ok (result, outcome.2)) hresult

end Uiml.Session
