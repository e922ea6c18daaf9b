import Uiml.Proofs.Animation.Moderate
import Uiml.Proofs.Session.Refusal

/-!
# Progress stays in its range

The bounds of a progress bar are always in order, and its fill is where the value says. There are
two ways for the value to be out of the range, or for the fill to be nowhere: the value is no
number, or range and value reach too far for a share. Both come from the numbers that the bar is
given. From numbers that are not near the ends of the line, neither can come: then the value is in
its range and the fill in its area after any sequence of operations.

## Main definitions

* `Session.Rebuilt` — what is left by an operation that makes widgets or takes them away
* `Session.Operation.IsModerate` — the numbers that an operation gives to bars are moderate
* `Session.Moderate` — the sessions that moderate operations lead to

## Main results

* `Session.after_rebuilt` — which document is compiled
* `Session.Moderate.isModerate` — moderate operations lead to moderate stages
* `Session.Reachable.progress_inRange` — when values are in their ranges and fills in their areas
-/

namespace Uiml

variable {w : WidgetId}

namespace Session

variable {s s' : Session} {op : Operation} {root : Element}

/-- The document that an operation is to load, if it is to load one that can be read. -/
def Operation.document? (s : Session) : Operation → Option Element
  | .load source => (Markup.parse source).toOption
  | .loadFile path =>
    (s.slots.assets.files.readText path).toOption.bind fun source => (Markup.parse source).toOption
  | .loadDocument root => some root
  | _ => none

/-- What an operation that makes widgets or takes them away leaves of a session: it has been
cleared or not, and a document may have been compiled into it. -/
inductive Rebuilt (s : Session) (op : Operation) : Session → Prop
  | kept : Rebuilt s op s
  | cleared : Rebuilt s op s.clear.value
  | compiled {root : Element} {bench : Workbench} (hdocument : op.document? s = some root)
      (hbench : (s.clearForLoad.value.workbench.compile s.clearForLoad.value.config.theme root
        Scene.root).run.value = .ok bench) :
      Rebuilt s op (s.clearForLoad.value.compiled bench)

theorem clearForLoad_rebuilt (s : Session) (op : Operation) :
    Rebuilt s op s.clearForLoad.value := by
  rw [clearForLoad_value]
  split
  · exact .cleared
  · exact .kept

variable {result : Except LoadError CompileStats × Session} {source : String}

theorem compile_rebuilt (hdocument : op.document? s = some root)
    (h : (s.clearForLoad.value.compile root).run.value = .ok result) : Rebuilt s op result.2 := by
  rw [compile_value] at h
  split at h
  · obtain ⟨bench, hbench, rfl⟩ := exists_of_map h
    exact .compiled hdocument hbench
  · cases h
    exact clearForLoad_rebuilt s op

theorem load_rebuilt (hdocument : op.document? s = (Markup.parse source).toOption)
    (h : (s.load source).run.value = .ok result) : Rebuilt s op result.2 := by
  rw [load_value] at h
  cases hparse : Markup.parse source with
  | error e =>
    rw [hparse] at h
    cases h
    exact clearForLoad_rebuilt s op
  | ok root =>
    rw [hparse] at h hdocument
    exact compile_rebuilt hdocument h

/-- To make widgets or to take them away is to clear, or to compile the document that is loaded. -/
theorem after_rebuilt (h : s.after op = .ok s') (hop : op.rebuilds = true) : Rebuilt s op s' := by
  cases op <;> simp only [after] at h
  case load source =>
    obtain ⟨result, hload, rfl⟩ := exists_of_map h
    exact load_rebuilt rfl hload
  case loadFile path =>
    obtain ⟨result, hload, rfl⟩ := exists_of_map h
    rw [loadFile_value] at hload
    cases hread : s.slots.assets.files.readText path with
    | error fault =>
      rw [hread] at hload
      cases hload
      exact .kept
    | ok source =>
      rw [hread] at hload
      exact load_rebuilt (by rw [Operation.document?, hread]; rfl) hload
  case loadDocument root =>
    obtain ⟨result, hload, rfl⟩ := exists_of_map h
    rw [loadDocument_value] at hload
    exact compile_rebuilt rfl hload
  case clear =>
    cases h
    exact .cleared
  all_goals cases hop

end Session

/-- An element that is built as a progress bar gives it bounds far from the ends of the line, and
some number for a value. -/
def Element.IsModerate (e : Element) : Prop :=
  e.isOpen = true → e.kind? = some .progressBar →
    Single.IsModerate (e.number "minValue" 0) ∧ Single.IsModerate (e.number "maxValue" 1) ∧
      (e.number "value" 0).isNaN = false

instance (e : Element) : Decidable e.IsModerate := inferInstanceAs (Decidable (_ → _ → _))

theorem ProgressBar.DeclaredBy.isModerate {bar : ProgressBar} {e : Element} (h : bar.DeclaredBy e)
    (hopen : e.isOpen = true) (hkind : e.kind? = some .progressBar) (he : e.IsModerate) :
    bar.IsModerate := by
  obtain ⟨hmin, hmax, hnumber⟩ := he hopen hkind
  refine ⟨h.kept, h.min ▸ hmin, h.max ▸ hmax, ?_⟩
  rw [h.value, Single.isNaN_clamp h.ordered, hnumber]

/-- Moderate elements add moderate bars. -/
theorem Workbench.visit_isModerate (theme : Theme) {e : Element} (he : e.IsModerate) :
    VisitPreserves theme (fun bench => bench.canvas.IsModerate) e := by
  intro bench bench' parent below hvisit h w bar hbar
  rcases (visit_cases hvisit).bar?_cases hbar with hold | ⟨hopen, hkind, hdeclared⟩
  · exact h w bar hold
  · exact hdeclared.isModerate hopen hkind he

namespace Session

variable {s s' : Session} {op : Operation}

/-- The numbers that an operation gives to bars are moderate: no bar is given a value that is none,
nor moved to one near the ends of the line, and no document is loaded with such a bar. -/
structure Operation.IsModerate (s : Session) (op : Operation) : Prop where
  number : ∀ element value animate, op = .setProgress element value animate → value.isNaN = false
  target : ∀ element value, op = .setProgress element value true → Single.IsModerate value
  document : ∀ root, op.document? s = some root →
    ∀ e ∈ Element.reachedAll root.children, e.IsModerate

theorem isModerate_cleared (s : Session) : s.clear.value.stage.IsModerate where
  bars := by
    intro w bar hbar
    rw [clear_value] at hbar
    simp [Canvas.cleared, Canvas.bar?, Canvas.widget?] at hbar
  tracks := by
    intro w track htrack
    cases htrack

theorem Rebuilt.isModerate (h : Rebuilt s op s') (hop : op.IsModerate s)
    (hs : s.stage.IsModerate) : s'.stage.IsModerate := by
  have hstart : s.clearForLoad.value.stage.IsModerate := by
    rw [clearForLoad_value]
    split
    · exact s.isModerate_cleared
    · exact hs
  cases h with
  | kept => exact hs
  | cleared => exact s.isModerate_cleared
  | @compiled root bench hdocument hbench =>
    have hvisits : ∀ e ∈ Element.reachedAll root.children, Workbench.VisitPreserves
        s.clearForLoad.value.config.theme (fun bench => bench.canvas.IsModerate) e :=
      fun e he => Workbench.visit_isModerate _ (hop.document root hdocument e he)
    exact ⟨Workbench.compileAll_reached_induction root.children hvisits hbench hstart.bars,
      hstart.tracks⟩

/-- Moderate operations keep a session moderate. -/
theorem after_isModerate (h : s.after op = .ok s') (hop : op.IsModerate s)
    (htidy : s.stage.animator.Tidy []) (hs : s.stage.IsModerate) : s'.stage.IsModerate := by
  -- an operation makes widgets or takes them away, or it leaves those that there are
  cases hrebuilds : op.rebuilds with
  | true => exact (after_rebuilt h hrebuilds).isModerate hop hs
  | false =>
    cases after_effect h with
    | loaded hloads => exact absurd (hrebuilds.symm.trans hloads) Bool.false_ne_true
    | cleared => cases hrebuilds
    | executed element command args =>
      exact hs.leavesProgress (Command.execute_leavesProgress ..)
    | scheduled => exact ⟨hs.bars, hs.tracks⟩
    | progressed element value animate =>
      rw [setProgress]
      cases s.progressBar? element with
      | error e => exact hs
      | ok id =>
        refine hs.animate id animate (hop.number element value animate rfl) ?_
        rintro rfl
        exact hop.target element value rfl
    | ticked dt => exact tick_isModerate hs htidy dt
    | linked _ hanimator hlinks =>
      exact ⟨hs.bars.congr fun _ => Canvas.bar?_of_stem hlinks.stem, hanimator ▸ hs.tracks⟩

/-- The sessions that moderate operations lead to from a new one. -/
inductive Moderate : Session → Prop
  | new (config : Config) (files : Files) (bundles : Table String (List UInt8)) :
      Moderate (.new config files bundles)
  | after {s s' : Session} {op : Operation} (h : Moderate s) (hop : op.IsModerate s)
      (hafter : s.after op = .ok s') : Moderate s'

theorem Moderate.reachable (h : Moderate s) : Reachable s := by
  induction h with
  | new => exact .new ..
  | after _ _ hafter ih => exact ih.after hafter

/-- Moderate operations lead to moderate stages. -/
theorem Moderate.isModerate (h : Moderate s) : s.stage.IsModerate := by
  induction h with
  | new =>
    refine ⟨fun w bar hbar => ?_, fun w track htrack => (by cases htrack)⟩
    simp [Session.new, Canvas.bar?, Canvas.widget?] at hbar
  | after hbefore hop hafter ih => exact after_isModerate hafter hop hbefore.reachable.tidy ih

/-- In a reachable session the bounds of every progress bar are in order and its fill node shows its
anchors. The value lies between the bounds just if it is a number, and the fill lies in its area,
the one corner nowhere beyond the other, unless the share of the range that it should show is lost.
If bars have been given moderate numbers only, nothing of that happens: value and fill are always
where they should be, whatever has been animated in between and how much time has passed. -/
theorem Reachable.progress_inRange (hs : Reachable s) {h : Handle} {bar : ProgressBar}
    (hid : s.stage.widget? w = some h) (hparts : h.parts = .progressBar bar) :
    bar.min ≤ bar.max ∧
      s.scene.Shows bar.fill (fun face => (face.anchorMin, face.anchorMax) = bar.anchors) ∧
      (bar.InRange ↔ bar.value.isNaN = false) ∧ (bar.Fits ↔ ¬bar.IsLost) ∧
      (s.Moderate → bar.InRange ∧ bar.Fits) := by
  have hbar : s.stage.canvas.bar? w = some bar :=
    Option.bind_eq_some_iff.mpr ⟨h, hid, Handle.bar?_eq_some_iff.mpr hparts⟩
  have hkept := hs.kept hbar
  refine ⟨hkept.ordered, (hs.mirroredIn hid).fill bar hparts, hkept.inRange_iff,
    ProgressBar.fits_iff, fun hmoderate => ?_⟩
  have hbounded := hmoderate.isModerate.bars w bar hbar
  exact ⟨hbounded.inRange, hbounded.fits⟩

/-- A document of a progress bar. -/
def loneBar : Element :=
  { tag := "UIML"
    children := [{ tag := "ProgressBar", attributes := [⟨"name", "p"⟩, ⟨"maxValue", "10"⟩] }] }

/-- Halfway on its way to five, a bar shows two and a half, and its fill lies in its area. -/
theorem progress_inRange_halfway :
    ∃ s s' h bar, (Session.new {} {} {}).after (.loadDocument loneBar) = .ok s ∧
      s' = ((s.setProgress "p" 5 true).value.2.tick 0.25).value ∧ s'.stage.widget? ⟨0⟩ = some h ∧
      h.parts = .progressBar bar ∧ bar.value = 2.5 ∧ bar.InRange ∧ bar.Fits := by
  have hvalue : ((Session.new {} {} {}).after (.loadDocument loneBar)).map (fun s =>
      (((s.setProgress "p" 5 true).value.2.tick 0.25).value.stage.canvas.bar? ⟨0⟩).map
        ProgressBar.value) = .ok (some 2.5) := by
    decide +kernel
  have hload : Operation.IsModerate (Session.new {} {} {}) (.loadDocument loneBar) := by
    refine ⟨fun _ _ _ he => (by cases he), fun _ _ he => (by cases he), fun root hroot => ?_⟩
    cases hroot
    decide +kernel
  cases hafter : (Session.new {} {} {}).after (.loadDocument loneBar) with
  | error breakdown => rw [hafter] at hvalue; cases hvalue
  | ok s =>
    have hset : Operation.IsModerate s (.setProgress "p" 5 true) :=
      ⟨fun _ _ _ he => (by cases he; decide), fun _ _ he => (by cases he; decide),
        fun _ he => (by cases he)⟩
    have htick (s : Session) : Operation.IsModerate s (.tick 0.25) :=
      ⟨fun _ _ _ he => (by cases he), fun _ _ he => (by cases he), fun _ he => (by cases he)⟩
    have hmoderate : Moderate ((s.setProgress "p" 5 true).value.2.tick 0.25).value :=
      .after (.after (.after (.new {} {} {}) hload hafter) hset rfl) (htick _) rfl
    rw [hafter] at hvalue
    obtain ⟨bar, hbar, hhalf⟩ := Option.map_eq_some_iff.mp (Except.ok.inj hvalue)
    obtain ⟨h, hid, hparts⟩ := Option.bind_eq_some_iff.mp hbar
    have hparts := Handle.bar?_eq_some_iff.mp hparts
    obtain ⟨-, -, -, -, hgood⟩ := hmoderate.reachable.progress_inRange hid hparts
    exact ⟨s, _, h, bar, rfl, rfl, hid, hparts, hhalf, hgood hmoderate⟩

/-- A bar that is given a value that is no number shows none. -/
theorem progress_lost :
    ∃ s h bar, (Session.new {} {} {}).after (.load "<UIML><ProgressBar name='p'/></UIML>") = .ok s ∧
      (s.setProgress "p" (0 / 0) false).value.2.stage.widget? ⟨0⟩ = some h ∧
      h.parts = .progressBar bar ∧ bar.value.isNaN = true ∧ ¬bar.InRange ∧ ¬bar.Fits := by
  have hvalue : ((Session.new {} {} {}).after
      (.load "<UIML><ProgressBar name='p'/></UIML>")).map (fun s =>
        ((s.setProgress "p" (0 / 0) false).value.2.stage.canvas.bar? ⟨0⟩).map fun bar =>
          decide (bar.min < bar.max) && bar.value.isNaN) = .ok (some true) := by
    decide +kernel
  cases hafter : (Session.new {} {} {}).after (.load "<UIML><ProgressBar name='p'/></UIML>") with
  | error breakdown => rw [hafter] at hvalue; cases hvalue
  | ok s =>
    rw [hafter] at hvalue
    obtain ⟨bar, hbar, hlost⟩ := Option.map_eq_some_iff.mp (Except.ok.inj hvalue)
    obtain ⟨h, hid, hparts⟩ := Option.bind_eq_some_iff.mp hbar
    obtain ⟨hrange, hnan⟩ := Bool.and_eq_true_iff.mp hlost
    refine ⟨s, h, bar, rfl, hid, Handle.bar?_eq_some_iff.mp hparts, hnan, fun hwithin => ?_, ?_⟩
    · rw [hwithin.isNaN_eq] at hnan
      cases hnan
    · rw [ProgressBar.fits_iff, not_not]
      exact ⟨of_decide_eq_true hrange, .inl hnan⟩

end Session

end Uiml
