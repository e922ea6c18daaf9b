import Uiml.Proofs.Build.SideBySide
import Uiml.Proofs.Session.Standing
import Uiml.Proofs.Session.Structure

/-!
# Documents without what is dropped

An element that has no name or cannot be built is passed over with all below it, and one of unknown
tag is replaced by its children. A document from which such elements have been taken away is built
into the same widgets, though into nodes of other ids: for an element that cannot be built an id is
given out in vain. So what is wrong with an element stays with it: loading the document with it and
without it breaks down alike, or leaves the same widgets, names and slots, and scenes that differ in
the ids of nodes only.

## Main definitions

* `Element.trimmed`, `Element.trim` — elements without what is dropped
* `Element.SameText` — documents that differ in the places of their elements only
* `Session.AlikeTrimmed` — what loading a trimmed document and the whole one leave

## Main results

* `Element.encountersAll_trimmedAll` — the encounters of a trimmed document are those that matter
* `Element.SameText.encountersAll` — it is not seen where the elements of a document are written
* `Workbench.Alike.walk_filter` — a walk that leaves out what is dropped ends alike
* `Session.Reachable.load_trim` — a load does the same with a trimmed document
-/

namespace Uiml

open Element (Encounter encounters encountersAll)

namespace Element

mutual

/-- What stands for an element if elements that are dropped are left out. -/
def trimmed : Element → List Element
  | ⟨tag, attributes, children, pos⟩ =>
    match ({ tag, attributes } : Element).fate with
    | .unnamed | .failed _ => []
    | .unknown => trimmedAll children
    | .kept _ _ => [⟨tag, attributes, trimmedAll children, pos⟩]
    | .broken _ => [⟨tag, attributes, children, pos⟩]

/-- What stands for some elements if those that are dropped are left out. -/
def trimmedAll : List Element → List Element
  | [] => []
  | e :: rest => trimmed e ++ trimmedAll rest

end

/-- A document without the elements that are dropped. -/
def trim (root : Element) : Element := { root with children := trimmedAll root.children }

mutual

/-- An element of which nobody knows where it is written. -/
def unplaced : Element → Element
  | ⟨tag, attributes, children, _⟩ => { tag, attributes, children := unplacedAll children }

/-- Elements of which nobody knows where they are written. -/
def unplacedAll : List Element → List Element
  | [] => []
  | e :: rest => unplaced e :: unplacedAll rest

end

/-- Two documents differ at most in the places where their elements are written. -/
def SameText (root root' : Element) : Prop := root'.unplaced = root.unplaced

namespace Encounter

/-- Whether an encounter is left in a trimmed document. -/
def stays (m : Encounter) : Bool := !m.isDropped

theorem stays_of_isKept {m : Encounter} (h : m.isKept = true) : m.stays = true := by
  rw [isKept] at h
  rw [stays, isDropped]
  cases hfate : m.element.fate <;> rw [hfate] at h <;> first | rfl | cases h

theorem countP_filter_stays (met : List Encounter) :
    (met.filter stays).countP isKept = met.countP isKept := by
  rw [List.countP_filter]
  refine List.countP_congr fun m _ => ?_
  rw [Bool.and_eq_true_iff]
  exact ⟨fun h => h.1, fun h => ⟨h, stays_of_isKept h⟩⟩

end Encounter

theorem encountersAll_append (above : Option WidgetId) (next : Nat) (first rest : List Element) :
    encountersAll above next (first ++ rest) = encountersAll above next first ++
      encountersAll above (next + (encountersAll above next first).countP Encounter.isKept)
        rest := by
  induction first generalizing next with
  | nil => rfl
  | cons e first ih =>
    rw [List.cons_append, encountersAll, encountersAll, ih, List.append_assoc, List.countP_append,
      Nat.add_assoc]

mutual

theorem encountersAll_trimmed : ∀ (e : Element) (above : Option WidgetId) (next : Nat),
    encountersAll above next e.trimmed = (encounters above next e).filter Encounter.stays
  | ⟨tag, attributes, children, pos⟩, above, next => by
    have hstays (m : Encounter) (hm : m.element = { tag, attributes }) :
        m.stays = !({ tag, attributes } : Element).fate.isDropped := by
      rw [Encounter.stays, Encounter.isDropped, hm]
    rw [trimmed, encounters, List.filter_cons, hstays _ rfl]
    cases hfate : ({ tag, attributes } : Element).fate with
    | unnamed => rfl
    | failed name => rfl
    | unknown => exact encountersAll_trimmedAll children above next
    | broken breakdown =>
      simp only [encountersAll, encounters, hfate]
      rfl
    | kept name kind =>
      simp only [encountersAll, encounters, hfate, encountersAll_trimmedAll children]
      simp [Fate.isDropped]

/-- The encounters of a trimmed document are those of the document that are not dropped. -/
theorem encountersAll_trimmedAll : ∀ (es : List Element) (above : Option WidgetId) (next : Nat),
    encountersAll above next (trimmedAll es) =
      (encountersAll above next es).filter Encounter.stays
  | [], _, _ => rfl
  | e :: rest, above, next => by
    rw [trimmedAll, encountersAll_append, encountersAll_trimmed e, encountersAll,
      List.filter_append, Encounter.countP_filter_stays, encountersAll_trimmedAll rest]

end

mutual

theorem encounters_unplaced : ∀ (e : Element) (above : Option WidgetId) (next : Nat),
    encounters above next e.unplaced = encounters above next e
  | ⟨tag, attributes, children, _⟩, above, next => by
    rw [unplaced, encounters, encounters]
    simp only [encountersAll_unplacedAll children]

theorem encountersAll_unplacedAll : ∀ (es : List Element) (above : Option WidgetId) (next : Nat),
    encountersAll above next (unplacedAll es) = encountersAll above next es
  | [], _, _ => rfl
  | e :: rest, above, next => by
    rw [unplacedAll, encountersAll, encountersAll, encounters_unplaced e]
    simp only [encountersAll_unplacedAll rest]

end

theorem SameText.tag {root root' : Element} (h : root.SameText root') : root'.tag = root.tag := by
  have htag := congrArg Element.tag h
  cases root
  cases root'
  exact htag

/-- The encounters do not depend on where the elements of a document are written. -/
theorem SameText.encountersAll {root root' : Element} (h : root.SameText root')
    (above : Option WidgetId) (next : Nat) :
    Element.encountersAll above next root'.children =
      Element.encountersAll above next root.children := by
  have hchildren : unplacedAll root'.children = unplacedAll root.children := by
    have heq := congrArg Element.children h
    cases root
    cases root'
    exact heq
  rw [← encountersAll_unplacedAll root'.children, hchildren, encountersAll_unplacedAll]

end Element

/-! ### Walks -/

/-- A walk that leaves out the elements that are dropped ends alike. If the slots have been the same
before, they are the same afterwards. -/
theorem Workbench.Alike.walk_filter {f : NodeId → NodeId} {hidden : Nat → Prop}
    {bench bench' : Workbench} (hb : bench.Alike f hidden bench') (hc : bench.canvas.Orderly)
    (hc' : bench'.canvas.Orderly) (hslots : bench'.slots = bench.slots) (theme : Theme)
    (met : List Encounter) :
    EndAlike (fun next next' => next'.slots = next.slots ∧ ∃ f, next.Alike f hidden next')
      (Workbench.walk theme bench (met.filter Encounter.stays))
      (Workbench.walk theme bench' met) := by
  induction met generalizing f bench bench' with
  | nil => exact .ended ⟨hslots, f, hb⟩
  | cons m met ih =>
    rcases m.fate_cases with hkept | hdropped | ⟨breakdown, hfate⟩
    · obtain ⟨next, next', hmeet, hmeet', hnext, hsame⟩ := hb.meet_kept theme hkept
      rw [List.filter_cons_of_pos (Encounter.stays_of_isKept hkept), walk_cons, walk_cons, hmeet,
        hmeet']
      exact ih hnext (hc.meet hmeet) (hc'.meet hmeet') (hsame hslots)
    · -- only the walk through the whole document gives out an id
      obtain ⟨next', hmeet', hpassed'⟩ := meet_dropped theme hdropped hc'.tree
      rw [List.filter_cons_of_neg (by simp [Encounter.stays, hdropped]), walk_cons, hmeet']
      exact ih (hb.pass_right hc hpassed') hc (hc'.meet hmeet') (hpassed'.slots.trans hslots)
    · have hstays : m.stays = true := by
        rw [Encounter.stays, Encounter.isDropped, hfate]
        rfl
      rw [List.filter_cons_of_pos hstays, walk_cons, walk_cons, meet_broken hfate,
        meet_broken hfate]
      exact .broken breakdown

namespace Session

variable {s : Session} {root root' : Element}

/-- What loading a trimmed document and loading the whole one leave: the same outcome, up to the
counts of what has been dropped, and the same names, slots and, up to a renumbering of the nodes,
widgets and scene. -/
structure AlikeTrimmed (trimmed full : Except LoadError CompileStats × Session) : Prop where
  created : full.1.map CompileStats.created = trimmed.1.map CompileStats.created
  registry : full.2.registry = trimmed.2.registry
  slots : full.2.slots = trimmed.2.slots
  canvas : ∃ f, trimmed.2.stage.canvas.Alike f (fun _ => False) full.2.stage.canvas

theorem Reachable.compile_trim (hs : Reachable s) (htrim : root.trim.SameText root') :
    EndAlike AlikeTrimmed (s.compile root').run.value (s.compile root).run.value := by
  have htag : root'.tag = root.tag := htrim.tag
  rw [compile_value, compile_value, htag]
  split
  · have hbench : s.workbench.Alike (fun i => i) (fun _ => False) s.workbench :=
      ⟨.refl _ s.stage.canvas, rfl, ⟨fun _ => rfl, nofun⟩, hs.standing.resolver,
        hs.standing.resolver⟩
    have hmet : encountersAll none s.stage.canvas.widgets.size root'.children =
        (encountersAll none s.stage.canvas.widgets.size root.children).filter Encounter.stays :=
      (htrim.encountersAll none _).trans (Element.encountersAll_trimmedAll root.children none _)
    rw [compile_eq_walk, compile_eq_walk, hmet]
    refine (hbench.walk_filter hs.orderly hs.orderly rfl s.config.theme _).map
      fun bench bench' htrimmed hfull ⟨hslots, f, hf⟩ =>
        ⟨congrArg Except.ok ?_, hf.registry, hslots, f, hf.canvas⟩
    -- all that is built has been counted, and nothing is built for what is dropped
    have hcount := Encounter.countP_filter_stays
      (encountersAll none s.stage.canvas.widgets.size root.children)
    calc bench'.stats.created
      _ = s.workbench.stats.created + _ :=
        congrArg CompileStats.created (Workbench.walk_stats hfull)
      _ = s.workbench.stats.created + _ := congrArg (_ + ·) hcount.symm
      _ = bench.stats.created :=
        (congrArg CompileStats.created (Workbench.walk_stats htrimmed)).symm
  · exact .ended ⟨rfl, rfl, rfl, _, .refl _ s.stage.canvas⟩

/-- Loading a document and loading it without the elements that are dropped end alike. -/
theorem Reachable.load_trim (hs : Reachable s) (htrim : root.trim.SameText root')
    {load load' : Building (Except LoadError CompileStats × Session)}
    (hload : LoadsDocument s root load) (hload' : LoadsDocument s root' load') :
    EndAlike AlikeTrimmed load'.run.value load.run.value := by
  rw [hload.value, hload'.value]
  exact hs.clearForLoad.compile_trim htrim

/-- Three elements have been dropped, and the widgets of the other three are the same. -/
theorem load_trim_allFates :
    ∃ s s' f, ((Session.new {} {} {}).loadDocument allFates.trim).run.value =
        .ok (.ok ⟨3, 0, 0, 0⟩, s) ∧
      ((Session.new {} {} {}).loadDocument allFates).run.value = .ok (.ok ⟨3, 1, 1, 1⟩, s') ∧
      s.stage.canvas.Alike f (fun _ => False) s'.stage.canvas := by
  have halike : EndAlike AlikeTrimmed
      ((Session.new {} {} {}).loadDocument allFates.trim).run.value
      ((Session.new {} {} {}).loadDocument allFates).run.value :=
    Reachable.load_trim (.new {} {} {}) rfl .tree .tree
  have htrimmed : ((Session.new {} {} {}).loadDocument allFates.trim).run.value.toOption.map
      (·.1.toOption) = some (some ⟨3, 0, 0, 0⟩) := by decide +kernel
  have hfull : ((Session.new {} {} {}).loadDocument allFates).run.value.toOption.map
      (·.1.toOption) = some (some ⟨3, 1, 1, 1⟩) := by decide +kernel
  generalize ((Session.new {} {} {}).loadDocument allFates.trim).run.value = trimmed at *
  generalize ((Session.new {} {} {}).loadDocument allFates).run.value = full at *
  cases halike with
  | broken breakdown => cases htrimmed
  | @ended trimmed full h =>
    obtain ⟨(_ | _), s⟩ := trimmed <;> cases htrimmed
    obtain ⟨(_ | _), s'⟩ := full <;> cases hfull
    obtain ⟨f, hf⟩ := h.canvas
    exact ⟨s, s', f, rfl, rfl, hf⟩

end Session

end Uiml
