import Mathlib.Data.List.Basic
import Uiml.Proofs.Build.Walk
import Uiml.Proofs.Canvas.Built
import Uiml.Proofs.Canvas.Orderly

/-!
# The structure that compiling leaves

A walk through a document adds a widget for each element that is kept, in the order of the
encounters. The node of the widget becomes the last child of the place that the nearest kept element
above has for it; the nodes of its parts hang below its own; and elements that are not kept leave no
node behind.

## Main definitions

* `Element.Encounter.Numbered` — widgets are numbered in the order of the encounters
* `Canvas.GrownBy` — a canvas has grown by the widgets of some encounters
* `Canvas.Gains` — a canvas has gained the widget of one encounter

## Main results

* `Workbench.walk_numbered_induction` — what every encounter of a walk keeps
* `Canvas.GrownBy.gain`, `Canvas.GrownBy.pass` — growth by a widget, and by no widget
* `Canvas.GrownBy.meet` — what an encounter does to the structure
* `Canvas.GrownBy.walk` — what a walk leaves
-/

namespace Uiml

open Element (Encounter encounters encountersAll)
open Scene (root)

/-! ### Numbers of encounters -/

namespace Element.Encounter

/-- Widgets are numbered in the order of the encounters, from an id on, and each is met after the
widget that it goes below. -/
def Numbered (next : Nat) : List Encounter → Prop
  | [] => True
  | m :: rest =>
    m.widget = ⟨next⟩ ∧ (∀ id, m.above = some id → id.index < next) ∧
      Numbered (next + [m].countP isKept) rest

theorem numbered_append {next : Nat} {first rest : List Encounter} (hfirst : Numbered next first)
    (hrest : Numbered (next + first.countP isKept) rest) : Numbered next (first ++ rest) := by
  induction first generalizing next with
  | nil => exact hrest
  | cons m first ih =>
    obtain ⟨hwidget, habove, hfirst⟩ := hfirst
    refine ⟨hwidget, habove, ih hfirst ?_⟩
    rw [← List.singleton_append, List.countP_append, ← Nat.add_assoc] at hrest
    exact hrest

end Element.Encounter

mutual

theorem Element.encounters_numbered : ∀ (e : Element) {above : Option WidgetId} {next : Nat},
    (∀ id, above = some id → id.index < next) →
    Encounter.Numbered next (encounters above next e)
  | ⟨tag, attributes, children, _⟩, above, next, habove => by
    rw [encounters]
    refine ⟨rfl, habove, ?_⟩
    rw [List.countP_singleton, Encounter.isKept]
    simp only
    cases ({ tag, attributes } : Element).fate with
    | unnamed => trivial
    | failed name => trivial
    | broken breakdown => trivial
    | unknown => exact encountersAll_numbered children habove
    | kept name kind =>
      -- the id has been given out when the children are met
      refine encountersAll_numbered children ?_
      rintro _ ⟨⟩
      exact Nat.lt_succ_self _

theorem Element.encountersAll_numbered : ∀ (es : List Element) {above : Option WidgetId}
    {next : Nat}, (∀ id, above = some id → id.index < next) →
    Encounter.Numbered next (encountersAll above next es)
  | [], _, _, _ => trivial
  | e :: rest, above, next, habove => by
    rw [encountersAll]
    refine Encounter.numbered_append (encounters_numbered e habove) ?_
    exact encountersAll_numbered rest fun id hid => Nat.lt_add_right _ (habove id hid)

end

/-! ### Places -/

/-- The elements below a root are numbered from any id on. -/
theorem Element.numbered_children (root : Element) (next : Nat) :
    Encounter.Numbered next (encountersAll none next root.children) :=
  encountersAll_numbered root.children nofun

theorem Handle.contentNode_mem (h : Handle) : h.contentNode ∈ h.nodes := by
  rw [Handle.contentNode, Handle.nodes]
  split
  · next heq => simp [heq, Handle.Parts.nodes]
  · exact List.mem_cons_self

namespace Canvas

variable {canvas canvas' : Canvas} {above above' : Option WidgetId}

/-- A widget is there, if one is asked for. -/
def HasAbove (canvas : Canvas) (above : Option WidgetId) : Prop :=
  ∀ id, above = some id → id.index < canvas.widgets.size

theorem exists_widget? {id : WidgetId} (h : id.index < canvas.widgets.size) :
    ∃ h, canvas.widget? id = some h := ⟨_, Array.getElem?_eq_getElem h⟩

namespace Orderly

/-- The place of a widget is there. -/
theorem contains_place (hc : canvas.Orderly) (habove : canvas.HasAbove above) :
    canvas.scene.contains (canvas.place above) = true := by
  cases above with
  | none => exact hc.tree.contains_root
  | some id =>
    obtain ⟨h, hid⟩ := exists_widget? (habove id rfl)
    rw [place, hid]
    exact (hc.faithful.settled hid).live _ h.contentNode_mem

/-- No two widgets have the same place, and no widget has that below no widget. -/
theorem place_inj (hc : canvas.Orderly) (habove : canvas.HasAbove above)
    (habove' : canvas.HasAbove above') (h : canvas.place above = canvas.place above') :
    above = above' := by
  have hroot {id : WidgetId} (hid : id.index < canvas.widgets.size) :
      canvas.place (some id) ≠ Scene.root := by
    obtain ⟨h, hid⟩ := exists_widget? hid
    rw [place, hid]
    exact fun he => hc.root hid (he ▸ h.contentNode_mem)
  cases above with
  | none =>
    cases above' with
    | none => rfl
    | some id => exact absurd h.symm (hroot (habove' id rfl))
  | some id =>
    cases above' with
    | none => exact absurd h (hroot (habove id rfl))
    | some id' =>
      obtain ⟨w, hid⟩ := exists_widget? (habove id rfl)
      obtain ⟨w', hid'⟩ := exists_widget? (habove' id' rfl)
      rw [place, place, hid, hid'] at h
      have hsame : w.contentNode = w'.contentNode := h
      -- no node belongs to two widgets
      refine Decidable.byContradiction fun hne => ?_
      have hmem' : w.contentNode ∈ w'.nodes := hsame ▸ w'.contentNode_mem
      exact hc.faithful.disjoint hid hid' (fun he => hne (congrArg some he)) _ w.contentNode_mem
        hmem'

end Orderly

/-- An encounter keeps a canvas orderly. -/
theorem Orderly.meet {m : Encounter} {theme : Theme} {bench bench' : Workbench}
    (hc : bench.canvas.Orderly) (h : Workbench.meet theme bench m = .ok bench') :
    bench'.canvas.Orderly := by
  rw [Workbench.meet] at h
  cases hvisit : (Workbench.visit theme bench (bench.canvas.place m.above) m.element).run.value with
  | error breakdown => rw [hvisit] at h; cases h
  | ok visited =>
    rw [hvisit] at h
    cases h
    exact hc.visit hvisit

end Canvas

/-- What every encounter of a walk keeps holds at the end of it. Each encounter gets the next id and
finds its place. -/
theorem Workbench.walk_numbered_induction {p : List Encounter → Workbench → Prop} {theme : Theme}
    {bench bench' : Workbench} {met : List Encounter}
    (hmeet : ∀ {before between between' m}, m ∈ met → m.widget = ⟨between.canvas.widgets.size⟩ →
      between.canvas.HasAbove m.above → Workbench.meet theme between m = .ok between' →
      p before between → p (before ++ [m]) between')
    (hnumbered : Encounter.Numbered bench.canvas.widgets.size met)
    (h : Workbench.walk theme bench met = .ok bench') (hp : p [] bench) : p met bench' := by
  -- by induction on what is still ahead, for any encounters that have been before
  have hall : ∀ (rest before : List Encounter) (bench : Workbench), (∀ m ∈ rest, m ∈ met) →
      Encounter.Numbered bench.canvas.widgets.size rest →
      Workbench.walk theme bench rest = .ok bench' → p before bench → p (before ++ rest) bench' := by
    intro rest
    induction rest with
    | nil =>
      rintro before bench - - ⟨⟩ hp
      rwa [List.append_nil]
    | cons m rest ih =>
      rintro before bench hmem ⟨hwidget, habove, hnumbered⟩ h hp
      rw [Workbench.walk_cons] at h
      cases hfirst : Workbench.meet theme bench m with
      | error breakdown => rw [hfirst] at h; cases h
      | ok between =>
        rw [hfirst] at h
        rw [← (Workbench.meet_widgets hfirst).1] at hnumbered
        have hbetween := hmeet (hmem m List.mem_cons_self) hwidget habove hfirst hp
        have hlast := ih (before ++ [m]) between (fun m' hm' => hmem m' (List.mem_cons_of_mem _ hm'))
          hnumbered h hbetween
        rwa [List.append_assoc] at hlast
  exact hall met [] bench (fun _ hm => hm) hnumbered h hp

namespace Canvas

variable {canvas canvas' : Canvas} {above above' : Option WidgetId}

/-! ### Growth -/

/-- The nodes of the widgets that have been built for encounters below a widget, in order. -/
def nodesBelow (canvas : Canvas) (met : List Encounter) (above : Option WidgetId) : List NodeId :=
  (met.filter fun m => m.isKept && decide (m.above = above)).filterMap fun m =>
    (canvas.widget? m.widget).map Handle.node

/-- A canvas has grown by the widgets of some encounters. -/
structure GrownBy (before : Canvas) (met : List Encounter) (after : Canvas) : Prop where
  /-- There is one more widget for each element that is kept. -/
  size : after.widgets.size = before.widgets.size + met.countP Encounter.isKept
  /-- The widgets that were there are as they were. -/
  old : ∀ id : WidgetId, id.index < before.widgets.size → after.widget? id = before.widget? id
  /-- The new widgets have the next ids, in the order of the encounters. -/
  ids : (met.filter Encounter.isKept).map Encounter.widget =
    (List.range' before.widgets.size (met.countP Encounter.isKept)).map WidgetId.mk
  /-- The widget of an element has its name and its kind, and its node is a child of the place that
  the nearest kept element above has for it. The nodes that have been made for it hang below its own
  node. -/
  kept : ∀ m ∈ met, m.isKept = true → after.HasAbove m.above ∧
    ∃ h, after.widget? m.widget = some h ∧ m.element.fate = .kept h.name h.kind ∧
      (∃ t, after.scene.ties? h.node = some t ∧ t.parent = some (after.place m.above)) ∧
      h.HasContent after.scene ∧
      ∀ j, h.Owns j → j ≠ h.node →
        ∃ t p, after.scene.ties? j = some t ∧ t.parent = some p ∧ h.Owns p
  /-- The nodes of widgets at one place are its last children, in the order of the encounters. -/
  order : ∀ above, after.HasAbove above →
    after.nodesBelow met above <:+ after.scene.children (after.place above)
  /-- The nodes that are there are those that were there and those that have been made for the
  widgets of kept elements. -/
  live : ∀ j, after.scene.contains j = true ↔ before.scene.contains j = true ∨
    ∃ m ∈ met, m.isKept = true ∧ ∃ h, after.widget? m.widget = some h ∧ h.Owns j

theorem nodesBelow_append (canvas : Canvas) (first rest : List Encounter)
    (above : Option WidgetId) : canvas.nodesBelow (first ++ rest) above =
      canvas.nodesBelow first above ++ canvas.nodesBelow rest above := by
  rw [nodesBelow, List.filter_append, List.filterMap_append]
  rfl

theorem nodesBelow_congr {met : List Encounter} (h : ∀ m ∈ met, m.isKept = true →
    canvas'.widget? m.widget = canvas.widget? m.widget) (above : Option WidgetId) :
    canvas'.nodesBelow met above = canvas.nodesBelow met above := by
  refine List.filterMap_congr fun m hm => ?_
  obtain ⟨hmem, hkept⟩ := List.mem_filter.mp hm
  rw [h m hmem (Bool.and_eq_true_iff.mp hkept).1]

theorem nodesBelow_eq_nil {met : List Encounter} {above : Option WidgetId}
    (h : ∀ m ∈ met, m.isKept = true → m.above ≠ above) : canvas.nodesBelow met above = [] := by
  have hnone : (met.filter fun m => m.isKept && decide (m.above = above)) = [] := by
    refine List.filter_eq_nil_iff.mpr fun m hm hkept => ?_
    obtain ⟨hkept, habove⟩ := Bool.and_eq_true_iff.mp hkept
    exact h m hm hkept (of_decide_eq_true habove)
  rw [nodesBelow, hnone]
  rfl

namespace GrownBy

variable {before : Canvas} {met : List Encounter} {m : Encounter}

theorem nil (canvas : Canvas) : canvas.GrownBy [] canvas where
  size := rfl
  old := fun _ _ => rfl
  ids := rfl
  kept := nofun
  order := fun _ _ => List.nil_suffix
  live := fun j => by simp

/-- Where no widget is built, nothing in the structure changes. -/
theorem pass (hg : before.GrownBy met canvas) (hkept : m.isKept = false)
    (hwidgets : canvas'.widgets = canvas.widgets)
    (hnodes : ∀ j, canvas'.scene.node? j = canvas.scene.node? j) :
    before.GrownBy (met ++ [m]) canvas' := by
  have hwidget (id : WidgetId) : canvas'.widget? id = canvas.widget? id := by
    rw [widget?, hwidgets, widget?]
  have hties (j : NodeId) : canvas'.scene.ties? j = canvas.scene.ties? j := by
    rw [Scene.ties?, hnodes, Scene.ties?]
  have hlive (j : NodeId) : canvas'.scene.contains j = canvas.scene.contains j := by
    rw [Scene.contains, hnodes, Scene.contains]
  have hplace (above : Option WidgetId) : canvas'.place above = canvas.place above := by
    cases above with
    | none => rfl
    | some id => rw [place, place, hwidget]
  have habove (above : Option WidgetId) : canvas'.HasAbove above ↔ canvas.HasAbove above := by
    rw [HasAbove, hwidgets, HasAbove]
  have hmem {m' : Encounter} (hm' : m' ∈ met ++ [m]) (hkept' : m'.isKept = true) : m' ∈ met := by
    rcases List.mem_append.mp hm' with hm' | hm'
    · exact hm'
    · rw [List.mem_singleton.mp hm', hkept] at hkept'
      cases hkept'
  have hcount : (met ++ [m]).countP Encounter.isKept = met.countP Encounter.isKept := by
    rw [List.countP_append, List.countP_singleton, hkept]
    rfl
  refine ⟨?_, fun id hid => (hwidget id).trans (hg.old id hid), ?_, fun m' hm' hkept' => ?_,
    fun above hcanvas => ?_, fun j => ?_⟩
  · rw [hwidgets, hcount, hg.size]
  · rw [List.filter_append, List.filter_cons_of_neg (by simp [hkept]), List.filter_nil,
      List.append_nil, hcount, hg.ids]
  · obtain ⟨hcanvas, h, hid, hfate, hparent, hcontent, hparts⟩ :=
      hg.kept m' (hmem hm' hkept') hkept'
    refine ⟨(habove _).mpr hcanvas, h, (hwidget _).trans hid, hfate, ?_, ?_, ?_⟩
    · rw [hties, hplace]
      exact hparent
    · rw [Handle.HasContent] at hcontent ⊢
      simpa only [hties] using hcontent
    · simpa only [hties] using hparts
  · have hnone : canvas'.nodesBelow [m] above = [] := nodesBelow_eq_nil fun m' hm' hkept' => by
      rw [List.mem_singleton.mp hm', hkept] at hkept'
      cases hkept'
    rw [nodesBelow_append, hnone, List.append_nil, hplace,
      nodesBelow_congr (fun m' _ _ => hwidget m'.widget), Scene.children, hnodes, ← Scene.children]
    exact hg.order above ((habove above).mp hcanvas)
  · rw [hlive, hg.live]
    refine or_congr_right ⟨?_, ?_⟩
    · rintro ⟨m', hm', hkept', h, hid, howns⟩
      exact ⟨m', List.mem_append_left _ hm', hkept', h, (hwidget _).trans hid, howns⟩
    · rintro ⟨m', hm', hkept', h, hid, howns⟩
      exact ⟨m', hmem hm' hkept', hkept', h, (hwidget _).symm.trans hid, howns⟩

end GrownBy

/-- A canvas has gained the widget of an encounter. -/
structure Gains (canvas : Canvas) (m : Encounter) (h : Handle) (canvas' : Canvas) : Prop where
  fate : m.element.fate = .kept h.name h.kind
  next : m.widget = ⟨canvas.widgets.size⟩
  above : canvas.HasAbove m.above
  built : canvas.Built (canvas.place m.above) h canvas'
  widget : canvas'.widget? m.widget = some h
  size : canvas'.widgets.size = canvas.widgets.size + 1
  old : ∀ id : WidgetId, id.index < canvas.widgets.size → canvas'.widget? id = canvas.widget? id

namespace Gains

variable {m : Encounter} {h : Handle}

theorem isKept (hm : canvas.Gains m h canvas') : m.isKept = true := by
  rw [Encounter.isKept, hm.fate]
  rfl

theorem place_eq (hm : canvas.Gains m h canvas') (habove : canvas.HasAbove above) :
    canvas'.place above = canvas.place above := place_congr habove hm.old

theorem hasAbove (hm : canvas.Gains m h canvas') (habove : canvas.HasAbove above) :
    canvas'.HasAbove above := by
  intro id hid
  rw [hm.size]
  exact Nat.lt_succ_of_lt (habove id hid)

/-- The one place that is new is that of the widget itself. -/
theorem hasAbove_of_ne (hm : canvas.Gains m h canvas') (habove : canvas'.HasAbove above)
    (hne : above ≠ some m.widget) : canvas.HasAbove above := by
  intro id hid
  have hlt := habove id hid
  rw [hm.size] at hlt
  have hnext : id.index ≠ canvas.widgets.size := fun he =>
    hne (hid.trans (congrArg some ((WidgetId.ext_index_iff.mpr he).trans hm.next.symm)))
  omega

theorem nodesBelow_singleton (hm : canvas.Gains m h canvas') :
    canvas'.nodesBelow [m] above = if m.above = above then [h.node] else [] := by
  by_cases he : m.above = above
  · simp [nodesBelow, hm.isKept, he, hm.widget]
  · simp [nodesBelow, he]

end Gains

namespace GrownBy

variable {before : Canvas} {met : List Encounter} {m : Encounter} {h : Handle}

theorem widget?_gain (hg : before.GrownBy met canvas) (hm : canvas.Gains m h canvas')
    {m' : Encounter} (hmem : m' ∈ met) (hkept : m'.isKept = true) :
    canvas'.widget? m'.widget = canvas.widget? m'.widget := by
  obtain ⟨-, w, hid, -⟩ := hg.kept m' hmem hkept
  exact hm.old _ (widget?_lt hid)

/-- The node of a new widget is the last child of its place, and the others are as they were. -/
theorem order_gain (hg : before.GrownBy met canvas) (hc : canvas.Orderly)
    (hm : canvas.Gains m h canvas') (habove : canvas'.HasAbove above) :
    canvas'.nodesBelow (met ++ [m]) above <:+ canvas'.scene.children (canvas'.place above) := by
  by_cases hnew : above = some m.widget
  · -- nothing has been put below the new widget yet
    have hnil : canvas'.nodesBelow (met ++ [m]) above = [] := by
      refine nodesBelow_eq_nil fun m' hm' hkept' he => ?_
      have hthere : canvas.HasAbove m'.above := by
        rcases List.mem_append.mp hm' with hm' | hm'
        · exact (hg.kept m' hm' hkept').1
        · rw [List.mem_singleton.mp hm']
          exact hm.above
      have hlt := hthere m.widget (he.trans hnew)
      rw [hm.next] at hlt
      exact Nat.lt_irrefl _ hlt
    rw [hnil]
    exact List.nil_suffix
  · have hthere := hm.hasAbove_of_ne habove hnew
    have hsame : (canvas.place above = canvas.place m.above) = (m.above = above) :=
      propext ⟨fun he => hc.place_inj hm.above hthere he.symm, fun he => by rw [he]⟩
    obtain ⟨older, holder⟩ := hg.order above hthere
    rw [nodesBelow_append, nodesBelow_congr (fun _ => hg.widget?_gain hm), hm.nodesBelow_singleton,
      hm.place_eq hthere, hm.built.children (hc.contains_place hthere), ← holder]
    simp only [hsame, List.append_assoc]
    exact List.suffix_append _ _

/-- A canvas that gains the widget of an encounter has grown by it. -/
theorem gain (hg : before.GrownBy met canvas) (hc : canvas.Orderly)
    (hm : canvas.Gains m h canvas') : before.GrownBy (met ++ [m]) canvas' := by
  have hcount : (met ++ [m]).countP Encounter.isKept = met.countP Encounter.isKept + 1 := by
    rw [List.countP_append, List.countP_singleton, hm.isKept]
    rfl
  refine ⟨?size, fun id hid => ?old, ?ids, fun m' hm' hkept' => ?kept,
    fun above => hg.order_gain hc hm, fun j => ?live⟩
  case size => rw [hm.size, hcount, hg.size, Nat.add_assoc]
  case old => rw [hm.old id (by rw [hg.size]; omega), hg.old id hid]
  case ids =>
    rw [List.filter_append, List.filter_cons_of_pos hm.isKept, List.filter_nil, hcount,
      List.map_append, hg.ids, List.range'_concat, List.map_append, List.map_singleton,
      List.map_singleton, hm.next, hg.size, Nat.one_mul]
  case kept =>
    rcases List.mem_append.mp hm' with hm' | hm'
    · obtain ⟨hthere, w, hid, hfate, ⟨t, ht, hp⟩, hcontent, hparts⟩ := hg.kept m' hm' hkept'
      refine ⟨hm.hasAbove hthere, w, (hg.widget?_gain hm hm' hkept').trans hid, hfate, ?_,
        hcontent.mono hm.built.keeps, fun j hj hne => ?_⟩
      · obtain ⟨t', ht', -, hp'⟩ := hm.built.keeps ht
        exact ⟨t', ht', by rw [hp', hp, hm.place_eq hthere]⟩
      · obtain ⟨t, p, ht, hp, howns⟩ := hparts j hj hne
        obtain ⟨t', ht', -, hp'⟩ := hm.built.keeps ht
        exact ⟨t', p, ht', hp'.trans hp, howns⟩
    · obtain rfl := List.mem_singleton.mp hm'
      refine ⟨hm.hasAbove hm.above, h, hm.widget, hm.fate, ?_, hm.built.content, hm.built.parts⟩
      rw [hm.place_eq hm.above]
      exact hm.built.own
  case live =>
    rw [hm.built.contains_iff, hg.live, or_assoc]
    refine or_congr_right ⟨?_, ?_⟩
    · rintro (⟨m', hm', hkept', w, hid, howns⟩ | howns)
      · exact ⟨m', List.mem_append_left _ hm', hkept', w,
          (hg.widget?_gain hm hm' hkept').trans hid, howns⟩
      · exact ⟨m, List.mem_append_right _ (List.mem_singleton.mpr rfl), hm.isKept, h, hm.widget,
          howns⟩
    · rintro ⟨m', hm', hkept', w, hid, howns⟩
      rcases List.mem_append.mp hm' with hm' | hm'
      · exact .inl ⟨m', hm', hkept', w, (hg.widget?_gain hm hm' hkept').symm.trans hid, howns⟩
      · rw [List.mem_singleton.mp hm', hm.widget] at hid
        exact .inr (Option.some.inj hid ▸ howns)

end GrownBy

/-- An encounter adds the widget of an element that is kept to the structure, and nothing else. -/
theorem GrownBy.meet {before : Canvas} {met : List Encounter} {m : Encounter} {theme : Theme}
    {bench bench' : Workbench} (hg : before.GrownBy met bench.canvas) (hc : bench.canvas.Orderly)
    (hm : m.widget = ⟨bench.canvas.widgets.size⟩) (habove : bench.canvas.HasAbove m.above)
    (h : Workbench.meet theme bench m = .ok bench') :
    before.GrownBy (met ++ [m]) bench'.canvas := by
  obtain ⟨hsize, hold⟩ := Workbench.meet_widgets h
  obtain ⟨below, hvisited⟩ := Workbench.meet_cases h
  cases hvisited with
  | unnamed hfate => exact hg.pass (by rw [Encounter.isKept, hfate]; rfl) rfl fun _ => rfl
  | unknown hfate => exact hg.pass (by rw [Encounter.isKept, hfate]; rfl) rfl fun _ => rfl
  | failed hfate =>
    -- the node that has been made for the element is destroyed again
    exact hg.pass (by rw [Encounter.isKept, hfate]; rfl) rfl fun j => hc.tree.node?_destroy_create
  | @kept name kind outfit blueprint _ hfate hread =>
    rw [List.countP_singleton, Encounter.isKept, hfate] at hsize
    obtain ⟨r, hread⟩ := hread
    have hbuilt := build_built (hc.contains_place habove) name outfit (bench.groupOf blueprint)
      (Blueprint.read_isScrollArea hread)
    -- binding the new widget changes neither its stem nor the tree
    let grown := bench.grow (bench.canvas.place m.above) name kind outfit blueprint
    have hsame := Workbench.sameTree_bindTo grown m.element.slotAsked ⟨bench.canvas.widgets.size⟩
    obtain ⟨w, hid, hstem⟩ := bench.widget?_bindTo_grow (bench.canvas.place m.above) name kind
      outfit blueprint m.element.slotAsked
    have hname : w.stem.name = name := by rw [hstem]; rfl
    have hkind : w.stem.kind = kind := by rw [hstem]; rfl
    refine hg.gain hc ⟨?_, hm, habove, hbuilt.congr hstem hsame, hm ▸ hid, hsize, hold⟩
    exact hfate.trans (congr (congrArg _ hname.symm) hkind.symm)

/-- A walk leaves a canvas that has grown by the widgets of its encounters. -/
theorem GrownBy.walk {met : List Encounter} {theme : Theme} {bench bench' : Workbench}
    (hc : bench.canvas.Orderly) (hnumbered : Encounter.Numbered bench.canvas.widgets.size met)
    (h : Workbench.walk theme bench met = .ok bench') : bench.canvas.GrownBy met bench'.canvas := by
  have hall := Workbench.walk_numbered_induction
    (p := fun before between => bench.canvas.GrownBy before between.canvas ∧ between.canvas.Orderly)
    (fun _ hwidget habove hmeet ⟨hg, hc⟩ => ⟨hg.meet hc hwidget habove hmeet, hc.meet hmeet⟩)
    hnumbered h ⟨.nil _, hc⟩
  exact hall.1

end Canvas

end Uiml
