import Uiml.Proofs.Build.Fate
import Uiml.Proofs.Canvas.Local

/-!
# The walk through a document

Compiling visits the elements of a document in preorder, and goes below an element if it is kept or
its tag is unknown. Which elements are visited, and below which of them their widgets go, is settled
by the document alone; so compiling is the same as going along a list of encounters, each of which
finds its place in the canvas that the ones before it have left.

## Main definitions

* `Element.Encounter`, `Element.encountersAll` — the elements that are visited, in preorder
* `Canvas.place` — the node below which the widgets of elements below a widget go
* `Workbench.walk` — going along a list of encounters

## Main results

* `Workbench.compileAll_eq_walk` — to compile elements is to walk through them
* `Workbench.walk_stats` — the counts of a walk
-/

namespace Uiml

namespace Element

/-- An element is visited. -/
structure Encounter where
  /-- The element by itself. -/
  element : Element
  /-- The widget of the nearest element above that is kept. -/
  above : Option WidgetId
  /-- The id that the widget of the element gets if it is kept. -/
  widget : WidgetId

/-- Whether a widget is built. -/
def Fate.isKept : Fate → Bool
  | .kept _ _ => true
  | _ => false

/-- Whether an element cannot be built. -/
def Fate.isFailed : Fate → Bool
  | .failed _ => true
  | _ => false

namespace Encounter

def isKept (m : Encounter) : Bool := m.element.fate.isKept

/-- What is counted of two walks, one after the other. -/
instance : Add CompileStats :=
  ⟨fun s t => ⟨s.created + t.created, s.unnamed + t.unnamed, s.unknown + t.unknown,
    s.failed + t.failed⟩⟩

/-- What is counted of encounters. -/
def tally (met : List Encounter) : CompileStats :=
  { created := met.countP isKept
    unnamed := met.countP fun m => m.element.fate = .unnamed
    unknown := met.countP fun m => m.element.fate = .unknown
    failed := met.countP fun m => m.element.fate.isFailed }

end Encounter

mutual

/-- The elements at and below an element that are visited, below a widget and from an id on. -/
def encounters (above : Option WidgetId) (next : Nat) : Element → List Encounter
  | ⟨tag, attributes, children, _⟩ =>
    let e : Element := { tag, attributes }
    ⟨e, above, ⟨next⟩⟩ ::
      match e.fate with
      | .kept _ _ => encountersAll (some ⟨next⟩) (next + 1) children
      | .unknown => encountersAll above next children
      | .unnamed | .failed _ | .broken _ => []

/-- The elements at and below some elements that are visited, below a widget and from an id on. -/
def encountersAll (above : Option WidgetId) (next : Nat) : List Element → List Encounter
  | [] => []
  | e :: rest =>
    let first := encounters above next e
    first ++ encountersAll above (next + first.countP Encounter.isKept) rest

end

theorem encounters_eq (above : Option WidgetId) (next : Nat) (e : Element) :
    encounters above next e = ⟨e.bare, above, ⟨next⟩⟩ ::
      match e.fate with
      | .kept _ _ => encountersAll (some ⟨next⟩) (next + 1) e.children
      | .unknown => encountersAll above next e.children
      | .unnamed | .failed _ | .broken _ => [] := by
  obtain ⟨tag, attributes, children, pos⟩ := e
  rw [encounters]
  rfl

end Element

open Element (Encounter Fate encounters encountersAll)

theorem CompileStats.add_assoc (s t u : CompileStats) : s + t + u = s + (t + u) := by
  change CompileStats.mk _ _ _ _ = CompileStats.mk _ _ _ _
  simp only [HAdd.hAdd, Add.add]
  simp [Nat.add_assoc]

theorem Element.Encounter.tally_append (first rest : List Encounter) :
    tally (first ++ rest) = tally first + tally rest := by
  change CompileStats.mk _ _ _ _ = CompileStats.mk _ _ _ _
  simp [tally]

namespace Canvas

/-- The node below which the widgets of elements go that are below a widget, or below none. -/
def place (canvas : Canvas) : Option WidgetId → NodeId
  | none => Scene.root
  | some id => ((canvas.widget? id).map Handle.contentNode).getD Scene.root

variable {canvas canvas' : Canvas}

theorem place_congr {above : Option WidgetId}
    (habove : ∀ id, above = some id → id.index < canvas.widgets.size)
    (hwidgets : ∀ id : WidgetId, id.index < canvas.widgets.size →
      canvas'.widget? id = canvas.widget? id) : canvas'.place above = canvas.place above := by
  cases above with
  | none => rfl
  | some id => rw [place, place, hwidgets id (habove id rfl)]

end Canvas

namespace Workbench

variable {theme : Theme} {bench bench' : Workbench} {m : Encounter} {met : List Encounter}
  {above : Option WidgetId} {name : String} {kind : Element.Kind}

/-- Visits an element at its place. -/
def meet (theme : Theme) (bench : Workbench) (m : Encounter) : Except Breakdown Workbench :=
  (visit theme bench (bench.canvas.place m.above) m.element).run.value.map Prod.snd

/-- Visits elements, each at its place. -/
def walk (theme : Theme) (bench : Workbench) (met : List Encounter) : Except Breakdown Workbench :=
  met.foldlM (meet theme) bench

/-! ### One encounter -/

theorem meet_unnamed (hfate : m.element.fate = .unnamed) : meet theme bench m =
    .ok (bench.count fun stats => { stats with unnamed := stats.unnamed + 1 }) := by
  rw [meet, visit_unnamed (Element.fate_eq_unnamed.mp hfate)]
  rfl

theorem meet_unknown (hfate : m.element.fate = .unknown) : meet theme bench m =
    .ok (bench.count fun stats => { stats with unknown := stats.unknown + 1 }) := by
  obtain ⟨⟨name, hname⟩, hkind⟩ := Element.fate_eq_unknown.mp hfate
  rw [meet, visit_unknown hname hkind]
  rfl

theorem meet_broken {breakdown : Breakdown} (hfate : m.element.fate = .broken breakdown) :
    meet theme bench m = .error breakdown := by
  rw [meet, visit_broken hfate]
  rfl

theorem meet_failed (theme : Theme) (bench : Workbench) (hfate : m.element.fate = .failed name) :
    ∃ resolver, (bench.resolver.Sound → resolver.Sound) ∧ meet theme bench m =
      .ok (({ bench with
          resolver, canvas := bench.canvas.discard (bench.canvas.place m.above) name } :
            Workbench).count fun stats => { stats with failed := stats.failed + 1 }) := by
  obtain ⟨resolver, hsound, hvisit⟩ := visit_failed theme bench _ hfate
  exact ⟨resolver, hsound, by rw [meet, hvisit]; rfl⟩

theorem meet_kept (theme : Theme) (bench : Workbench) (hfate : m.element.fate = .kept name kind) :
    ∃ outfit blueprint resolver,
      (∃ r, ((Blueprint.read theme m.element kind).run r).value.1 = .ok blueprint) ∧
      (bench.resolver.Sound →
        m.element.design theme kind = (outfit, .ok blueprint) ∧ resolver.Sound) ∧
      meet theme bench m =
        .ok { (bench.grow (bench.canvas.place m.above) name kind outfit blueprint).bindTo
            m.element.slotAsked ⟨bench.canvas.widgets.size⟩ with resolver } := by
  obtain ⟨outfit, blueprint, resolver, hread, hsettled, hvisit⟩ := visit_kept theme bench _ hfate
  exact ⟨outfit, blueprint, resolver, hread, hsettled, by rw [meet, hvisit]; rfl⟩

/-- An encounter that does not break down is a visit at its place. -/
theorem meet_cases (h : meet theme bench m = .ok bench') :
    ∃ below, Visited theme bench (bench.canvas.place m.above) m.element below bench' := by
  rw [meet] at h
  cases hvisit : (visit theme bench (bench.canvas.place m.above) m.element).run.value with
  | error breakdown => rw [hvisit] at h; cases h
  | ok visited =>
    rw [hvisit] at h
    cases h
    exact ⟨visited.1, visit_cases hvisit⟩

theorem size_bindTo (bench : Workbench) (asked : Option Nat) (id : WidgetId) :
    (bench.bindTo asked id).canvas.widgets.size = bench.canvas.widgets.size := by
  cases asked with
  | none => rfl
  | some index => exact Slots.size_bind

theorem widget?_bindTo_of_ne (bench : Workbench) (asked : Option Nat) {id j : WidgetId}
    (hne : j ≠ id) : (bench.bindTo asked id).canvas.widget? j = bench.canvas.widget? j := by
  cases asked with
  | none => rfl
  | some index => exact Slots.widget?_bind_of_ne hne

theorem stem_bindTo (bench : Workbench) (asked : Option Nat) {id j : WidgetId} :
    ((bench.bindTo asked id).canvas.widget? j).map Handle.stem =
      (bench.canvas.widget? j).map Handle.stem := by
  cases asked with
  | none => rfl
  | some index => exact Slots.stem_bind

theorem sameTree_bindTo (bench : Workbench) (asked : Option Nat) (id : WidgetId) :
    bench.canvas.scene.SameTree (bench.bindTo asked id).canvas.scene := by
  cases asked with
  | none => exact .refl _
  | some index => exact Slots.sameTree_bind

theorem stats_bindTo (bench : Workbench) (asked : Option Nat) (id : WidgetId) :
    (bench.bindTo asked id).stats = bench.stats := by
  cases asked <;> rfl

/-- An encounter adds a widget if the element is kept, and leaves those alone that are there. -/
theorem meet_widgets (h : meet theme bench m = .ok bench') :
    bench'.canvas.widgets.size = bench.canvas.widgets.size + [m].countP Encounter.isKept ∧
      ∀ id : WidgetId, id.index < bench.canvas.widgets.size →
        bench'.canvas.widget? id = bench.canvas.widget? id := by
  obtain ⟨below, hvisited⟩ := meet_cases h
  cases hvisited with
  | unnamed hfate =>
    exact ⟨by simp [Encounter.isKept, hfate, Element.Fate.isKept, count], fun _ _ => rfl⟩
  | unknown hfate =>
    exact ⟨by simp [Encounter.isKept, hfate, Element.Fate.isKept, count], fun _ _ => rfl⟩
  | failed hfate =>
    refine ⟨?_, fun _ _ => rfl⟩
    simp [Encounter.isKept, hfate, Element.Fate.isKept, count, Canvas.discard]
  | kept hfate =>
    refine ⟨(size_bindTo _ _ _).trans ?_, fun id hid => ?_⟩
    · simp [Encounter.isKept, hfate, Element.Fate.isKept, grow, Canvas.build, Canvas.furnish]
    · have hne := Canvas.ne_next hid
      refine (widget?_bindTo_of_ne _ _ hne).trans ?_
      rw [grow, Canvas.widget?_build, if_neg hne]

/-- An encounter is counted. -/
theorem meet_stats (h : meet theme bench m = .ok bench') :
    bench'.stats = bench.stats + Encounter.tally [m] := by
  -- counts are added field by field, so that each fate adds to its own
  have htally (stats : CompileStats) (f : CompileStats → CompileStats)
      (hf : f stats = ⟨stats.created + (Encounter.tally [m]).created,
        stats.unnamed + (Encounter.tally [m]).unnamed,
        stats.unknown + (Encounter.tally [m]).unknown,
        stats.failed + (Encounter.tally [m]).failed⟩) : f stats = stats + Encounter.tally [m] := hf
  obtain ⟨below, hvisited⟩ := meet_cases h
  cases hvisited with
  | unnamed hfate =>
    exact htally _ (fun stats => { stats with unnamed := stats.unnamed + 1 })
      (by simp [Encounter.tally, Encounter.isKept, hfate, Fate.isKept, Fate.isFailed])
  | unknown hfate =>
    exact htally _ (fun stats => { stats with unknown := stats.unknown + 1 })
      (by simp [Encounter.tally, Encounter.isKept, hfate, Fate.isKept, Fate.isFailed])
  | failed hfate =>
    exact htally _ (fun stats => { stats with failed := stats.failed + 1 })
      (by simp [Encounter.tally, Encounter.isKept, hfate, Fate.isKept, Fate.isFailed])
  | kept hfate =>
    refine (stats_bindTo _ _ _).trans ?_
    exact htally _ (fun stats => { stats with created := stats.created + 1 })
      (by simp [Encounter.tally, Encounter.isKept, hfate, Fate.isKept, Fate.isFailed])

/-! ### Walks -/

theorem walk_cons (rest : List Encounter) :
    walk theme bench (m :: rest) = (meet theme bench m).bind fun bench => walk theme bench rest :=
  rfl

theorem walk_append (first rest : List Encounter) :
    walk theme bench (first ++ rest) =
      (walk theme bench first).bind fun bench => walk theme bench rest := by
  rw [walk, List.foldlM_append]
  rfl

/-- What every encounter keeps, as the list of encounters goes on, holds at the end of a walk. -/
theorem walk_induction {p : List Encounter → Workbench → Prop}
    (hmeet : ∀ {before bench bench' m}, meet theme bench m = .ok bench' → p before bench →
      p (before ++ [m]) bench') (h : walk theme bench met = .ok bench') (hp : p [] bench) :
    p met bench' := by
  -- by induction on what is still ahead, for any encounters that have been before
  have hall : ∀ (met before : List Encounter) (bench : Workbench),
      walk theme bench met = .ok bench' → p before bench → p (before ++ met) bench' := by
    intro met
    induction met with
    | nil =>
      rintro before bench ⟨⟩ hp
      rwa [List.append_nil]
    | cons m met ih =>
      intro before bench h hp
      rw [walk_cons] at h
      cases hfirst : meet theme bench m with
      | error breakdown => rw [hfirst] at h; cases h
      | ok between =>
        rw [hfirst] at h
        have hp' := ih (before ++ [m]) between h (hmeet hfirst hp)
        rwa [List.append_assoc] at hp'
  exact hall met [] bench h hp

theorem walk_widgets (h : walk theme bench met = .ok bench') :
    bench'.canvas.widgets.size = bench.canvas.widgets.size + met.countP Encounter.isKept ∧
      ∀ id : WidgetId, id.index < bench.canvas.widgets.size →
        bench'.canvas.widget? id = bench.canvas.widget? id := by
  refine walk_induction
    (p := fun before between =>
      between.canvas.widgets.size = bench.canvas.widgets.size + before.countP Encounter.isKept ∧
      ∀ id : WidgetId, id.index < bench.canvas.widgets.size →
        between.canvas.widget? id = bench.canvas.widget? id)
    (fun {before between between' m} hmeet hp => ?_) h ⟨rfl, fun _ _ => rfl⟩
  obtain ⟨hsize, hold⟩ := hp
  obtain ⟨hsize', hold'⟩ := meet_widgets hmeet
  refine ⟨by rw [hsize', hsize, List.countP_append, Nat.add_assoc], fun id hid => ?_⟩
  rw [hold' id (by omega), hold id hid]

/-- The counts of a walk are those of its encounters. -/
theorem walk_stats (h : walk theme bench met = .ok bench') :
    bench'.stats = bench.stats + Encounter.tally met := by
  refine walk_induction
    (p := fun before between => between.stats = bench.stats + Encounter.tally before)
    (fun hmeet hp => ?_) h rfl
  rw [meet_stats hmeet, hp, Encounter.tally_append, CompileStats.add_assoc]

/-! ### Compiling is walking -/

/-- A new widget is there after it has been bound. -/
theorem widget?_bindTo_grow (bench : Workbench) (parent : NodeId) (name : String)
    (kind : Element.Kind) (outfit : Outfit) (blueprint : Blueprint) (asked : Option Nat) :
    ∃ h, ((bench.grow parent name kind outfit blueprint).bindTo asked
        ⟨bench.canvas.widgets.size⟩).canvas.widget? ⟨bench.canvas.widgets.size⟩ = some h ∧
      h.stem = (bench.canvas.builtHandle parent name kind outfit blueprint
        (bench.groupOf blueprint)).stem := by
  refine Option.map_eq_some_iff.mp ((stem_bindTo _ asked).trans ?_)
  rw [grow, Canvas.widget?_build, if_pos rfl]
  rfl

/-- The place of a new widget is its content node, also after it has been bound. -/
theorem place_bindTo_grow {parent : NodeId} {outfit : Outfit} {blueprint : Blueprint}
    (asked : Option Nat) :
    ((bench.grow parent name kind outfit blueprint).bindTo asked
        ⟨bench.canvas.widgets.size⟩).canvas.place (some ⟨bench.canvas.widgets.size⟩) =
      (bench.canvas.builtHandle parent name kind outfit blueprint
        (bench.groupOf blueprint)).contentNode := by
  obtain ⟨h, hid, hsame⟩ := widget?_bindTo_grow bench parent name kind outfit blueprint asked
  rw [Canvas.place, hid]
  exact (congrArg Handle.contentNode hsame :)

/-- If the children of an element are compiled by walking through them, so is the element. -/
theorem compileElement_eq_walk_of_children (theme : Theme) (e : Element)
    (hchildren : ∀ (bench : Workbench) (above : Option WidgetId),
      (∀ id, above = some id → id.index < bench.canvas.widgets.size) →
      (compileAll theme bench (bench.canvas.place above) e.children).run.value =
        walk theme bench (encountersAll above bench.canvas.widgets.size e.children))
    (bench : Workbench) (above : Option WidgetId)
    (habove : ∀ id, above = some id → id.index < bench.canvas.widgets.size) :
    (compileElement theme bench (bench.canvas.place above) e).run.value =
      walk theme bench (encounters above bench.canvas.widgets.size e) := by
  have hmeet : meet theme bench ⟨e.bare, above, ⟨bench.canvas.widgets.size⟩⟩ =
      (visit theme bench (bench.canvas.place above) e).run.value.map Prod.snd := by
    rw [meet, visit_bare]
  rw [compileElement_value, Element.encounters_eq, walk_cons, hmeet]
  -- the visit lets the children be compiled just if the walk goes on below the element
  cases hfate : e.fate with
  | unnamed =>
    rw [visit_unnamed (Element.fate_eq_unnamed.mp hfate)]
    rfl
  | failed name =>
    obtain ⟨resolver, -, hvalue⟩ := visit_failed theme bench
      (bench.canvas.place above) hfate
    rw [hvalue]
    rfl
  | broken breakdown =>
    rw [visit_broken hfate]
    rfl
  | unknown =>
    obtain ⟨⟨name, hname⟩, hkind⟩ := Element.fate_eq_unknown.mp hfate
    rw [visit_unknown hname hkind]
    exact hchildren (bench.count fun stats => { stats with unknown := stats.unknown + 1 }) above
      habove
  | kept name kind =>
    obtain ⟨outfit, blueprint, resolver, -, -, hvalue⟩ := visit_kept theme bench
      (bench.canvas.place above) hfate
    rw [hvalue]
    -- the children go into the content node of the new widget
    generalize hbench' : ({ bindTo _ _ _ with resolver } : Workbench) = bench'
    have hplace : bench'.canvas.place (some ⟨bench.canvas.widgets.size⟩) =
        (bench.canvas.builtHandle (bench.canvas.place above) name kind outfit blueprint
          (bench.groupOf blueprint)).contentNode := by
      rw [← hbench']
      exact place_bindTo_grow e.slotAsked
    have hsize : bench'.canvas.widgets.size = bench.canvas.widgets.size + 1 := by
      rw [← hbench']
      refine (size_bindTo _ _ _).trans ?_
      simp [grow, Canvas.build, Canvas.furnish]
    have hlt : ∀ id, some (⟨bench.canvas.widgets.size⟩ : WidgetId) = some id →
        id.index < bench'.canvas.widgets.size := by
      rintro _ ⟨⟩
      rw [hsize]
      exact Nat.lt_succ_self _
    have h := hchildren bench' _ hlt
    rw [hplace, hsize] at h
    exact h

mutual

theorem compileElement_eq_walk (theme : Theme) :
    ∀ (e : Element) (bench : Workbench) (above : Option WidgetId),
    (∀ id, above = some id → id.index < bench.canvas.widgets.size) →
    (compileElement theme bench (bench.canvas.place above) e).run.value =
      walk theme bench (encounters above bench.canvas.widgets.size e)
  | ⟨tag, attributes, children, pos⟩ =>
    compileElement_eq_walk_of_children theme ⟨tag, attributes, children, pos⟩
      (compileAll_eq_walk theme children)

/-- To compile elements is to walk through them. -/
theorem compileAll_eq_walk (theme : Theme) :
    ∀ (es : List Element) (bench : Workbench) (above : Option WidgetId),
    (∀ id, above = some id → id.index < bench.canvas.widgets.size) →
    (compileAll theme bench (bench.canvas.place above) es).run.value =
      walk theme bench (encountersAll above bench.canvas.widgets.size es)
  | [], bench, above, habove => by
    rw [compileAll, encountersAll]
    rfl
  | e :: rest, bench, above, habove => by
    rw [compileAll_cons_value, encountersAll, walk_append,
      compileElement_eq_walk theme e bench above habove]
    cases hfirst : walk theme bench (encounters above bench.canvas.widgets.size e) with
    | error breakdown => rfl
    | ok between =>
      -- the place is still there, and the ids go on after those that have been given out
      obtain ⟨hsize, hold⟩ := walk_widgets hfirst
      have hplace := Canvas.place_congr habove hold
      have ih := compileAll_eq_walk theme rest between above fun id hid => by
        have := habove id hid
        omega
      rw [hplace, hsize] at ih
      exact ih

end

end Workbench

end Uiml
