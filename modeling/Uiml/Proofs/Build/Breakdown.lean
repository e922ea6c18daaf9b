import Uiml.Proofs.Number.Order
import Uiml.Proofs.Session.Reach

/-!
# When loading breaks down

Two things can end the program while it builds a document: a progress bar of which a bound is no
number, and a choice of so many options that the last index is negative in 32 bits. Whether an
element cannot be built, and whether building it breaks down, is settled by its attributes alone;
which elements are visited at all is settled by the document alone.

## Main definitions

* `Element.number`, `Element.setback?` — what attributes say, without a resolver
* `Element.reached` — the elements that are visited, as far as none breaks down
* `Element.breaksDown` — a bar of which a bound is no number, or a choice of too many options

## Main results

* `Blueprint.lastIndex_neg_iff` — for how many options the range of their indices is none
* `Workbench.compileAll_reached_induction` — what visits of elements that are reached preserve
* `Workbench.compileAll_error_iff` — compiling breaks down just if such an element is reached
* `Session.load_outcome` — what loading a text can come to
-/

namespace Uiml

/-! ### The last index of options -/

namespace Blueprint

theorem lastIndex_eq (count : Nat) : lastIndex count = ((count : Int) - 1).bmod Int32.size := by
  rw [lastIndex, Int32.toInt_sub, Int32.toInt_ofNat', Int32.toInt_one]
  exact Int.bmod_sub_bmod

/-- The last index of options is negative if their number, as far as 32 bits tell it, is zero or
greater than half of what they can tell. So it is from the first number beyond that half on, until
the numbers start anew. -/
theorem lastIndex_neg_iff (count : Nat) :
    lastIndex count < 0 ↔ count % Int32.size = 0 ∨ Int32.size / 2 < count % Int32.size := by
  rw [lastIndex_eq, Int.bmod_def]
  unfold Int32.size
  omega

/-- An index that is not greater than the last one is that of an option. -/
theorem lastIndex_lt {count : Nat} (h : 0 < count) : lastIndex count < count := by
  rw [lastIndex_eq, Int.bmod_def]
  unfold Int32.size
  omega

end Blueprint

namespace Element

/-- The number that an attribute gives, or a default. -/
def number (e : Element) (key : String) (default : Float32) : Float32 :=
  ((e.attribute? key).bind Attribute.readFloat).getD default

/-- The whole number that an attribute gives, or a default. -/
def integer (e : Element) (key : String) (default : Int) : Int :=
  ((e.attribute? key).bind Attribute.readInt).getD default

/-- The bounds of the range of a progress bar. -/
def range (e : Element) : Float32 × Float32 := (e.number "minValue" 0, e.number "maxValue" 1)

/-- Whether an element offers options, but so many that in 32 bits their number is zero, or greater
than half of what these can tell. -/
def offersTooMany (e : Element) : Bool :=
  let count := (Blueprint.options e).length
  count ≠ 0 && (count % Int32.size = 0 || Int32.size / 2 < count % Int32.size)

/-- Why an element of a kind cannot be built, if it cannot. -/
def setback? (e : Element) (kind : Kind) : Option Setback :=
  match kind with
  | .progressBar =>
    let (min, max) := e.range
    if max < min then some (.fault (.invertedRange .progressBar min max))
    else if min ≤ max then none
    else some (.breakdown (.unorderedRange min max))
  | .gridLayout =>
    let count := e.integer "constraintCount" 1
    if count < 1 then some (.fault (.constraintCount count)) else none
  | .dropdown => if e.offersTooMany then some (.breakdown .emptyRange) else none
  | _ => none

/-- Whether something is to be taken into a range that is none: the value of a progress bar of which
a bound is no number, or the index of one of too many options. -/
def lacksRange (e : Element) (kind : Kind) : Bool :=
  match kind with
  | .progressBar => e.range.1.isNaN || e.range.2.isNaN
  | .dropdown => e.offersTooMany
  | _ => false

/-- Whether building an element breaks down: it has a name, and lacks a range. -/
def breaksDown (e : Element) : Bool :=
  (Resolver.nonBlank? e "name").isSome && e.kind?.any e.lacksRange

/-- Whether the children of an element are visited: it has a name, and its tag is unknown or nothing
is wrong with it. -/
def isOpen (e : Element) : Bool :=
  (Resolver.nonBlank? e "name").isSome &&
    match e.kind? with
    | none => true
    | some kind => (e.setback? kind).isNone

mutual

/-- The elements at and below an element that are visited, as far as none breaks down. -/
def reached : Element → List Element
  | ⟨tag, attributes, children, pos⟩ =>
    let e : Element := ⟨tag, attributes, children, pos⟩
    e :: if e.isOpen then reachedAll children else []

/-- The elements at and below some elements that are visited, as far as none breaks down. -/
def reachedAll : List Element → List Element
  | [] => []
  | e :: rest => reached e ++ reachedAll rest

end

/-- The range of a bar is a breakdown just if a bound is no number. -/
theorem setback?_progressBar_iff (e : Element) :
    (∃ b, e.setback? .progressBar = some (.breakdown b)) ↔ e.lacksRange .progressBar = true := by
  simp only [setback?, lacksRange, Bool.or_eq_true]
  by_cases hinverted : e.range.2 < e.range.1
  · -- an inverted range is a fault, and its bounds can be compared
    have hnumbers : ¬(e.range.1.isNaN = true ∨ e.range.2.isNaN = true) := fun h =>
      Single.not_lt_of_isNaN h.symm hinverted
    rw [if_pos hinverted]
    constructor
    · rintro ⟨b, hb⟩
      cases hb
    · exact fun h => absurd h hnumbers
  · -- bounds that are not inverted and yet not in order cannot be compared
    rw [← Single.not_le_iff hinverted]
    by_cases hordered : e.range.1 ≤ e.range.2 <;> simp [hinverted, hordered]

/-- A setback is a breakdown just if a range is lacking. -/
theorem setback?_eq_breakdown_iff (e : Element) (kind : Kind) :
    (∃ b, e.setback? kind = some (.breakdown b)) ↔ e.lacksRange kind = true := by
  cases kind with
  | progressBar => exact e.setback?_progressBar_iff
  | gridLayout =>
    rw [setback?]
    split <;> simp [lacksRange]
  | dropdown =>
    rw [setback?, lacksRange]
    split <;> simp_all
  | _ => simp [setback?, lacksRange]

end Element

namespace Resolver

variable (e : Element) (key : String) (r : Resolver)

/-- What is read as a number does not depend on what the resolver has read before. -/
theorem float_value (default : Float32) :
    ((float e key default).run r).value.1 = e.number key default := by
  rw [float, resolve, Element.number]
  cases e.attribute? key with
  | none => rfl
  | some raw =>
    cases hread : Attribute.readFloat raw <;> simp [hread]

theorem int_value (default : Int) :
    ((int e key default).run r).value.1 = e.integer key default := by
  rw [int, resolve, Element.integer]
  cases e.attribute? key with
  | none => rfl
  | some raw =>
    cases hread : Attribute.readInt raw <;> simp [hread]

end Resolver

/-- What is wrong with a blueprint, if something is. -/
def Setback.of? : Except Setback Blueprint → Option Setback
  | .ok _ => none
  | .error setback => some setback

namespace Blueprint

variable (theme : Theme) (e : Element) (r : Resolver)

theorem readProgressBar_setback :
    Setback.of? ((readProgressBar theme e).run r).value.1 = e.setback? .progressBar := by
  rw [readProgressBar, Element.setback?, Element.range]
  simp only [StateT.run_bind, Logged.bind_value, Resolver.float_value]
  by_cases hinverted : e.number "maxValue" 1 < e.number "minValue" 0
  · rw [if_pos hinverted, if_pos hinverted]
    rfl
  · rw [if_neg hinverted, if_neg hinverted]
    by_cases hordered : e.number "minValue" 0 ≤ e.number "maxValue" 1
    · simp only [hordered, decide_true, Bool.not_true, Bool.false_eq_true, if_false, if_true]
      rfl
    · simp only [hordered, decide_false, Bool.not_false, if_true, if_false]
      rfl

theorem readGrid_setback :
    Setback.of? ((readGrid e).run r).value.1 = e.setback? .gridLayout := by
  rw [readGrid, Element.setback?]
  simp only [StateT.run_bind, Logged.bind_value, Resolver.int_value]
  by_cases hcount : e.integer "constraintCount" 1 < 1
  · rw [if_pos hcount, if_pos hcount]
    rfl
  · rw [if_neg hcount, if_neg hcount]
    rfl

/-- The options of a choice have a last index, and the chosen one is there, or nothing is chosen
from them because they are too many. -/
theorem chosen_cases (e : Element) (requested : Int) :
    (chosen (options e).length requested = .error .emptyRange ∧ e.offersTooMany = true) ∨
      ∃ value, chosen (options e).length requested = .ok value ∧ e.offersTooMany = false ∧
        (options e = [] ∨ value < (options e).length) := by
  rw [chosen]
  split
  · next hnone =>
    have hnil : options e = [] := List.eq_nil_of_length_eq_zero hnone
    exact .inr ⟨0, rfl, by simp [Element.offersTooMany, hnone], .inl hnil⟩
  · next hsome =>
    have hlast := lastIndex_neg_iff (options e).length
    split
    · next hneg => exact .inl ⟨rfl, by simpa [Element.offersTooMany, hsome] using hlast.mp hneg⟩
    · next hneg =>
      have hlt := lastIndex_lt (Nat.pos_of_ne_zero hsome)
      refine .inr ⟨_, rfl, ?_, .inr (by omega)⟩
      simpa [Element.offersTooMany, hsome] using mt hlast.mpr hneg

theorem readDropdown_setback :
    Setback.of? ((readDropdown theme e).run r).value.1 = e.setback? .dropdown := by
  rw [readDropdown, Element.setback?]
  simp only [StateT.run_bind, Logged.bind_value, Resolver.int_value]
  rcases chosen_cases e (e.integer "value" 0) with ⟨hchosen, hmany⟩ | ⟨value, hchosen, hmany, -⟩
  · rw [hchosen, hmany]
    rfl
  · rw [hchosen, hmany]
    rfl

/-- The attributes alone decide whether something is wrong with a blueprint. -/
theorem read_setback (kind : Element.Kind) :
    Setback.of? ((read theme e kind).run r).value.1 = e.setback? kind := by
  cases kind with
  | progressBar => exact readProgressBar_setback theme e r
  | gridLayout => exact readGrid_setback e r
  | dropdown => exact readDropdown_setback theme e r
  | _ => rfl

/-- The range of a bar can be clamped to, and the chosen option is there. -/
def InRange : Blueprint → Prop
  | .progressBar plan => plan.min ≤ plan.max
  | .dropdown plan => plan.options = [] ∨ plan.value < plan.options.length
  | _ => True

theorem readProgressBar_inRange {blueprint : Blueprint}
    (h : ((readProgressBar theme e).run r).value.1 = .ok blueprint) : blueprint.InRange := by
  rw [readProgressBar] at h
  simp only [StateT.run_bind, Logged.bind_value, Resolver.float_value] at h
  by_cases hinverted : e.number "maxValue" 1 < e.number "minValue" 0
  · rw [if_pos hinverted] at h
    cases h
  · rw [if_neg hinverted] at h
    by_cases hordered : e.number "minValue" 0 ≤ e.number "maxValue" 1
    · simp only [hordered, decide_true, Bool.not_true, Bool.false_eq_true, if_false] at h
      cases h
      exact hordered
    · simp only [hordered, decide_false, Bool.not_false, if_true] at h
      cases h

theorem readDropdown_inRange {blueprint : Blueprint}
    (h : ((readDropdown theme e).run r).value.1 = .ok blueprint) : blueprint.InRange := by
  rw [readDropdown] at h
  simp only [StateT.run_bind, Logged.bind_value, Resolver.int_value] at h
  rcases chosen_cases e (e.integer "value" 0) with ⟨hchosen, -⟩ | ⟨value, hchosen, -, hvalue⟩
  · rw [hchosen] at h
    cases h
  · rw [hchosen] at h
    cases h
    exact hvalue

/-- No builder clamps to a range that is none, or chooses an option that is not there. -/
theorem read_inRange {kind : Element.Kind} {blueprint : Blueprint}
    (h : ((read theme e kind).run r).value.1 = .ok blueprint) : blueprint.InRange := by
  cases kind with
  | progressBar => exact readProgressBar_inRange theme e r h
  | dropdown => exact readDropdown_inRange theme e r h
  | surface =>
    have hsurface : ((readSurface e).run r).value.1.InRange := by
      rw [readSurface]
      simp only [StateT.run_bind, Logged.bind_value]
      split <;> exact trivial
    exact Except.ok.inj h ▸ hsurface
  | button =>
    have hbutton : ((readButton theme e).run r).value.1.InRange := by
      rw [readButton]
      simp only [StateT.run_bind, Logged.bind_value]
      split <;> exact trivial
    exact Except.ok.inj h ▸ hbutton
  | gridLayout =>
    rw [read, readGrid] at h
    simp only [StateT.run_bind, Logged.bind_value] at h
    split at h
    · cases h
    · cases h
      exact trivial
  | _ => cases h; exact trivial

end Blueprint

namespace Workbench

variable {theme : Theme} {bench bench' : Workbench} {parent : NodeId} {e : Element}

/-- A visit breaks down or not, and goes on below the element or not, as its attributes say. -/
theorem visit_outcome (theme : Theme) (bench : Workbench) (parent : NodeId) (e : Element) :
    (∃ b, (visit theme bench parent e).run.value = .error b ∧ e.breaksDown = true) ∨
      ∃ below bench', (visit theme bench parent e).run.value = .ok (below, bench') ∧
        e.breaksDown = false ∧ below.isSome = e.isOpen := by
  cases hname : Resolver.nonBlank? e "name" with
  | none =>
    refine .inr ⟨_, _, visit_unnamed hname, ?_, ?_⟩
    · simp [Element.breaksDown, hname]
    · simp [Element.isOpen, hname]
  | some name =>
    cases hkind : e.kind? with
    | none =>
      refine .inr ⟨_, _, visit_unknown hname hkind, ?_, ?_⟩
      · simp [Element.breaksDown, hkind]
      · simp [Element.isOpen, hname, hkind]
    | some kind =>
      have hsetback : Setback.of? (plan theme bench.resolver kind e).2.1 = e.setback? kind :=
        Blueprint.read_setback theme e _ kind
      have hbreaks : e.breaksDown = true ↔ ∃ b, e.setback? kind = some (.breakdown b) := by
        rw [e.setback?_eq_breakdown_iff kind]
        simp [Element.breaksDown, hname, hkind]
      rw [visit_named hname hkind]
      generalize plan theme bench.resolver kind e = planned at hsetback
      obtain ⟨outfit, (fault | b) | blueprint, resolver⟩ := planned
      · refine .inr ⟨_, _, rfl, Bool.eq_false_iff.mpr fun h => ?_, ?_⟩
        · obtain ⟨b, hb⟩ := hbreaks.mp h
          rw [← hsetback] at hb
          cases hb
        · simp [Element.isOpen, hname, hkind, ← hsetback, Setback.of?]
      · exact .inl ⟨b, rfl, hbreaks.mpr ⟨b, hsetback.symm⟩⟩
      · refine .inr ⟨_, _, rfl, Bool.eq_false_iff.mpr fun h => ?_, ?_⟩
        · obtain ⟨b, hb⟩ := hbreaks.mp h
          rw [← hsetback] at hb
          cases hb
        · simp [Element.isOpen, hname, hkind, ← hsetback, Setback.of?]

/-- A visit goes on below an element only if the element is open. -/
theorem isOpen_of_visit {node : NodeId}
    (h : (visit theme bench parent e).run.value = .ok (some node, bench')) : e.isOpen = true := by
  rcases visit_outcome theme bench parent e with ⟨b, hvisit, -⟩ | ⟨below, _, hvisit, -, hbelow⟩
  · rw [hvisit] at h
    cases h
  · rw [hvisit] at h
    cases h
    exact hbelow.symm

/-- No visit of an element that does not break down ends what is said of a bench. -/
def VisitPreserves (theme : Theme) (p : Workbench → Prop) (e : Element) : Prop :=
  ∀ {bench bench' : Workbench} {parent : NodeId} {below : Option NodeId},
    (visit theme bench parent e).run.value = .ok (below, bench') → p bench → p bench'

mutual

/-- What visits of the elements that are reached preserve is preserved by building an element and
all below it. -/
theorem compileElement_reached_induction {p : Workbench → Prop} :
    ∀ (e : Element) {bench bench' : Workbench} {parent : NodeId},
    (∀ x ∈ e.reached, VisitPreserves theme p x) →
    (compileElement theme bench parent e).run.value = .ok bench' → p bench → p bench'
  | ⟨tag, attributes, children, pos⟩, bench, bench', parent, hvisit, h, hp => by
    rw [Element.reached] at hvisit
    obtain ⟨hself, hbelow⟩ := List.forall_mem_cons.mp hvisit
    rw [compileElement_value] at h
    cases hvisited : (visit theme bench parent ⟨tag, attributes, children, pos⟩).run.value with
    | error breakdown => rw [hvisited] at h; cases h
    | ok visited =>
      obtain ⟨below, between⟩ := visited
      rw [hvisited] at h
      have hbetween : p between := hself hvisited hp
      cases below with
      | none => cases h; exact hbetween
      | some node =>
        rw [if_pos (isOpen_of_visit hvisited)] at hbelow
        exact compileAll_reached_induction children hbelow h hbetween

/-- What visits of the elements that are reached preserve is preserved by building elements in
order. -/
theorem compileAll_reached_induction {p : Workbench → Prop} :
    ∀ (es : List Element) {bench bench' : Workbench} {parent : NodeId},
    (∀ x ∈ Element.reachedAll es, VisitPreserves theme p x) →
    (compileAll theme bench parent es).run.value = .ok bench' → p bench → p bench'
  | [], bench, bench', parent, hvisit, h, hp => by
    rw [compileAll] at h
    cases h
    exact hp
  | e :: rest, bench, bench', parent, hvisit, h, hp => by
    rw [Element.reachedAll] at hvisit
    obtain ⟨hfirst, hrest⟩ := List.forall_mem_append.mp hvisit
    rw [compileAll_cons_value] at h
    cases hcompiled : (compileElement theme bench parent e).run.value with
    | error breakdown => rw [hcompiled] at h; cases h
    | ok between =>
      rw [hcompiled] at h
      exact compileAll_reached_induction rest hrest h
        (compileElement_reached_induction e hfirst hcompiled hp)

end

mutual

/-- Building an element and all below it breaks down just if an element that is reached does. -/
theorem compileElement_error_iff (theme : Theme) :
    ∀ (e : Element) (bench : Workbench) (parent : NodeId),
    (∃ b, (compileElement theme bench parent e).run.value = .error b) ↔
      ∃ x ∈ e.reached, x.breaksDown = true
  | ⟨tag, attributes, children, pos⟩, bench, parent => by
    rw [compileElement_value, Element.reached]
    rcases visit_outcome theme bench parent ⟨tag, attributes, children, pos⟩ with
      ⟨b, hvisit, hbreaks⟩ | ⟨below, bench', hvisit, hbreaks, hbelow⟩
    · rw [hvisit]
      exact ⟨fun _ => ⟨_, List.mem_cons_self, hbreaks⟩, fun _ => ⟨b, rfl⟩⟩
    · rw [hvisit]
      cases below with
      | none =>
        simp only [← hbelow, Option.isSome_none, Bool.false_eq_true, if_false, List.mem_singleton,
          exists_eq_left, hbreaks, iff_false]
        exact nofun
      | some node =>
        have ih := compileAll_error_iff theme children bench' node
        simpa [← hbelow, hbreaks, Except.bind] using ih

/-- Building elements in order breaks down just if an element that is reached does. -/
theorem compileAll_error_iff (theme : Theme) :
    ∀ (es : List Element) (bench : Workbench) (parent : NodeId),
    (∃ b, (compileAll theme bench parent es).run.value = .error b) ↔
      ∃ x ∈ Element.reachedAll es, x.breaksDown = true
  | [], bench, parent => by
    rw [compileAll, Element.reachedAll]
    simp
  | e :: rest, bench, parent => by
    have ihfirst := compileElement_error_iff theme e bench parent
    rw [compileAll_cons_value, Element.reachedAll]
    cases hfirst : (compileElement theme bench parent e).run.value with
    | error b =>
      obtain ⟨x, hx, hbreaks⟩ := ihfirst.mp ⟨b, hfirst⟩
      exact ⟨fun _ => ⟨x, List.mem_append_left _ hx, hbreaks⟩, fun _ => ⟨b, rfl⟩⟩
    | ok bench' =>
      have ihrest := compileAll_error_iff theme rest bench' parent
      have hnone : ¬∃ x ∈ e.reached, x.breaksDown = true := by
        rw [← ihfirst, hfirst]
        exact fun ⟨_, h⟩ => nomatch h
      simp only [Except.bind, ihrest, List.mem_append]
      constructor
      · rintro ⟨x, hx, hbreaks⟩
        exact ⟨x, .inr hx, hbreaks⟩
      · rintro ⟨x, hx | hx, hbreaks⟩
        · exact absurd ⟨x, hx, hbreaks⟩ hnone
        · exact ⟨x, hx, hbreaks⟩

end

end Workbench

namespace Session

variable {s : Session}

theorem compile_error_iff (s : Session) (root : Element) :
    (∃ b, (s.compile root).run.value = .error b) ↔
      Text.sameLetters root.tag s.config.rootTag = true ∧
        ∃ e ∈ Element.reachedAll root.children, e.breaksDown = true := by
  rw [compile_value]
  cases Text.sameLetters root.tag s.config.rootTag with
  | false => simp
  | true =>
    have hall := Workbench.compileAll_error_iff s.config.theme root.children
      { s.workbench with stats := {} } Scene.root
    rw [← hall]
    simp only [if_true, true_and]
    change _ ↔ ∃ b, (s.workbench.compile s.config.theme root Scene.root).run.value = .error b
    cases (s.workbench.compile s.config.theme root Scene.root).run.value with
    | error b => simp [Except.map]
    | ok bench => simp [Except.map]

theorem config_clearForLoad (s : Session) : s.clearForLoad.value.config = s.config := by
  rw [clearForLoad]
  cases s.config.clearOnLoad <;> rfl

/-- Loading a text breaks down just if it is a document that will be compiled and in which a bar of
which a bound is no number is reached, or a choice of too many options. Otherwise it ends in an
answer: either the counts of what was built, or that the text is no document, or that its root has
the wrong tag. Whatever is built has been clamped to proper ranges only. -/
theorem load_outcome (s : Session) (source : String) :
    ((∃ b, (s.load source).run.value = .error b) ↔
        ∃ root, Markup.parse source = .ok root ∧
          Text.sameLetters root.tag s.config.rootTag = true ∧
          ∃ e ∈ Element.reachedAll root.children, e.breaksDown = true) ∧
      (∀ e s', (s.load source).run.value = .ok (.error e, s') →
        (∃ fault, Markup.parse source = .error fault ∧ e = .markup fault) ∨
          ∃ root, Markup.parse source = .ok root ∧ e = .rootTag s.config.rootTag root.tag) ∧
      ∀ theme e kind r blueprint,
        ((Blueprint.read theme e kind).run r).value.1 = .ok blueprint → blueprint.InRange := by
  refine ⟨?_, fun e s' h => ?_, fun theme e kind r _ h => Blueprint.read_inRange theme e r h⟩
  · rw [load_value]
    cases Markup.parse source with
    | error fault => simp
    | ok root =>
      rw [← config_clearForLoad s]
      simpa using compile_error_iff s.clearForLoad.value root
  · rw [load_value] at h
    cases hparse : Markup.parse source with
    | error fault =>
      rw [hparse] at h
      cases h
      exact .inl ⟨fault, rfl, rfl⟩
    | ok root =>
      rw [hparse] at h
      simp only [compile_value, config_clearForLoad] at h
      split at h
      · cases hbench : (s.clearForLoad.value.workbench.compile s.config.theme root
          Scene.root).run.value with
        | error b => rw [hbench] at h; cases h
        | ok bench => rw [hbench] at h; cases h
      · cases h
        exact .inr ⟨root, rfl, rfl⟩

/-- A bar of which the least value is no number ends the program. -/
theorem load_nanBar :
    ((Session.new {} {} {}).load
      "<UIML><ProgressBar name='p' minValue='nan'/></UIML>").run.value.isOk = false := by
  decide +kernel

end Session

end Uiml
