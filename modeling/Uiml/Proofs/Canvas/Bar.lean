import Uiml.Proofs.Build.Walk
import Uiml.Proofs.Canvas.Built
import Uiml.Proofs.Canvas.Orderly
import Uiml.Proofs.Canvas.Property
import Uiml.Proofs.Number.Share

/-!
# Progress bars

The range of a progress bar is in order and stays as it was declared. Whatever the bar is given for
a value is taken into the range, when it is built and at every change. So the value lies in the
range unless it is no number, and the fill lies in its area as long as it can be told which share of
the range the value is.

## Main definitions

* `ProgressBar.InRange`, `ProgressBar.Fits` — the value lies in the range, the fill in its area
* `ProgressBar.IsLost` — there is no share of the range that the fill could show
* `ProgressBar.Kept` — the value of a bar has been taken into its range
* `ProgressBar.DeclaredBy` — a bar is as an element declares it

## Main results

* `ProgressBar.Kept.inRange_iff`, `ProgressBar.Kept.fits_iff` — when a bar is as it should be
* `Canvas.Change.bar?_cases`, `Workbench.Visited.bar?_cases` — what becomes of bars, and where they
  come from
* `Session.Reachable.kept` — in a reachable session values have been taken into their ranges
-/

namespace Uiml

namespace ProgressBar

variable {bar : ProgressBar}

/-- The value of a bar lies in its range. -/
def InRange (bar : ProgressBar) : Prop := Single.Within bar.min bar.max bar.value

instance (bar : ProgressBar) : Decidable bar.InRange := inferInstanceAs (Decidable (_ ∧ _))

/-- The fill of a bar lies in its area, the one corner nowhere beyond the other. -/
structure Fits (bar : ProgressBar) : Prop where
  left : Single.Within 0 1 bar.anchors.1.x
  bottom : Single.Within 0 1 bar.anchors.1.y
  right : Single.Within 0 1 bar.anchors.2.x
  top : Single.Within 0 1 bar.anchors.2.y
  width : bar.anchors.1.x ≤ bar.anchors.2.x
  height : bar.anchors.1.y ≤ bar.anchors.2.y

/-- The bar has a range, but of its value it cannot be told which share of the range it is: the
value is no number, or value and range are both too far off the lower bound. -/
def IsLost (bar : ProgressBar) : Prop :=
  bar.min < bar.max ∧
    (bar.value.isNaN = true ∨
      (bar.value - bar.min).isFinite = false ∧ (bar.max - bar.min).isFinite = false)

/-- The share of the range that the fill shows; a range of one number has none. -/
def share (bar : ProgressBar) : Float32 :=
  if bar.min < bar.max then Single.clamp 0 1 ((bar.value - bar.min) / (bar.max - bar.min)) else 0

theorem isNaN_share_iff : bar.share.isNaN = true ↔ bar.IsLost := by
  rw [share, IsLost]
  split
  · next hrange =>
    rw [Single.isNaN_clamp (by decide), Single.isNaN_share_iff hrange, and_iff_right hrange]
  · next hpoint => exact iff_of_false (by decide) fun hlost => hpoint hlost.1

theorem within_share_iff : Single.Within 0 1 bar.share ↔ bar.share.isNaN = false := by
  rw [share]
  split
  · rw [Single.within_clamp_iff (by decide), Single.isNaN_clamp (by decide)]
  · exact iff_of_true (by decide) (by decide)

/-- The fill starts from one end, and its other end shows the share. -/
theorem anchors_eq (bar : ProgressBar) : bar.anchors =
    match bar.direction with
    | .leftToRight => (⟨0, 0⟩, ⟨bar.share, 1⟩)
    | .rightToLeft => (⟨1 - bar.share, 0⟩, ⟨1, 1⟩)
    | .bottomToTop => (⟨0, 0⟩, ⟨1, bar.share⟩)
    | .topToBottom => (⟨0, 1 - bar.share⟩, ⟨1, 1⟩) := rfl

/-- A fill that shows a share of the whole lies in its area, whatever end it starts from. -/
theorem fits_of_within (h : Single.Within 0 1 bar.share) : bar.Fits := by
  have hzero : Single.Within 0 1 0 := by decide
  have hone : Single.Within 0 1 1 := by decide
  have hrest := Single.within_one_sub h
  cases hdirection : bar.direction <;> constructor <;> rw [anchors_eq, hdirection]
  case leftToRight.left | leftToRight.bottom | rightToLeft.bottom => exact hzero
  case bottomToTop.left | bottomToTop.bottom | topToBottom.left => exact hzero
  case leftToRight.top | rightToLeft.right | rightToLeft.top => exact hone
  case bottomToTop.right | topToBottom.right | topToBottom.top => exact hone
  case leftToRight.right | bottomToTop.top => exact h
  case rightToLeft.left | topToBottom.bottom => exact hrest
  case leftToRight.width | bottomToTop.height => exact h.1
  case rightToLeft.width | topToBottom.height => exact hrest.2
  case leftToRight.height | rightToLeft.height => exact hone.1
  case bottomToTop.width | topToBottom.width => exact hone.1

/-- A fill that lies in its area shows a share. -/
theorem Fits.isNaN_share (h : bar.Fits) : bar.share.isNaN = false := by
  have hrest (hwithin : Single.Within 0 1 (1 - bar.share)) : bar.share.isNaN = false := by
    rw [← Bool.not_eq_true]
    intro hnan
    have hleft : (1 - bar.share).isNaN = true :=
      (Single.isNaN_sub_eq 1 bar.share).trans (Single.isNaN_sub_of_isNaN hnan)
    rw [hwithin.isNaN_eq] at hleft
    cases hleft
  obtain ⟨hleft, hbottom, hright, htop, -, -⟩ := h
  rw [anchors_eq] at hleft hbottom hright htop
  cases hdirection : bar.direction <;> rw [hdirection] at hleft hbottom hright htop
  case leftToRight => exact hright.isNaN_eq
  case rightToLeft => exact hrest hleft
  case bottomToTop => exact htop.isNaN_eq
  case topToBottom => exact hrest hbottom

/-- The fill lies in its area just if there is a share that it can show. -/
theorem fits_iff : bar.Fits ↔ ¬bar.IsLost := by
  rw [← isNaN_share_iff, Bool.not_eq_true]
  exact ⟨Fits.isNaN_share, fun h => fits_of_within (within_share_iff.mpr h)⟩

/-- The range of a bar is in order, and the value has been taken into it. -/
structure Kept (bar : ProgressBar) : Prop where
  ordered : bar.min ≤ bar.max
  taken : ∃ value, bar.value = Single.clamp bar.min bar.max value

/-- A value that has been taken into the range lies in it unless it is no number. -/
theorem Kept.inRange_iff (h : bar.Kept) : bar.InRange ↔ bar.value.isNaN = false := by
  obtain ⟨value, hvalue⟩ := h.taken
  rw [InRange, hvalue, Single.within_clamp_iff h.ordered, Single.isNaN_clamp h.ordered]

theorem Kept.withValue (h : bar.Kept) (value : Float32) : (bar.withValue value).Kept :=
  ⟨h.ordered, value, rfl⟩

theorem Kept.isNaN_withValue (h : bar.Kept) (value : Float32) :
    (bar.withValue value).value.isNaN = value.isNaN := Single.isNaN_clamp h.ordered

/-- A bar is as an element declares it. -/
structure DeclaredBy (bar : ProgressBar) (e : Element) : Prop where
  min : bar.min = e.number "minValue" 0
  max : bar.max = e.number "maxValue" 1
  value : bar.value = Single.clamp bar.min bar.max (e.number "value" 0)
  ordered : bar.min ≤ bar.max

theorem DeclaredBy.kept {e : Element} (h : bar.DeclaredBy e) : bar.Kept :=
  ⟨h.ordered, _, h.value⟩

end ProgressBar

/-- The progress bar that a widget is, if it is one. -/
def Handle.bar? (h : Handle) : Option ProgressBar :=
  match h.parts with
  | .progressBar bar => some bar
  | _ => none

theorem Handle.bar?_eq_some_iff {h : Handle} {bar : ProgressBar} :
    h.bar? = some bar ↔ h.parts = .progressBar bar := by
  cases hparts : h.parts <;> simp [bar?, hparts]

/-! ### New bars -/

/-- The bar of a plan, with a node for its fill. -/
def BarPlan.bar (plan : BarPlan) (fill : NodeId) : ProgressBar :=
  { fill, min := plan.min, max := plan.max, value := plan.value, direction := plan.direction }

namespace Blueprint

variable {theme : Theme} {e : Element} {r : Resolver} {blueprint : Blueprint}

theorem readProgressBar_declared (h : ((readProgressBar theme e).run r).value.1 = .ok blueprint) :
    ∃ plan, blueprint = .progressBar plan ∧ ∀ fill, (plan.bar fill).DeclaredBy e := by
  rw [readProgressBar] at h
  simp only [StateT.run_bind, Logged.bind_value, Resolver.float_value] at h
  by_cases hinverted : e.number "maxValue" 1 < e.number "minValue" 0
  · rw [if_pos hinverted] at h
    cases h
  · rw [if_neg hinverted] at h
    by_cases hordered : e.number "minValue" 0 ≤ e.number "maxValue" 1
    · simp only [hordered, decide_true, Bool.not_true, Bool.false_eq_true, if_false] at h
      cases h
      have hvalue (r : Resolver) := congrArg
        (Single.clamp (e.number "minValue" 0) (e.number "maxValue" 1))
        (Resolver.float_value e "value" r 0)
      exact ⟨_, rfl, fun fill => ⟨rfl, rfl, hvalue _, hordered⟩⟩
    · simp only [hordered, decide_false, Bool.not_false, if_true] at h
      cases h

/-- What a bar is built from. -/
def plan? : Blueprint → Option BarPlan
  | .progressBar plan => some plan
  | _ => none

/-- A bar is raised from its plan, and nothing else is a bar. -/
theorem raise_bar? (canvas : Canvas) (parent : NodeId) (name : String) (kind : Element.Kind)
    (outfit : Outfit) (group : Option GroupRef) :
    ∃ fill, (canvas.builtHandle parent name kind outfit blueprint group).bar? =
      blueprint.plan?.map fun plan => plan.bar fill := by
  cases blueprint with
  | progressBar plan => exact ⟨_, rfl⟩
  | button background label => cases label <;> exact ⟨parent, rfl⟩
  | _ => exact ⟨parent, rfl⟩

end Blueprint

namespace Canvas

variable {canvas canvas' : Canvas} {id w : WidgetId} {bar : ProgressBar}

/-- A bar that is built is as its element declares it. -/
theorem builtHandle_bar {theme : Theme} {e : Element} {kind : Element.Kind} {r : Resolver}
    {blueprint : Blueprint} (hread : ((Blueprint.read theme e kind).run r).value.1 = .ok blueprint)
    {parent : NodeId} {name : String} {outfit : Outfit} {group : Option GroupRef}
    (h : (canvas.builtHandle parent name kind outfit blueprint group).bar? = some bar) :
    kind = .progressBar ∧ bar.DeclaredBy e := by
  obtain ⟨fill, hbar⟩ := Blueprint.raise_bar? canvas parent name kind outfit group
  rw [hbar] at h
  obtain ⟨plan, hplan, rfl⟩ := Option.map_eq_some_iff.mp h
  have hkind := Blueprint.read_kind hread
  cases blueprint with
  | progressBar plan' =>
    cases hplan
    obtain rfl : Element.Kind.progressBar = kind := hkind
    obtain ⟨_, hplan, hdeclared⟩ := Blueprint.readProgressBar_declared hread
    cases hplan
    exact ⟨rfl, hdeclared fill⟩
  | _ => cases hplan

/-- The progress bar of an id. -/
def bar? (canvas : Canvas) (w : WidgetId) : Option ProgressBar :=
  (canvas.widget? w).bind Handle.bar?

theorem bar?_congr (h : (canvas'.widget? w).map Handle.bar? = (canvas.widget? w).map Handle.bar?) :
    canvas'.bar? w = canvas.bar? w := by
  have hbind := congrArg (fun bar => bar.bind id) h
  rwa [Option.bind_map, Option.bind_map] at hbind

/-- Slots and what they show have nothing to do with bars. -/
theorem bar?_of_stem
    (h : (canvas'.widget? w).map Handle.stem = (canvas.widget? w).map Handle.stem) :
    canvas'.bar? w = canvas.bar? w := by
  have hbar := congrArg (Option.map Handle.bar?) h
  rw [Option.map_map, Option.map_map] at hbar
  exact bar?_congr hbar

theorem bar?_setProgress (canvas : Canvas) (id : WidgetId) (value : Float32) (w : WidgetId) :
    (canvas.setProgress id value).2.bar? w =
      if w = id then (canvas.bar? w).map (·.withValue value) else canvas.bar? w := by
  rw [setProgress]
  split
  · next bar hparts =>
    obtain ⟨h, hid, hbar⟩ := Option.map_eq_some_iff.mp hparts
    simp only [bar?, widget?_update]
    split
    · next he =>
      subst he
      simp [hid, Handle.bar?, hbar]
    · rfl
  · next hnone =>
    -- a widget that is no bar has none to be given the value
    split
    · next he =>
      subst he
      rw [bar?]
      cases hid : canvas.widget? w with
      | none => rfl
      | some h =>
        have hbar : h.bar? = none := by
          rw [Handle.bar?]
          split
          · next bar hparts => exact absurd (by rw [hid, Option.map_some, hparts]) (hnone bar)
          · rfl
        rw [Option.bind_some, hbar]
        rfl
    · rfl

/-- A change leaves the bar of a widget as it is, or gives it a value. -/
theorem Change.bar?_cases (h : Change id canvas canvas') (w : WidgetId) :
    canvas'.bar? w = canvas.bar? w ∨
      ∃ value, canvas'.bar? w = (canvas.bar? w).map (·.withValue value) := by
  cases h with
  | progress value =>
    rw [bar?_setProgress]
    split
    · exact .inr ⟨value, rfl⟩
    · exact .inl rfl
  | position | scale | alpha | interactable =>
    refine .inl (bar?_congr (map_widget?_update Handle.bar? ?_ w))
    exact fun _ _ => rfl
  | toggle isOn =>
    rw [setToggle]
    split
    · next checkmark wasOn group hparts =>
      refine .inl (bar?_congr (map_widget?_update Handle.bar? (fun h hid => ?_) w))
      have hswitch : h.parts = .toggle checkmark wasOn group := by simpa [hid] using hparts
      simp [Handle.bar?, hswitch]
    · exact .inl rfl
  | text =>
    rw [showText]
    split
    · refine .inl (bar?_congr (map_widget?_update Handle.bar? ?_ w))
      exact fun _ _ => rfl
    · exact .inl rfl
  | image =>
    rw [showImage]
    split
    · refine .inl (bar?_congr (map_widget?_update Handle.bar? ?_ w))
      exact fun _ _ => rfl
    · exact .inl rfl

/-- What is kept when a bar is given a value is kept by changes. -/
theorem Change.bar?_preserves {p : ProgressBar → Prop} (h : Change id canvas canvas')
    (hvalue : ∀ bar value, p bar → p (bar.withValue value))
    (hp : ∀ w bar, canvas.bar? w = some bar → p bar) :
    ∀ w bar, canvas'.bar? w = some bar → p bar := by
  intro w bar hbar
  rcases h.bar?_cases w with hsame | ⟨value, hgiven⟩
  · exact hp w bar (hsame ▸ hbar)
  · rw [hgiven] at hbar
    obtain ⟨old, hold, rfl⟩ := Option.map_eq_some_iff.mp hbar
    exact hvalue old value (hp w old hold)

/-- Progress is the value of a bar. -/
theorem property?_progress (canvas : Canvas) (w : WidgetId) :
    canvas.property? w .progress = (canvas.bar? w).map fun bar => .scalar bar.value := by
  rw [property?, bar?]
  cases canvas.widget? w with
  | none => rfl
  | some h =>
    rw [Option.bind_some, Option.bind_some, Handle.property?, Handle.progress?, Handle.bar?]
    cases h.parts <;> rfl

/-- A bar that is changed shows it in its value. -/
theorem Changes.bar?_eq (h : Changes canvas canvas')
    (hvalue : canvas'.property? w .progress = canvas.property? w .progress) :
    canvas'.bar? w = canvas.bar? w := by
  -- what a bar is apart from its value is what it is at any other value
  have hframe : (canvas'.bar? w).map (·.withValue 0) = (canvas.bar? w).map (·.withValue 0) := by
    let frame (canvas : Canvas) : Option ProgressBar := (canvas.bar? w).map (·.withValue 0)
    refine reflTransGen_preserves (p := fun between => frame between = frame canvas)
      (fun {between between'} hchange hsame => Eq.trans ?_ hsame) h rfl
    obtain ⟨id, hchange⟩ := hchange
    simp only [frame]
    rcases hchange.bar?_cases w with hkept | ⟨value, hgiven⟩
    · rw [hkept]
    · rw [hgiven, Option.map_map]
      rfl
  rw [property?_progress, property?_progress] at hvalue
  cases hbar : canvas.bar? w <;> cases hbar' : canvas'.bar? w <;> rw [hbar, hbar'] at hframe hvalue
  case none.some bar' => cases hframe
  case some.none bar => cases hframe
  case some.some bar bar' =>
    simp only [Option.map_some, Option.some.injEq, ProgressBar.withValue, ProgressBar.mk.injEq,
      TweenValue.scalar.injEq] at hframe hvalue
    obtain ⟨hfill, hmin, hmax, -, hdirection⟩ := hframe
    rw [Option.some.injEq, ProgressBar.mk.injEq]
    exact ⟨hfill, hmin, hmax, hvalue, hdirection⟩

end Canvas

/-- A bar that is there after a visit was there before, or has been built for the element. -/
theorem Workbench.Visited.bar?_cases {theme : Theme} {bench bench' : Workbench} {parent : NodeId}
    {e : Element} {below : Option NodeId} (h : Visited theme bench parent e below bench')
    {w : WidgetId} {bar : ProgressBar} (hbar : bench'.canvas.bar? w = some bar) :
    bench.canvas.bar? w = some bar ∨
      e.isOpen = true ∧ e.kind? = some .progressBar ∧ bar.DeclaredBy e := by
  cases h with
  | unnamed | unknown | failed => exact .inl hbar
  | @kept name kind outfit blueprint _ hfate hread =>
    obtain ⟨r, hread⟩ := hread
    -- to be bound to a slot leaves a bar as it has been built
    have hbuilt := (Canvas.bar?_of_stem (stem_bindTo _ e.slotAsked)).symm.trans hbar
    rw [Canvas.bar?, grow, Canvas.widget?_build] at hbuilt
    split at hbuilt
    · obtain ⟨rfl, hdeclared⟩ := Canvas.builtHandle_bar hread hbuilt
      obtain ⟨hname, hkind, hsetback⟩ := Element.fate_eq_kept.mp hfate
      exact .inr ⟨by simp [Element.isOpen, hname, hkind, hsetback], hkind, hdeclared⟩
    · exact .inl hbuilt

namespace Session

variable {s : Session} {w : WidgetId} {bar : ProgressBar}

/-- In a reachable session the value of every bar has been taken into its range. -/
theorem Reachable.kept (hs : Reachable s) (hbar : s.stage.canvas.bar? w = some bar) : bar.Kept := by
  refine hs.visit_induction (p := fun canvas => ∀ w bar, canvas.bar? w = some bar → bar.Kept)
    ?new ?change ?slot ?clear ?visit w bar hbar
  case new => exact fun w bar hbar => by simp [Canvas.bar?, Canvas.widget?] at hbar
  case change =>
    exact fun hchange hp => hchange.bar?_preserves (fun _ value h => h.withValue value) hp
  case slot =>
    intro canvas id slot hp w bar hbar
    exact hp w bar (Canvas.bar?_of_stem (Canvas.stem_setSlot slot) ▸ hbar)
  case clear =>
    exact fun _ w bar hbar => by simp [Canvas.cleared, Canvas.bar?, Canvas.widget?] at hbar
  case visit =>
    intro theme bench bench' parent e below hvisit hp w bar hbar
    rcases (Workbench.visit_cases hvisit).bar?_cases hbar with hold | ⟨-, -, hdeclared⟩
    · exact hp w bar hold
    · exact hdeclared.kept

end Session

end Uiml
