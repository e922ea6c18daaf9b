import Uiml.Proofs.Canvas.Faithful
import Uiml.Proofs.Session.Past
import Uiml.Proofs.Slot.InStep

/-!
# Bound widgets of a session

Whatever happens to a session, a widget that is bound to a slot shows the picture that the slot
holds, and its text unless an action has set another one on that widget since the last clearing.
Widgets may come and go, be bound late and elsewhere, and slots be filled before and after that.

## Main definitions

* `HasOwnText` — an action has set a text on a widget

## Main results

* `Session.Past.inStep` — in every session with its past, widgets are in step with their slots
* `Session.Reachable.shows_slots` — what bound widgets and their nodes show, and whom a text reaches
-/

namespace Uiml

variable {done : List Happening} {board : Slots} {stage : Stage} {w : WidgetId}

/-- A text has been set on a widget by an action. -/
def HasOwnText (done : List Happening) (w : WidgetId) : Prop :=
  ∃ happening ∈ done, happening.widget = w ∧ happening.action.speaks = true

theorem HasOwnText.append (h : HasOwnText done w) (more : List Happening) :
    HasOwnText (done ++ more) w := by
  obtain ⟨happening, hmem, hspeaks⟩ := h
  exact ⟨happening, List.mem_append_left more hmem, hspeaks⟩

/-! ### Actions -/

/-- An action that sets a text lets its widget off, and any other leaves what is shown alone. -/
theorem Action.run_inStep {config : Config} {action : Action} {ran : Logged Stage}
    (hs : board.InStep stage.canvas (HasOwnText done))
    (hrun : action.run config w stage = .ok ran) :
    board.InStep ran.value.canvas (HasOwnText (done ++ [⟨stage, w, action⟩])) := by
  have hown : ∀ j, HasOwnText done j → HasOwnText (done ++ [⟨stage, w, action⟩]) j :=
    fun j hj => hj.append _
  rcases Action.run_works hrun with ⟨hspeaks, text, hvalue⟩ | ⟨-, hworks⟩
  · rw [hvalue]
    exact hs.showText text hown
      ⟨⟨stage, w, action⟩, List.mem_append_right done (List.mem_singleton.mpr rfl), rfl, hspeaks⟩
  · exact (hs.congr (fun _ => rfl) hworks.front).mono hown

/-- Steps that are no actions set no texts. -/
theorem Step.run_inStep (config : Config) (registry : Registry)
    (hs : board.InStep stage.canvas (HasOwnText done)) (step : Step) :
    board.InStep (step.run config registry stage).value.canvas
      (HasOwnText (done ++ (step.happening? config registry stage).toList)) := by
  have hanimate (animator : Animator) (id : WidgetId) (property : Property) (target : TweenValue)
      (duration : Float32) : board.InStep
        (Stage.animate ⟨stage.canvas, animator⟩ id property target duration).value.canvas
        (HasOwnText done) :=
    hs.congr (fun _ => rfl)
      (Stage.animate_works ⟨stage.canvas, animator⟩ id property target duration).front
  cases step with
  | tween id property target duration =>
    rw [Step.happening?, Option.toList_none, List.append_nil]
    exact hanimate stage.animator id property target duration
  | settle id duration =>
    rw [Step.happening?, Option.toList_none, List.append_nil, Step.run_settle]
    split
    · exact hs
    · exact hanimate _ id .scale _ duration
  | command element name args =>
    rcases Step.run_command config registry stage element name args with
      ⟨hnone, hvalue⟩ | ⟨id, action, ran, hsome, hrun, hvalue⟩
    · rw [hnone, hvalue, Option.toList_none, List.append_nil]
      exact hs
    · rw [hsome, hvalue, Option.toList_some]
      exact Action.run_inStep hs hrun

namespace Session

variable {s s' : Session} {op : Operation}

/-- Animations set no texts. -/
theorem moved_front (s : Session) (dt : Float32) (j : WidgetId) :
    ((s.moved dt).canvas.widget? j).map Handle.front =
      (s.stage.canvas.widget? j).map Handle.front := by
  have hupdates (updates : List TweenUpdate) (stage : Stage) :
      ((applyUpdates stage updates).value.canvas.widget? j).map Handle.front =
        (stage.canvas.widget? j).map Handle.front := by
    rw [applyUpdates, Logged.foldlM_value]
    induction updates generalizing stage with
    | nil => rfl
    | cons update updates ih =>
      have hworks := stage.applyValue_works update.widget update.property update.value
      exact (ih _).trans (hworks.front j)
  exact hupdates _ _

/-- While time passes, actions may set texts, and then pictures come. -/
theorem tick_inStep (hc : s.slots.Consistent s.stage.canvas)
    (hs : s.slots.InStep s.stage.canvas (HasOwnText done)) (dt : Float32) :
    (s.tick dt).value.slots.InStep (s.tick dt).value.stage.canvas
      (HasOwnText (done ++ s.happenings (.tick dt))) := by
  have hmoved := hs.congr (fun _ => rfl) (s.moved_front dt)
  have hticked := runSteps_history s.config s.registry
    (p := fun done stage _ => s.slots.InStep stage.canvas (HasOwnText done))
    (fun hs => Step.run_inStep s.config s.registry hs _)
    (s.stage.animator.advance dt).1.due done (s.moved dt) hmoved
  rw [tick_value]
  exact hticked.poll (hc.keep (.refl _) (s.ticked_changes dt).keepsSlots)

/-! ### Turns -/

/-- Every turn of a session that makes no widgets and takes none away keeps them in step. -/
theorem Turn.inStep (h : s.Turn op s') (hop : op.rebuilds = false)
    (hc : s.slots.Consistent s.stage.canvas)
    (hs : s.slots.InStep s.stage.canvas (HasOwnText done)) :
    s'.slots.InStep s'.stage.canvas (HasOwnText (done ++ s.happenings op)) := by
  have hquiet (hacts : op.acts = false) (hs' : s'.slots.InStep s'.stage.canvas (HasOwnText done)) :
      s'.slots.InStep s'.stage.canvas (HasOwnText (done ++ s.happenings op)) := by
    rwa [happenings_of_acts hacts, List.append_nil]
  cases h with
  | rebuilt hrebuilds => exact absurd (hop.symm.trans hrebuilds) Bool.false_ne_true
  | executed element command args =>
    exact Step.run_inStep s.config s.registry hs (.command element command args)
  | progressed element value animate =>
    refine hquiet rfl ?_
    rw [setProgress]
    cases s.progressBar? element with
    | error e => exact hs
    | ok id => exact hs.congr (fun _ => rfl) (s.stage.animate_works id .progress _ _).front
  | ticked dt => exact tick_inStep hc hs dt
  | waited timeout => exact hquiet rfl (hs.poll hc)
  | texted slot text => exact hquiet rfl (hs.setText hc slot text)
  | requested slot source kind => exact hquiet rfl (hs.request slot source kind)
  | finished number => exact hquiet rfl (hs.finish number)
  | arrived number result => exact hquiet rfl (hs.arrive number result)
  | rebound _ hacts _ hrebinds => exact hquiet hacts (hs.rebinds hrebinds)
  | aside _ hacts _ hslots hcanvas =>
    obtain ⟨assets, hslots⟩ := hslots
    refine hquiet hacts ?_
    rw [hslots, hcanvas]
    exact hs

theorem Compiling.inStep (h : Compiling s s') {own : WidgetId → Prop}
    (hs : s.slots.InStep s.stage.canvas own) : s'.slots.InStep s'.stage.canvas own := by
  cases h with
  | refused => exact hs
  | compiled root bench hbench => exact Slots.InStep.compileAll hs hbench

/-- In a session with its past, every widget that is bound to a slot shows what the slot holds,
unless a text has been set on it. -/
theorem Past.inStep (hpast : Past done s) :
    s.slots.InStep s.stage.canvas (HasOwnText done) := by
  induction hpast with
  | new => exact .of_no_widgets rfl
  | @after done s s' op hpast hafter ih =>
    cases hop : op.rebuilds with
    | false =>
      rw [clears_of_rebuilds hop, if_neg Bool.false_ne_true]
      exact (after_turn hafter).inStep hop hpast.reachable.isLinked.consistent ih
    | true =>
      have hcompiling := after_compiling hafter hop
      cases hclears : s.clears op with
      | true =>
        -- the widgets that are compiled are the only ones
        rw [hclears, if_pos rfl] at hcompiling
        rw [if_pos rfl]
        exact hcompiling.inStep (.of_no_widgets (by rw [clear_value]; rfl))
      | false =>
        rw [hclears, if_neg Bool.false_ne_true] at hcompiling
        rw [if_neg Bool.false_ne_true, happenings_of_acts (acts_of_rebuilds hop), List.append_nil]
        exact hcompiling.inStep ih

/-! ### What is shown -/

/-- A widget that is bound to a slot shows the picture that the slot holds, if it has somewhere to
show it, and so does its node; likewise the text, unless an action has set a text on the widget. A
text that a slot is given reaches all widgets that are bound to the slot and have somewhere to show
it; they are counted, and no other widget is touched. -/
theorem Reachable.shows_slots (hs : Reachable s) :
    (∀ i slot id h surface, s.slots.slot? i = some slot → s.stage.widget? id = some h →
      h.slot = some i →
      (∀ image, h.imageSurface = some surface → slot.image = some image →
        h.image = some image ∧ s.scene.Shows surface fun face => face.image = some image) ∧
      ∀ text done, Past done s → ¬ HasOwnText done id →
        h.textSurface = some surface → slot.text = some text →
          h.text = some text ∧ s.scene.Shows surface fun face => face.text? = some text) ∧
    ∀ i text,
      (s.setText i text).value.1 = s.stage.canvas.widgets.toList.countP
          (fun h => h.slot = some i ∧ h.textSurface.isSome) ∧
        ∀ id, (s.setText i text).value.2.stage.widget? id =
          (s.stage.widget? id).map fun h =>
            if h.slot = some i ∧ h.textSurface.isSome then { h with text := some text } else h := by
  have hc := hs.isLinked.consistent
  refine ⟨fun i slot id h surface hslot hid hbound => ?_, fun i text => ⟨?_, fun id => ?_⟩⟩
  · have hmirrored := (hs.faithful.settled hid).mirrored
    have hfollows {done : List Happening} (hpast : Past done s) :
        h.Follows slot.content (HasOwnText done id) :=
      hpast.inStep id h i slot.content hid hbound (by rw [Slots.content?, hslot]; rfl)
    refine ⟨fun image hsurface himage => ?_, fun text done hpast hown hsurface htext => ?_⟩
    · obtain ⟨done, hpast⟩ := hs.exists_past
      have hshown := (hfollows hpast).image (hsurface ▸ rfl) image himage
      exact ⟨hshown, (hmirrored.image surface hsurface).imp fun _ hface => hface.trans hshown⟩
    · have hshown := (hfollows hpast).text hown (hsurface ▸ rfl) text htext
      refine ⟨hshown, (hmirrored.text surface hsurface).imp fun _ hface => ?_⟩
      obtain ⟨shown, hhandle, hface⟩ := hface
      exact hface.trans (hhandle.symm.trans hshown)
  · exact hc.setText_fst i text
  · refine (hc.widget?_setText i text id).trans (congrArg (Option.map · _) (funext fun h => ?_))
    rw [Handle.withText, ite_and]

/-- A document of a text and of a picture, bound to the first two slots. -/
def boundTextAndImage : Element :=
  { tag := "UIML"
    children :=
      [{ tag := "Text", attributes := [⟨"name", "t"⟩, ⟨"bindId", "0"⟩] },
        { tag := "Image", attributes := [⟨"name", "p"⟩, ⟨"bindId", "1"⟩] }] }

/-- Both show what has been given to their slots before they have been loaded. -/
theorem shows_slots_boundTextAndImage :
    ∃ s t p surface surface', Past [] s ∧
      s.stage.widget? ⟨0⟩ = some t ∧ t.textSurface = some surface ∧ t.text = some "x" ∧
      (s.scene.Shows surface fun face => face.text? = some "x") ∧
      s.stage.widget? ⟨1⟩ = some p ∧ p.imageSurface = some surface' ∧
      p.image = some ⟨1, 1, [7]⟩ ∧
      (s.scene.Shows surface' fun face => face.image = some ⟨1, 1, [7]⟩) ∧
      (s.setText 0 "y").value.1 = 1 := by
  have hvalue : ((Session.new {} {} {}).play [.setText 0 "x", .request 1 "q" .localFile,
      .arrive 1 (.ok ⟨1, 1, [7]⟩), .wait ⟨0⟩]).any (fun played => played.2.config.clearOnLoad &&
        ((played.2.after (.loadDocument boundTextAndImage)).toOption.any fun s => decide
          ((s.stage.widget? ⟨0⟩).map (fun h => (h.slot, h.textSurface.isSome)) =
              some (some 0, true) ∧
            (s.stage.widget? ⟨1⟩).map (fun h => (h.slot, h.imageSurface.isSome)) =
              some (some 1, true) ∧
            (s.slots.slot? 0).map Slot.text = some (some "x") ∧
            (s.slots.slot? 1).map Slot.image = some (some ⟨1, 1, [7]⟩) ∧
            s.stage.canvas.widgets.toList.countP
              (fun h => h.slot = some 0 ∧ h.textSurface.isSome) = 1))) = true := by
    decide +kernel
  obtain ⟨⟨done, before⟩, hplay, hloads⟩ := (Option.any_eq_true ..).mp hvalue
  obtain ⟨hclears, hloads⟩ := Bool.and_eq_true_iff.mp hloads
  cases hafter : before.after (.loadDocument boundTextAndImage) with
  | error breakdown => rw [hafter] at hloads; cases hloads
  | ok s =>
    rw [hafter] at hloads
    obtain ⟨htext, himage, hslot, hslot', hcount⟩ := of_decide_eq_true hloads
    -- the load begins with a clearing, so that nothing has been done since
    have hpast := ((Past.new {} {} {}).run (run_of_play hplay)).after hafter
    rw [clears, if_pos hclears] at hpast
    obtain ⟨hshown, hgiven⟩ := Reachable.shows_slots hpast.reachable
    obtain ⟨t, ht, htext⟩ := Option.map_eq_some_iff.mp htext
    obtain ⟨htslot, htext⟩ := Prod.mk.inj htext
    obtain ⟨surface, hsurface⟩ := Option.isSome_iff_exists.mp htext
    obtain ⟨p, hp, himage⟩ := Option.map_eq_some_iff.mp himage
    obtain ⟨hpslot, himage⟩ := Prod.mk.inj himage
    obtain ⟨surface', hsurface'⟩ := Option.isSome_iff_exists.mp himage
    obtain ⟨slot, hslot, hsays⟩ := Option.map_eq_some_iff.mp hslot
    obtain ⟨slot', hslot', hholds⟩ := Option.map_eq_some_iff.mp hslot'
    have hfree : ¬ HasOwnText [] ⟨0⟩ := by
      rintro ⟨_, hmem, -⟩
      cases hmem
    obtain ⟨ht', hface⟩ :=
      (hshown 0 slot ⟨0⟩ t surface hslot ht htslot).2 _ [] hpast hfree hsurface hsays
    obtain ⟨hp', hface'⟩ :=
      (hshown 1 slot' ⟨1⟩ p surface' hslot' hp hpslot).1 _ hsurface' hholds
    exact ⟨s, t, p, surface, surface', hpast, ht, hsurface, ht', hface, hp, hsurface', hp', hface',
      ((hgiven 0 "y").1).trans hcount⟩

/-- A text of its own is let stand, until the slot is given another one. -/
example :
    let texts (ops : List Operation) :=
      (ops.foldlM Session.after (Session.new {} {} {})).toOption.bind fun s =>
        (s.stage.widget? ⟨0⟩).map fun h => (h.text, (s.slots.slot? 0).bind Slot.text)
    let ops := [.setText 0 "x", .loadDocument boundTextAndImage, .execute "t" "settext" ["y"]]
    texts ops = some (some "y", some "x") ∧
      texts (ops ++ [.setText 0 "z"]) = some (some "z", some "z") := by
  decide +kernel

end Session

end Uiml
