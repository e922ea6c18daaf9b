import Uiml.Proofs.Canvas.References
import Uiml.Proofs.Command.Event
import Uiml.Proofs.Session.Origin
import Uiml.Proofs.Session.Standing

/-!
# Events that are handed on

A widget has the handlers of the element that it has been made for, and keeps them and its name for
as long as it is there. So an event on an element hands on just the calls that the element declares
for it, in the order of the document, however the session has come to where it is.

## Main definitions

* `Handle.Answers` — a widget has the name and the handlers of an element

## Main results

* `Workbench.walk_answers` — the widgets that a walk adds have those of their elements
* `Moment.Made.answers` — and keep them
* `Session.Reachable.events_forwarded` — what an event on a registered element comes to
-/

namespace Uiml

open Element (Encounter encountersAll)

/-- A widget has the name and the handlers of an element. -/
structure Handle.Answers (h : Handle) (e : Element) : Prop where
  name : ∃ kind, e.fate = .kept h.name kind
  handlers : h.handlers = (EventHandler.ofElement e).value

/-- The name of a widget and its handlers. -/
def Handle.reply (h : Handle) : String × List EventHandler := (h.name, h.handlers)

theorem Handle.lasts_reply : Handle.Lasts Handle.reply where
  stem := fun _ => rfl
  change := by
    intro canvas canvas' id hchange w
    rcases hchange.update_cases with rfl | ⟨f, g, rfl, hkeeps⟩
    · rfl
    · refine Canvas.map_widget?_update Handle.reply (fun h _ => ?_) w
      obtain ⟨-, hname, hhandlers⟩ := hkeeps h
      exact Prod.ext hname hhandlers

/-- The handlers of an outfit are those of its element, whatever has been read before. -/
theorem Outfit.read_handlers (kind : Element.Kind) (e : Element) (r : Resolver) :
    ((Outfit.read kind e).run r).value.1.handlers = (EventHandler.ofElement e).value := by
  rw [Outfit.read]
  simp only [StateT.run_bind, Logged.bind_value]
  rfl

namespace Workbench

variable {theme : Theme} {bench bench' : Workbench} {met : List Encounter} {m : Encounter}

/-- The widget that an encounter adds has the name and the handlers of its element. -/
theorem meet_answers (hsound : bench.resolver.Sound) (h : meet theme bench m = .ok bench')
    (hkept : m.isKept = true) :
    ∃ w, bench'.canvas.widget? ⟨bench.canvas.widgets.size⟩ = some w ∧ w.Answers m.element := by
  obtain ⟨below, hvisited⟩ := meet_cases h
  cases hvisited with
  | unnamed hfate | unknown hfate | failed hfate =>
    rw [Encounter.isKept, hfate] at hkept
    cases hkept
  | @kept name kind outfit blueprint _ hfate _ hsettled =>
    -- all that happens to the widget after it has been built is that it is bound to a slot
    obtain ⟨w, hid, hstem⟩ := bench.widget?_bindTo_grow (bench.canvas.place m.above) name kind
      outfit blueprint m.element.slotAsked
    have hname : w.name = name := congrArg Handle.name hstem
    have hhandlers : w.handlers = outfit.handlers := congrArg Handle.handlers hstem
    have houtfit : (m.element.design theme kind).1.handlers =
        (EventHandler.ofElement m.element).value := Outfit.read_handlers kind m.element _
    rw [(hsettled hsound).1] at houtfit
    exact ⟨w, hid, ⟨kind, hname ▸ hfate⟩, hhandlers.trans houtfit⟩

/-- The widgets that a walk adds have the names and the handlers of their elements. -/
theorem walk_answers (hsound : bench.resolver.Sound)
    (hnumbered : Encounter.Numbered bench.canvas.widgets.size met)
    (h : walk theme bench met = .ok bench') :
    ∀ m ∈ met, m.isKept = true →
      ∃ w, bench'.canvas.widget? m.widget = some w ∧ w.Answers m.element := by
  refine (walk_numbered_induction (p := fun before between => between.resolver.Sound ∧
    ∀ m ∈ before, m.isKept = true →
      ∃ w, between.canvas.widget? m.widget = some w ∧ w.Answers m.element)
    ?_ hnumbered h ⟨hsound, nofun⟩).2
  rintro before between between' m - hwidget - hmeet ⟨hsound, hbefore⟩
  obtain ⟨⟨below, _⟩, hvisit, rfl⟩ := exists_of_map hmeet
  refine ⟨(visit_standing hvisit).1 hsound, fun m' hm' hkept => ?_⟩
  rcases List.mem_append.mp hm' with hm' | hm'
  · -- an encounter leaves the widgets of earlier ones alone
    obtain ⟨w, hid, hw⟩ := hbefore m' hm' hkept
    have hold := (meet_widgets hmeet).2 m'.widget (Canvas.widget?_lt hid)
    exact ⟨w, hold.trans hid, hw⟩
  · obtain rfl := List.mem_singleton.mp hm'
    rw [hwidget]
    exact meet_answers hsound hmeet hkept

end Workbench

namespace Session

variable {s s' : Session} {root : Element}
  {load : Building (Except LoadError CompileStats × Session)} {stats : CompileStats}

/-- The widgets that a load makes have the names and the handlers of their elements. -/
theorem LoadsDocument.answers (hs : Reachable s) (hload : LoadsDocument s root load)
    (h : load.run.value = .ok (.ok stats, s')) {m : Encounter}
    (hmet : m ∈ encountersAll none s.clearForLoad.value.stage.canvas.widgets.size root.children)
    (hkept : m.isKept = true) :
    ∃ first, s'.stage.widget? m.widget = some first ∧ first.Answers m.element := by
  obtain ⟨bench, rfl, hwalk⟩ := hload.exists_walk h
  have hsound : s.clearForLoad.value.workbench.resolver.Sound := hs.standing.clearForLoad.resolver
  exact Workbench.walk_answers hsound (root.numbered_children _) hwalk m hmet hkept

end Session

namespace Moment.Made

variable {m : Moment} {w : WidgetId} {e : Element} {first : Handle}

/-- A widget has the name and the handlers of the element that it has been made for. -/
theorem answers (h : m.Made w e first) :
    ∃ handle, m.session.stage.canvas.widget? w = some handle ∧ handle.Answers e := by
  have hfirst : first.Answers e := by
    induction h with
    | loaded hs hload hvalue hmet hkept hfirst =>
      obtain ⟨h, hid, hanswers⟩ := hload.answers hs hvalue hmet hkept
      rw [hfirst] at hid
      exact Option.some.inj hid ▸ hanswers
    | next _ _ _ ih => exact ih
  obtain ⟨handle, hid, hsame⟩ := Option.map_eq_some_iff.mp (h.map_widget? Handle.lasts_reply)
  obtain ⟨hname, hhandlers⟩ := Prod.mk.inj hsame
  exact ⟨handle, hid, hname ▸ hfirst.name, hhandlers.trans hfirst.handlers⟩

end Moment.Made

namespace Session

variable {s : Session} {element : String} {id : WidgetId}

theorem invoke_value (s : Session) (element spelling : String) (args : List String) :
    (s.invoke element spelling args).value =
      match Event.dispatch s.listening s.registry s.stage.canvas.widgets element spelling args with
      | .error e => (.error e, s)
      | .ok calls => (.ok calls.length, { s with events := s.events ++ calls }) := by
  rw [invoke, Logged.bind_value, Event.invoke]
  cases Event.dispatch s.listening s.registry s.stage.canvas.widgets element spelling args <;> rfl

/-- If someone listens, then an event on a registered element hands on the calls that the element
declares for it, whichever of its spellings is used: those of the attributes of which the key is
`on` and the suffix of the event, up to its case, one attribute after the other and each in the
order of its list, with the arguments of the event behind their own. It tells how many there are. If
there are none, then nothing is handed on, and this is said. The element is the one that the widget
with the name has been made for. -/
theorem Reachable.events_forwarded (hs : Reachable s) (hlistening : s.listening = true)
    (hget : s.registry.get? element = some id) :
    (∃ e first, Moment.Made id e first ⟨s, none⟩) ∧
    ∀ e first, Moment.Made id e first ⟨s, none⟩ →
      (∃ kind, e.fate = .kept element kind) ∧
      ∀ suffix spelling args, Event.Spells suffix spelling →
        (Event.callsOn e element suffix args = [] → (s.invoke element spelling args).value =
          (.error (.noHandlers element (Text.lowercase suffix)), s)) ∧
        (Event.callsOn e element suffix args ≠ [] → (s.invoke element spelling args).value =
          (.ok (Event.callsOn e element suffix args).length,
            { s with events := s.events ++ Event.callsOn e element suffix args })) := by
  obtain ⟨h, hid, hname, -⟩ := hs.references.names.named hget
  refine ⟨?_, fun e first hmade => ?_⟩
  · obtain ⟨trace, hlife⟩ := hs.exists_life
    exact hlife.exists_made (Option.isSome_iff_exists.mpr ⟨h, hid⟩)
  · obtain ⟨handle, hid', hanswers⟩ := hmade.answers
    obtain rfl : h = handle := Option.some.inj (hid.symm.trans hid')
    refine ⟨hname ▸ hanswers.name, fun suffix spelling args hspells => ?_⟩
    rw [invoke_value, hlistening, Event.dispatch_eq hget hid hanswers.handlers hspells]
    cases Event.callsOn e element suffix args with
    | nil => exact ⟨fun _ => rfl, fun hne => absurd rfl hne⟩
    | cons call rest => exact ⟨nofun, fun _ => rfl⟩

/-- A panel with attributes that differ in the case of their keys, of which one is for no event, and
with a part of a list that is no call. -/
def bell : Element :=
  { tag := "Panel"
    attributes := [⟨"name", "b"⟩, ⟨"onClick", "ring(1); stop"⟩, ⟨"onclick", "no"⟩,
      ⟨"onCLICK", "(; go"⟩] }

/-- The calls of two attributes are handed on, and nothing for an event that is not declared. -/
theorem events_forwarded_bell :
    ∃ s : Session, s.Reachable ∧ s.listening = true ∧ s.registry.get? "b" = some ⟨0⟩ ∧
      (s.invoke "b" " onClick " ["x"]).value = (.ok 3, { s with events := s.events ++
        [⟨"b", "click", "ring", ["1", "x"]⟩, ⟨"b", "click", "stop", ["x"]⟩,
          ⟨"b", "click", "go", ["x"]⟩] }) ∧
      (s.invoke "b" "drag" []).value = (.error (.noHandlers "b" "drag"), s) := by
  let root : Element := { tag := "UIML", children := [bell] }
  let start := (Session.new {} {} {}).listen true
  have hlisten : (Session.new {} {} {}).after (.listen true) = .ok start := rfl
  have hstart : Reachable start := .after (.new {} {} {}) hlisten
  have hvalue : (start.loadDocument root).run.value.toOption.map (fun result =>
      decide (result.1.toOption.isSome = true ∧ result.2.listening = true ∧
        result.2.registry.get? "b" = some ⟨0⟩)) = some true := by decide +kernel
  obtain ⟨⟨result, s⟩, hload, hvalue⟩ := exists_of_toOption_map hvalue
  obtain ⟨hresult, hlistening, hget⟩ := of_decide_eq_true hvalue
  have hafter : start.after (.loadDocument root) = .ok s := congrArg (Except.map Prod.snd) hload
  have hs : Reachable s := .after hstart hafter
  cases result with
  | error e => cases hresult
  | ok stats =>
    -- the widget has been made for the panel
    have hkept : bell.fate.isKept = true := by decide +kernel
    have hmet : ⟨bell, none, ⟨0⟩⟩ ∈
        encountersAll none start.clearForLoad.value.stage.canvas.widgets.size root.children := by
      have hsize : start.clearForLoad.value.stage.canvas.widgets.size = 0 := by decide +kernel
      rw [hsize, encountersAll, Element.encounters_eq]
      exact List.mem_append_left _ List.mem_cons_self
    obtain ⟨first, hfirst, -⟩ := LoadsDocument.tree.answers hstart hload hmet hkept
    have hmade : Moment.Made ⟨0⟩ bell first ⟨s, none⟩ :=
      .loaded hstart .tree hload hmet hkept hfirst
    obtain ⟨-, hforwarded⟩ := hs.events_forwarded hlistening hget
    obtain ⟨-, hinvoke⟩ := hforwarded bell first hmade
    have hclick : Event.Spells "Click" " onClick " :=
      .key ⟨'C', "lick".toList, by decide +kernel, by decide⟩ (by decide +kernel)
    have hdrag : Event.Spells "Drag" "drag" := by
      refine .bare ⟨'D', "rag".toList, by decide +kernel, by decide⟩ (by decide +kernel) ?_
      intro suffix' _ heq
      have htrim : (Text.trim "drag").toList = "drag".toList := by decide +kernel
      rw [heq, Event.on_append] at htrim
      cases htrim
    have hring : Event.callsOn bell "b" "Click" ["x"] =
        [⟨"b", "click", "ring", ["1", "x"]⟩, ⟨"b", "click", "stop", ["x"]⟩,
          ⟨"b", "click", "go", ["x"]⟩] := by decide +kernel
    have hnone : Event.callsOn bell "b" "Drag" [] = [] := by decide +kernel
    have hlower : Text.lowercase "Drag" = "drag" := by decide +kernel
    refine ⟨s, hs, hlistening, hget, ?_, ?_⟩
    · obtain ⟨-, hcalls⟩ := hinvoke "Click" " onClick " ["x"] hclick
      rw [hring] at hcalls
      exact hcalls (List.cons_ne_nil _ _)
    · obtain ⟨hcalls, -⟩ := hinvoke "Drag" "drag" [] hdrag
      rw [hlower] at hcalls
      exact hcalls hnone

end Session

end Uiml
