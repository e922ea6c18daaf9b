import Uiml.Command.Event
import Uiml.Proofs.Script.Call

/-!
# Spellings of events

The name of an event is put into one form twice: when an attribute declares calls for it, and when
someone says that it happens. A key is `on` and then a suffix that starts with an upper-case letter
of ASCII; an event is said by the whole key, or by the suffix alone in upper or lower case, unless
that would be taken for a key itself. So what is handed on are the calls of the attributes whose
keys have that suffix, up to its case.

## Main definitions

* `Event.Spells` — a spelling says an event
* `EventHandler.declaredCalls` — the calls that an attribute declares
* `Event.callsOn` — the calls that an element declares for an event

## Main results

* `Event.Spells.canonical_eq` — all spellings of an event come to its suffix in lower case
* `Event.dispatch_eq` — what a widget with the handlers of an element hands on
-/

namespace Uiml

namespace Event

/-- A suffix of a key that declares calls: it starts with an upper-case letter of ASCII. -/
def IsSuffix (suffix : String) : Prop :=
  ∃ c rest, suffix.toList = c :: rest ∧ c.isUpper = true

/-- A spelling says the event of a suffix. -/
inductive Spells (suffix spelling : String) : Prop
  /-- It is the whole key, but for blanks around it. -/
  | key (hsuffix : IsSuffix suffix) (htrim : Text.trim spelling = "on" ++ suffix)
  /-- It is the suffix in upper or lower case, but for blanks around it, and is no key itself. -/
  | bare (hsuffix : IsSuffix suffix) (hsame : Text.sameLetters (Text.trim spelling) suffix = true)
      (hkey : ∀ suffix', IsSuffix suffix' → Text.trim spelling ≠ "on" ++ suffix')

/-- Whether a key is `on` and then a suffix in upper or lower case. -/
def isKeyOf (suffix key : String) : Bool :=
  match key.toList with
  | 'o' :: 'n' :: rest => Text.sameLetters (String.ofList rest) suffix
  | _ => false

end Event

namespace EventHandler

/-- The calls that an attribute declares: those in its value, if its key is `on` and then a text
that starts with an upper-case letter of ASCII. -/
def declaredCalls (a : Attribute) : List (String × List String) :=
  match a.key.toList with
  | 'o' :: 'n' :: c :: _ =>
    if c.isUpper then (parts a.value).filterMap fun part => (readCall part).toOption else []
  | _ => []

/-- The handlers of an attribute. -/
def ofAttribute (a : Attribute) : List EventHandler :=
  match eventOfKey? a.key with
  | some event => (parts a.value).filterMap (ofCall? event)
  | none => []

end EventHandler

namespace Event

open EventHandler

/-- The calls that an element declares for an event: those of the attributes with its suffix, in
order, each with the arguments of the event behind its own. -/
def callsOn (e : Element) (element suffix : String) (args : List String) : List Invocation :=
  ((e.attributes.filter fun a => isKeyOf suffix a.key).flatMap declaredCalls).map fun call =>
    ⟨element, Text.lowercase suffix, call.1, call.2 ++ args⟩

variable {suffix spelling element key event : String} {args : List String} {e : Element}

/-! ### Spellings -/

theorem lowercase_eq_iff {s t : String} :
    Text.lowercase s = Text.lowercase t ↔ Text.sameLetters s t = true := by
  rw [Text.lowercase, Text.lowercase, Text.sameLetters, String.ofList_inj, beq_iff_eq]

theorem on_append (suffix : String) : ("on" ++ suffix).toList = 'o' :: 'n' :: suffix.toList := by
  rw [String.toList_append]
  rfl

/-- All spellings of an event come to its suffix in lower case. -/
theorem Spells.canonical_eq (h : Spells suffix spelling) :
    canonical spelling = Text.lowercase suffix := by
  have hlist : (Text.trim spelling).toList = Text.trimChars spelling.toList :=
    String.toList_ofList
  simp only [canonical, ← hlist]
  cases h with
  | key hsuffix htrim =>
    obtain ⟨c, rest, hrest, hupper⟩ := hsuffix
    simp only [htrim, on_append, hrest, hupper, if_true]
    rw [← hrest, String.ofList_toList]
  | bare _ hsame hkey =>
    rw [← lowercase_eq_iff.mpr hsame]
    split
    · next c rest hname =>
      -- what is said is no key, so that nothing is taken off it
      have hlower : ¬ c.isUpper = true := fun hupper => by
        refine hkey (String.ofList (c :: rest)) ⟨c, rest, String.toList_ofList, hupper⟩ ?_
        rw [← String.toList_inj, on_append, String.toList_ofList, hname]
      rw [if_neg hlower, String.ofList_toList]
    · rw [String.ofList_toList]

/-! ### Handlers -/

/-- A key is `on` and a suffix, or no key of an event. -/
theorem eventOfKey?_cases (key : String) :
    (∃ c rest, key.toList = 'o' :: 'n' :: c :: rest ∧ c.isUpper = true ∧
      eventOfKey? key = some (Text.lowercase (String.ofList (c :: rest)))) ∨
    eventOfKey? key = none ∧
      ∀ c rest, key.toList = 'o' :: 'n' :: c :: rest → ¬ c.isUpper = true := by
  rw [eventOfKey?]
  split
  · next c rest hkey =>
    split
    · next hupper => exact .inl ⟨c, rest, hkey, hupper, rfl⟩
    · next hlower =>
      refine .inr ⟨rfl, fun c' rest' hkey' => ?_⟩
      rw [hkey] at hkey'
      simp only [List.cons.injEq, true_and] at hkey'
      exact hkey'.1 ▸ hlower
  · next hnone => exact .inr ⟨rfl, fun c rest hkey => absurd hkey (hnone c rest)⟩

/-- The handlers of an element, one attribute after the other. -/
theorem ofElement_value (e : Element) :
    (ofElement e).value = e.attributes.flatMap ofAttribute := by
  rw [ofElement, Logged.bind_value, Logged.mapM_value, Logged.pure_value, List.flatMap]
  congr 2
  refine funext fun a => ?_
  rw [ofAttribute]
  cases eventOfKey? a.key with
  | none => rfl
  | some event => exact readList_value event a.value

/-- An attribute has handlers for the event of a suffix if its key has that suffix, one for each
call that it declares. -/
theorem filter_ofAttribute (a : Attribute) (suffix : String) :
    (ofAttribute a).filter (fun handler => handler.event = Text.lowercase suffix) =
    if isKeyOf suffix a.key then
      (declaredCalls a).map fun call => ⟨Text.lowercase suffix, call.1, call.2⟩
    else [] := by
  rcases eventOfKey?_cases a.key with ⟨c, rest, hkey, hupper, hevent⟩ | ⟨hevent, hlower⟩
  · have hcalls (event : String) : (parts a.value).filterMap (ofCall? event) =
        (declaredCalls a).map fun call => ⟨event, call.1, call.2⟩ := by
      simp only [declaredCalls, hkey, hupper, if_true, List.map_filterMap]
      rfl
    have hsame : isKeyOf suffix a.key = decide
        (Text.lowercase (String.ofList (c :: rest)) = Text.lowercase suffix) := by
      simp only [isKeyOf, hkey, lowercase_eq_iff, Bool.decide_eq_true]
    rw [ofAttribute, hevent, hsame]
    -- all handlers of the attribute are for the one event that its key says
    generalize Text.lowercase (String.ofList (c :: rest)) = event
    simp only [hcalls, List.filter_map, Function.comp_def]
    by_cases hsuffix : event = Text.lowercase suffix <;> simp [hsuffix]
  · have hnone : declaredCalls a = [] := by
      rw [declaredCalls]
      split
      · next c rest hkey => rw [if_neg (hlower c _ hkey)]
      · rfl
    rw [ofAttribute, hevent, hnone]
    simp

/-- The handlers of an element for an event are the calls that it declares for it. -/
theorem filter_handlers (e : Element) (element suffix : String) (args : List String) :
    ((ofElement e).value.filter fun handler => handler.event = Text.lowercase suffix).map
      (fun handler =>
        (⟨element, handler.event, handler.command, handler.params ++ args⟩ : Invocation)) =
    callsOn e element suffix args := by
  rw [ofElement_value, callsOn, List.filter_flatMap]
  simp only [filter_ofAttribute]
  induction e.attributes with
  | nil => rfl
  | cons a rest ih =>
    rw [List.flatMap_cons, List.map_append, ih, List.filter_cons]
    split
    · rw [List.flatMap_cons, List.map_append, List.map_map]
      rfl
    · rfl

/-- What a widget with the handlers of an element hands on if someone listens: the calls that the
element declares for the event, or a fault if there are none. -/
theorem dispatch_eq {registry : Registry} {widgets : Array Handle} {id : WidgetId} {h : Handle}
    (hget : registry.get? element = some id) (hwidget : widgets[id.index]? = some h)
    (hhandlers : h.handlers = (ofElement e).value) (hspells : Spells suffix spelling)
    (args : List String) :
    dispatch true registry widgets element spelling args =
      match callsOn e element suffix args with
      | [] => .error (.noHandlers element (Text.lowercase suffix))
      | call :: rest => .ok (call :: rest) := by
  rw [← filter_handlers, dispatch, hget]
  simp only [hwidget, hhandlers, hspells.canonical_eq]
  cases (ofElement e).value.filter fun handler => handler.event = Text.lowercase suffix with
  | nil => rfl
  | cons handler rest => rfl

end Event

end Uiml
