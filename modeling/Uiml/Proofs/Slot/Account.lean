import Mathlib.Algebra.BigOperators.Group.Finset.Basic
import Mathlib.Algebra.GroupWithZero.Nat
import Uiml.Proofs.Slot.Consistent
import Uiml.Proofs.Slot.Stock

/-!
# The accounts of slots

What has happened to slots is told by events: a slot has been given a text, a picture has been
requested for one, the outcome of a request has been applied. A board keeps account of its events:
every request that has been made is waited for, or its outcome has been applied, once; the numbers
of requests in flight say how many are waited for; and every slot is as its last events have left
it.

## Main definitions

* `Slots.Event` — what happens to a slot
* `Slots.pending` — the requests of which the outcome has not been applied
* `Slots.Accounts` — a board is as a list of events has left it

## Main results

* `Slots.Accounts.setText`, `Slots.Accounts.request`, `Slots.Accounts.finish`,
  `Slots.Accounts.applyOutcome` — what each operation adds to the account
* `Slots.Accounts.pending_perm`, `Slots.Accounts.sum_inFlight` — the requests that are waited for
-/

namespace Uiml

/-- What happens to a slot. -/
inductive Slots.Event where
  | text (slot : Nat) (text : String)
  | requested (request : ImageRequest)
  | applied (outcome : ImageOutcome)

namespace Slots

namespace Event

/-- The slot that an event happens to. -/
def slot : Event → Nat
  | .text slot _ => slot
  | .requested request => request.slot
  | .applied outcome => outcome.request.slot

/-- The request that is made. -/
def request? : Event → Option ImageRequest
  | .requested request => some request
  | _ => none

/-- The request of which the outcome is applied. -/
def settled? : Event → Option ImageRequest
  | .applied outcome => some outcome.request
  | _ => none

/-- The event, if it happens to a slot. -/
def on? (i : Nat) (event : Event) : Option Event := if event.slot = i then some event else none

/-- The text that a slot is given. -/
def text? (i : Nat) : Event → Option String
  | .text slot said => if slot = i then some said else none
  | _ => none

/-- The picture that is applied to a slot, and where it came from. -/
def picture? (i : Nat) : Event → Option (Picture × String)
  | .applied outcome =>
    if outcome.request.slot = i then
      outcome.result.toOption.map fun picture => (picture, outcome.request.source)
    else none
  | _ => none

end Event

/-- What the last event says that has a say. -/
def last? {α : Type} (word : Event → Option α) (events : List Event) : Option α :=
  (events.filterMap word).getLast?

/-- The requests that have been made. -/
def started (events : List Event) : List ImageRequest := events.filterMap Event.request?

/-- The requests of which the outcome has been applied. -/
def settled (events : List Event) : List ImageRequest := events.filterMap Event.settled?

/-- The requests of which the outcome has not been applied. -/
def pending (events : List Event) : List ImageRequest :=
  (started events).filter fun request => request ∉ settled events

/-- The requests that a board waits for, when it has been handed some outcomes to apply. -/
def waiting (board : Slots) (ready : List ImageOutcome) : List ImageRequest :=
  board.held ++ (ready ++ board.arrived).map ImageOutcome.request ++ board.stuck

/-- The number of requests for a slot that a board waits for. -/
def waitingFor (board : Slots) (ready : List ImageOutcome) (i : Nat) : Nat :=
  ((board.waiting ready).map ImageRequest.slot).count i

end Slots

/-- The state of a slot, as its last event has left it. -/
def Slot.StateSince (slot : Slot) : Option Slots.Event → Prop
  | none => slot.state = .unloaded ∧ slot.inFlight = 0
  | some (.text _ text) => slot.state = .loaded ∧ slot.text = some text
  | some (.requested _) => slot.state = .loading ∧ 0 < slot.inFlight
  | some (.applied _) => slot.state = Slots.stateAfter slot

/-- A slot is as its events have left it, with so many requests in flight. -/
structure Slot.AsLeft (slot : Slot) (events : List Slots.Event) (i inFlight : Nat) : Prop where
  inFlight : slot.inFlight = inFlight
  text : slot.text = Slots.last? (Slots.Event.text? i) events
  image : slot.image = (Slots.last? (Slots.Event.picture? i) events).map Prod.fst
  source : slot.source = (Slots.last? (Slots.Event.picture? i) events).map Prod.snd
  state : slot.StateSince (Slots.last? (Slots.Event.on? i) events)

/-- How the outcome of a request is applied: nothing is counted below zero, a failure changes no
content and no widget, and nothing changes but the slot and the widgets that are bound to it. -/
structure Slots.AppliesCleanly (board : Slots) (canvas : Canvas) (outcome : ImageOutcome) :
    Prop where
  inFlight_pos : 0 < board.inFlight
  slot : ∃ slot, board.slot? outcome.request.slot = some slot ∧ 0 < slot.inFlight
  failed : ∀ {e}, outcome.result = .error e →
    (board.applyOutcome canvas outcome).value.2 = canvas ∧
      ∀ {i slot}, board.slot? i = some slot → ∃ state inFlight,
        (board.applyOutcome canvas outcome).value.1.slot? i = some { slot with state, inFlight }
  elsewhere : ∀ {i}, i ≠ outcome.request.slot →
    (board.applyOutcome canvas outcome).value.1.slot? i = board.slot? i
  unbound : ∀ {id h}, canvas.widget? id = some h → h.slot ≠ some outcome.request.slot →
    (board.applyOutcome canvas outcome).value.2.widget? id = some h

/-- The state of a slot that tells the truth, with so many requests outstanding: it is loading as
long as there are any, and else loaded if it holds anything. -/
def Slot.trueState (slot : Slot) (outstanding : Nat) : Slot.LoadState :=
  if 0 < outstanding then .loading
  else if slot.text.isSome || slot.image.isSome then .loaded
  else .unloaded

/-- A board is as a list of events has left it, when it has been handed some outcomes to apply. -/
structure Slots.Accounts (events : List Slots.Event) (ready : List ImageOutcome) (board : Slots) :
    Prop where
  /-- Every request is waited for, or its outcome has been applied. -/
  conserved : (started events).Perm (board.waiting ready ++ settled events)
  /-- Requests are numbered. -/
  numbered : (started events).map ImageRequest.number = List.range' 1 board.lastRequest
  /-- Requests are for slots that are there. -/
  placed : ∀ request ∈ started events, request.slot < board.size
  inFlight : board.inFlight = (board.waiting ready).length
  slots : ∀ {i slot}, board.slot? i = some slot → slot.AsLeft events i (board.waitingFor ready i)

namespace Slots

variable {events : List Event} {event : Event} {ready : List ImageOutcome} {board board' : Slots}
  {canvas : Canvas} {outcome : ImageOutcome} {i index : Nat} {slot slot' : Slot}

theorem last?_concat {α : Type} (word : Event → Option α) (events : List Event) (event : Event) :
    last? word (events ++ [event]) = (word event).or (last? word events) := by
  rw [last?, last?, List.filterMap_append, List.getLast?_append, List.filterMap_cons]
  cases word event <;> rfl

section Concat

variable (events : List Event) (i : Nat) (text : String) (request : ImageRequest)
  (outcome : ImageOutcome)

@[simp] theorem started_text : started (events ++ [.text i text]) = started events := by
  simp [started, Event.request?]

@[simp] theorem started_requested :
    started (events ++ [.requested request]) = started events ++ [request] := by
  simp [started, Event.request?]

@[simp] theorem started_applied : started (events ++ [.applied outcome]) = started events := by
  simp [started, Event.request?]

@[simp] theorem settled_text : settled (events ++ [.text i text]) = settled events := by
  simp [settled, Event.settled?]

@[simp] theorem settled_requested :
    settled (events ++ [.requested request]) = settled events := by
  simp [settled, Event.settled?]

@[simp] theorem settled_applied :
    settled (events ++ [.applied outcome]) = settled events ++ [outcome.request] := by
  simp [settled, Event.settled?]

end Concat

/-- The last event of a slot happened to it. -/
theorem slot_of_last?_on? (h : last? (Event.on? i) events = some event) : event.slot = i := by
  obtain ⟨found, -, hon⟩ := List.mem_filterMap.mp (List.mem_of_getLast? h)
  obtain ⟨hslot, hfound⟩ := Option.ite_none_right_eq_some.mp hon
  exact Option.some.inj hfound ▸ hslot

/-- A slot is given a text by one kind of event only. -/
theorem Event.eq_of_text? {text : String} (h : event.text? i = some text) :
    event = .text i text := by
  cases event with
  | text slot said =>
    obtain ⟨rfl, hsaid⟩ := Option.ite_none_right_eq_some.mp h
    rw [Option.some.inj hsaid]
  | requested | applied => cases h

/-- Other slots have no part in an event. -/
theorem Event.none_of_ne (hne : event.slot ≠ i) :
    event.on? i = none ∧ event.text? i = none ∧ event.picture? i = none := by
  refine ⟨if_neg hne, ?_, ?_⟩
  · cases event with
    | text => exact if_neg hne
    | requested | applied => rfl
  · cases event with
    | text | requested => rfl
    | applied => exact if_neg hne

end Slots

/-! ### One slot -/

/-- Widgets have no say in the state of a slot. -/
theorem Slot.StateSince.congr {slot slot' : Slot} {event? : Option Slots.Event}
    (h : slot.StateSince event?) (hstock : slot'.stock = slot.stock) : slot'.StateSince event? := by
  have hstate : slot'.state = slot.state := (congrArg Slot.state hstock :)
  have hinFlight : slot'.inFlight = slot.inFlight := (congrArg Slot.inFlight hstock :)
  have htext : slot'.text = slot.text := (congrArg Slot.text hstock :)
  have himage : slot'.image = slot.image := (congrArg Slot.image hstock :)
  rcases event? with _ | event
  · exact ⟨hstate.trans h.1, hinFlight.trans h.2⟩
  · cases event with
    | text => exact ⟨hstate.trans h.1, htext.trans h.2⟩
    | requested => exact ⟨hstate.trans h.1, hinFlight ▸ h.2⟩
    | applied =>
      have hafter : Slots.stateAfter slot' = Slots.stateAfter slot := by
        rw [Slots.stateAfter, Slots.stateAfter, hinFlight, himage]
      exact (hstate.trans h).trans hafter.symm

namespace Slot.AsLeft

open Slots

variable {slot slot' : Slot} {events : List Event} {event : Event} {i n : Nat}

/-- An event leaves the other slots as they are. -/
theorem elsewhere (h : slot.AsLeft events i n) (hne : event.slot ≠ i) :
    slot.AsLeft (events ++ [event]) i n := by
  obtain ⟨hon, htext, hpicture⟩ := Event.none_of_ne hne
  refine ⟨h.inFlight, ?_, ?_, ?_, ?_⟩
  · rw [last?_concat, htext]
    exact h.text
  · rw [last?_concat, hpicture]
    exact h.image
  · rw [last?_concat, hpicture]
    exact h.source
  · rw [last?_concat, hon]
    exact h.state

/-- Widgets have no say in what a slot is like. -/
theorem congr (h : slot.AsLeft events i n) (hstock : slot'.stock = slot.stock) :
    slot'.AsLeft events i n where
  inFlight := (congrArg Slot.inFlight hstock :).trans h.inFlight
  text := (congrArg Slot.text hstock :).trans h.text
  image := (congrArg Slot.image hstock :).trans h.image
  source := (congrArg Slot.source hstock :).trans h.source
  state := h.state.congr hstock

theorem say (h : slot.AsLeft events i n) (text : String) :
    (slot.say text).AsLeft (events ++ [.text i text]) i n := by
  have hon : (Event.text i text).on? i = some (.text i text) := if_pos rfl
  have htext : (Event.text i text).text? i = some text := if_pos rfl
  refine ⟨h.inFlight, ?_, ?_, ?_, ?_⟩
  · rw [last?_concat, htext]
    rfl
  · rw [last?_concat]
    exact h.image
  · rw [last?_concat]
    exact h.source
  · rw [last?_concat, hon]
    exact ⟨rfl, rfl⟩

theorem ask (h : slot.AsLeft events i n) {request : ImageRequest} (hslot : request.slot = i) :
    (slot.ask request.number).AsLeft (events ++ [.requested request]) i (n + 1) := by
  have hon : (Event.requested request).on? i = some (.requested request) := if_pos hslot
  refine ⟨congrArg (· + 1) h.inFlight, ?_, ?_, ?_, ?_⟩
  · rw [last?_concat]
    exact h.text
  · rw [last?_concat]
    exact h.image
  · rw [last?_concat]
    exact h.source
  · rw [last?_concat, hon]
    exact ⟨rfl, Nat.succ_pos _⟩

theorem resolve (h : slot.AsLeft events i (n + 1)) {outcome : ImageOutcome}
    (hslot : outcome.request.slot = i) :
    (slot.resolve outcome).AsLeft (events ++ [.applied outcome]) i n := by
  have hon : (Event.applied outcome).on? i = some (.applied outcome) := if_pos hslot
  have hpicture : (Event.applied outcome).picture? i =
      outcome.result.toOption.map fun picture => (picture, outcome.request.source) := if_pos hslot
  have hinFlight : slot.inFlight - 1 = n := by rw [h.inFlight, Nat.add_sub_cancel]
  refine ⟨?_, ?_, ?_, ?_, ?_⟩
  · rw [← hinFlight, Slot.resolve]
    cases outcome.result <;> rfl
  · rw [last?_concat, Slot.resolve]
    cases outcome.result <;> exact h.text
  · rw [last?_concat, hpicture, Slot.resolve]
    cases outcome.result with
    | error e => exact h.image
    | ok picture => rfl
  · rw [last?_concat, hpicture, Slot.resolve]
    cases outcome.result with
    | error e => exact h.source
    | ok picture => rfl
  · rw [last?_concat, hon, Slot.resolve]
    cases outcome.result <;> rfl

/-- A slot to which nothing has happened holds nothing. -/
theorem of_no_event (h : slot.AsLeft events i n)
    (hnone : last? (Event.on? i) events = none) : slot.text = none ∧ slot.image = none := by
  have hne : ∀ event ∈ events, event.slot ≠ i := by
    intro event hmem he
    have hon := List.filterMap_eq_nil_iff.mp (List.getLast?_eq_none_iff.mp hnone) event hmem
    rw [Event.on?, if_pos he] at hon
    cases hon
  have hunsaid {α : Type} {word : Event → Option α}
      (hword : ∀ {event}, event.slot ≠ i → word event = none) : last? word events = none :=
    List.getLast?_eq_none_iff.mpr
      (List.filterMap_eq_nil_iff.mpr fun event hmem => hword (hne event hmem))
  rw [h.text, h.image, hunsaid fun hne => (Event.none_of_ne hne).2.1,
    hunsaid fun hne => (Event.none_of_ne hne).2.2]
  exact ⟨rfl, rfl⟩

end Slot.AsLeft

/-! ### A board of slots -/

namespace Slots

variable {events : List Event} {event : Event} {ready ready' : List ImageOutcome}
  {board board' : Slots} {canvas : Canvas} {outcome : ImageOutcome} {r : ImageRequest}
  {i index number : Nat} {slot : Slot}

theorem waiting_cons (board : Slots) (outcome : ImageOutcome) (ready : List ImageOutcome) :
    (board.waiting (outcome :: ready)).Perm (outcome.request :: board.waiting ready) := by
  simp only [waiting, List.cons_append, List.map_cons, List.append_assoc]
  exact List.perm_middle

theorem waitingFor_of_perm_cons
    (hwaiting : (board'.waiting ready').Perm (r :: board.waiting ready)) :
    board'.waitingFor ready' r.slot = board.waitingFor ready r.slot + 1 := by
  rw [waitingFor, (hwaiting.map _).count_eq, List.map_cons, List.count_cons_self, waitingFor]

theorem waitingFor_of_perm_cons_of_ne
    (hwaiting : (board'.waiting ready').Perm (r :: board.waiting ready)) (hne : i ≠ r.slot) :
    board'.waitingFor ready' i = board.waitingFor ready i := by
  rw [waitingFor, (hwaiting.map _).count_eq, List.map_cons, List.count_cons_of_ne hne.symm,
    waitingFor]

theorem waitingFor_of_perm (hwaiting : (board'.waiting ready').Perm (board.waiting ready))
    (i : Nat) : board'.waitingFor ready' i = board.waitingFor ready i :=
  (hwaiting.map _).count_eq i

/-- Of what is numbered one by one, all but one have other numbers. -/
theorem perm_cons_filter {requests : List ImageRequest}
    (hnodup : (requests.map ImageRequest.number).Nodup) (hmem : r ∈ requests) :
    requests.Perm (r :: requests.filter fun other => other.number ≠ r.number) := by
  have hothers : requests.erase r = requests.filter fun other => other.number ≠ r.number := by
    rw [(List.Nodup.of_map _ hnodup).erase_eq_filter]
    refine List.filter_congr fun other hother => ?_
    have hinj : other.number = r.number ↔ other = r :=
      ⟨fun he => List.inj_on_of_nodup_map hnodup hother hmem he, fun he => he ▸ rfl⟩
    rw [Bool.eq_iff_iff, bne_iff_ne, decide_eq_true_iff, Ne, Ne, hinj]
  exact hothers ▸ List.perm_cons_erase hmem

/-- A request whose outcome has come goes on waiting until it is applied. -/
theorem perm_of_arrived {held : List ImageRequest} (hheld : board.held.Perm (r :: held))
    (result : Except FetchError Picture) :
    ({ board with held, arrived := board.arrived ++ [⟨r, result⟩] } : Slots).waiting ready
      |>.Perm (board.waiting ready) := by
  refine List.perm_iff_count.mpr fun other => ?_
  have hcount := hheld.count_eq other
  simp only [waiting, List.map_append, List.map_cons, List.map_nil, List.count_append,
    List.count_cons, List.count_nil] at hcount ⊢
  omega

namespace Accounts

theorem nodup_number (h : board.Accounts events ready) :
    ((started events).map ImageRequest.number).Nodup := h.numbered ▸ List.nodup_range'

theorem nodup_conserved (h : board.Accounts events ready) :
    (board.waiting ready ++ settled events).Nodup :=
  h.conserved.nodup_iff.mp (List.Nodup.of_map _ h.nodup_number)

theorem placed_of_waiting (h : board.Accounts events ready) (hmem : r ∈ board.waiting ready) :
    r.slot < board.size :=
  h.placed r (h.conserved.mem_iff.mpr (List.mem_append_left _ hmem))

/-- Nothing has happened to a new board. -/
theorem new (count : Nat) (assets : Assets) : (Slots.new count assets).Accounts [] [] where
  conserved := .refl _
  numbered := rfl
  placed := fun _ hmem => by cases hmem
  inFlight := rfl
  slots := fun hslot => by
    simp only [Slots.new, slot?, Array.getElem?_replicate] at hslot
    split at hslot
    · cases hslot
      exact ⟨rfl, rfl, rfl, rfl, rfl, rfl⟩
    · cases hslot

/-- It is no event when widgets are bound, or when requests go on waiting elsewhere. -/
theorem keep (h : board.Accounts events ready)
    (hslots : board'.slots.map Slot.stock = board.slots.map Slot.stock)
    (hinFlight : board'.inFlight = board.inFlight) (hlast : board'.lastRequest = board.lastRequest)
    (hwaiting : (board'.waiting ready').Perm (board.waiting ready)) :
    board'.Accounts events ready' where
  conserved := h.conserved.trans (hwaiting.symm.append_right _)
  numbered := hlast ▸ h.numbered
  placed := size_of_stock hslots ▸ h.placed
  inFlight := by rw [hinFlight, h.inFlight, hwaiting.length_eq]
  slots := fun {i slot'} hslot' => by
    obtain ⟨slot, hslot, heq⟩ := exists_slot?_of_stock hslots hslot'
    rw [waitingFor_of_perm hwaiting]
    exact (h.slots hslot).congr heq.symm

theorem congr (h : board.Accounts events ready) (hstock : board'.stock = board.stock) :
    board'.Accounts events ready := by
  have hheld : board'.held = board.held := (congrArg Slots.held hstock :)
  have harrived : board'.arrived = board.arrived := (congrArg Slots.arrived hstock :)
  have hstuck : board'.stuck = board.stuck := (congrArg Slots.stuck hstock :)
  refine h.keep (congrArg Slots.slots hstock) (congrArg Slots.inFlight hstock :)
    (congrArg Slots.lastRequest hstock :) (.of_eq ?_)
  rw [waiting, waiting, hheld, harrived, hstuck]

/-- A request that is held leaves, and goes on waiting elsewhere. -/
theorem unhold (h : board.Accounts events ready)
    (hfind : board.held.find? (fun request => request.number = number) = some r) :
    board.held.Perm (r :: board.held.filter fun other => other.number ≠ number) := by
  have hmem : r ∈ board.held := List.mem_of_find?_eq_some hfind
  have hnumber : r.number = number := by simpa using List.find?_some hfind
  have hsub : board.held.Sublist (board.waiting ready ++ settled events) := by
    rw [waiting, List.append_assoc, List.append_assoc]
    exact List.sublist_append_left ..
  have hnodup : (board.held.map ImageRequest.number).Nodup :=
    ((h.conserved.map _).nodup_iff.mp h.nodup_number).sublist (hsub.map _)
  exact hnumber ▸ perm_cons_filter hnodup hmem

/-- Whether the outcome has come or never will, the request goes on waiting. -/
theorem finish (h : board.Accounts events ready) (number : Nat) :
    (board.finish number).2.Accounts events ready := by
  rw [Slots.finish]
  split
  · exact h
  · next r hfind =>
    have hheld := h.unhold hfind
    simp only
    split
    · exact h.keep rfl rfl rfl (perm_of_arrived hheld _)
    · refine h.keep rfl rfl rfl (List.perm_iff_count.mpr fun other => ?_)
      have hcount := hheld.count_eq other
      simp only [waiting, List.count_append, List.count_cons, List.count_nil] at hcount ⊢
      omega

theorem arrive (h : board.Accounts events ready) (number : Nat)
    (result : Except FetchError Picture) : (board.arrive number result).Accounts events ready := by
  rw [Slots.arrive]
  split
  · exact h
  · next r hfind => exact h.keep rfl rfl rfl (perm_of_arrived (h.unhold hfind) result)

/-! ### Events -/

/-- After an event, a slot is as the event leaves it, and the others are as they were. -/
theorem slots_concat (h : board.Accounts events ready) {f : Slot → Slot}
    (hslot? : ∀ i, board'.slot? i =
      if i = event.slot then (board.slot? i).map f else board.slot? i)
    (helsewhere : ∀ i, i ≠ event.slot → board'.waitingFor ready' i = board.waitingFor ready i)
    (hf : ∀ {slot}, slot.AsLeft events event.slot (board.waitingFor ready event.slot) →
      (f slot).AsLeft (events ++ [event]) event.slot (board'.waitingFor ready' event.slot))
    (hslot : board'.slot? i = some slot) :
    slot.AsLeft (events ++ [event]) i (board'.waitingFor ready' i) := by
  rw [hslot?] at hslot
  split at hslot
  · next he =>
    subst he
    obtain ⟨old, hold, rfl⟩ := Option.map_eq_some_iff.mp hslot
    exact hf (h.slots hold)
  · next hne =>
    rw [helsewhere i hne]
    exact (h.slots hslot).elsewhere (Ne.symm hne)

/-- A text makes no request, and no outcome is applied. -/
theorem setText (h : board.Accounts events ready) (canvas : Canvas) (index : Nat) (text : String) :
    (board.setText canvas index text).value.2.1.Accounts
      (events ++ if (board.slot? index).isSome then [.text index text] else []) ready := by
  cases hslot : board.slot? index with
  | none =>
    rw [setText_of_slot?_eq_none hslot]
    exact (List.append_nil _).symm ▸ h
  | some slot =>
    rw [setText_of_slot? hslot, Option.isSome_some, if_pos rfl]
    refine ⟨?_, ?_, ?_, h.inFlight, h.slots_concat (fun i => slot?_modify _) (fun _ _ => rfl)
      (·.say text)⟩
    · rw [started_text, settled_text]
      exact h.conserved
    · rw [started_text]
      exact h.numbered
    · rw [started_text, size, modify, Array.size_modify]
      exact h.placed

/-- A request that is made has the next number, and is waited for. -/
theorem ask (h : board.Accounts events ready) (hnumber : r.number = board.lastRequest + 1)
    (hslot : r.slot < board.size) :
    ({ board.modify r.slot (·.ask r.number) with
      inFlight := board.inFlight + 1
      lastRequest := r.number
      held := board.held ++ [r] } : Slots).Accounts (events ++ [.requested r]) ready := by
  generalize hboard : ({ board.modify r.slot (·.ask r.number) with
    inFlight := board.inFlight + 1
    lastRequest := r.number
    held := board.held ++ [r] } : Slots) = board'
  have hwaiting : (board'.waiting ready).Perm (r :: board.waiting ready) := by
    simp only [← hboard, waiting, List.append_assoc]
    exact List.perm_middle
  refine ⟨?_, ?_, ?_, ?_, h.slots_concat (f := (·.ask r.number)) (fun i => ?_)
    (fun i hne => waitingFor_of_perm_cons_of_ne hwaiting hne) fun hleft => ?_⟩
  · rw [started_requested, settled_requested]
    refine (List.perm_append_singleton _ _).trans ?_
    exact (h.conserved.cons r).trans (hwaiting.symm.append_right _)
  · rw [started_requested, List.map_append, h.numbered, ← hboard, List.map_singleton, hnumber,
      List.range'_1_concat, Nat.add_comm 1]
  · rw [started_requested]
    intro request hmem
    rw [← hboard, size, modify, Array.size_modify]
    rcases List.mem_append.mp hmem with hmem | hmem
    · exact h.placed request hmem
    · exact List.mem_singleton.mp hmem ▸ hslot
  · rw [hwaiting.length_eq, List.length_cons, ← h.inFlight, ← hboard]
  · rw [← hboard]
    exact slot?_modify _
  · exact waitingFor_of_perm_cons hwaiting ▸ hleft.ask rfl

theorem request (h : board.Accounts events ready) (index : Nat) (source : String)
    (kind : SourceKind) :
    (board.request index source kind).value.2.Accounts
      (events ++ ((board.request index source kind).value.1.map fun number =>
        Event.requested ⟨number, index, source, kind⟩).toList) ready := by
  cases hslot : board.slot? index with
  | none =>
    rw [request_of_slot?_eq_none hslot]
    exact (List.append_nil _).symm ▸ h
  | some slot =>
    rw [request_of_slot? hslot]
    exact h.ask (r := ⟨board.lastRequest + 1, index, source, kind⟩) rfl
      (Array.getElem?_eq_some_iff.mp hslot).1

/-- An outcome is applied once: the request is not waited for any more. -/
theorem applyOutcome (h : board.Accounts events (outcome :: ready)) (canvas : Canvas) :
    (board.applyOutcome canvas outcome).value.1.Accounts (events ++ [.applied outcome]) ready := by
  obtain ⟨slots, hsize, hboard⟩ := board.applyOutcome_fst canvas outcome
  have hslot? := board.slot?_applyOutcome canvas outcome
  rw [hboard] at hslot? ⊢
  have hwaiting := board.waiting_cons outcome ready
  refine ⟨?_, ?_, ?_, ?_, h.slots_concat hslot?
    (fun i hne => (waitingFor_of_perm_cons_of_ne hwaiting hne).symm) fun hleft => ?_⟩
  · rw [started_applied, settled_applied, ← List.append_assoc]
    refine (h.conserved.trans (hwaiting.append_right _)).trans ?_
    exact (List.perm_append_singleton _ _).symm
  · rw [started_applied]
    exact h.numbered
  · rw [started_applied, size, hsize]
    exact h.placed
  · have hlength := h.inFlight.trans hwaiting.length_eq
    exact Nat.sub_eq_of_eq_add hlength
  · exact Slot.AsLeft.resolve (waitingFor_of_perm_cons hwaiting ▸ hleft) rfl

/-- While outcomes are applied, those that come first are told before the others. -/
theorem applyAll (h : board.Accounts events (ready ++ ready')) (canvas : Canvas) :
    (board.applyAll canvas ready).1.Accounts (events ++ ready.map .applied) ready' := by
  induction ready generalizing events board canvas with
  | nil => exact (List.append_nil _).symm ▸ h
  | cons outcome ready ih =>
    rw [List.map_cons, ← List.singleton_append, ← List.append_assoc]
    exact ih (h.applyOutcome canvas) _

/-- What has come can be handed to the board to be applied. -/
theorem handed (h : board.Accounts events []) :
    ({ board with arrived := [] } : Slots).Accounts events board.arrived :=
  h.keep rfl rfl rfl (.of_eq (by rw [waiting, waiting, List.append_nil, List.nil_append]))

theorem poll (h : board.Accounts events []) (canvas : Canvas) :
    (board.poll canvas).value.2.1.Accounts (events ++ board.arrived.map .applied) [] := by
  rw [poll_value]
  exact applyAll ((List.append_nil _).symm ▸ h.handed) canvas

/-! ### Requests that are waited for -/

theorem pending_perm (h : board.Accounts events ready) :
    (pending events).Perm (board.waiting ready) := by
  have hdisjoint := List.disjoint_of_nodup_append h.nodup_conserved
  have hkept : (board.waiting ready).filter (fun r => r ∉ settled events) = board.waiting ready :=
    List.filter_eq_self.mpr fun r hr => decide_eq_true (hdisjoint hr)
  have hgone : (settled events).filter (fun r => r ∉ settled events) = [] :=
    List.filter_eq_nil_iff.mpr fun r hr => by simpa using hr
  have hfilter := h.conserved.filter fun r => r ∉ settled events
  rwa [List.filter_append, hkept, hgone, List.append_nil] at hfilter

theorem inFlight_eq (h : board.Accounts events ready) :
    board.inFlight = (pending events).length := h.inFlight.trans h.pending_perm.length_eq.symm

theorem inFlight_slot (h : board.Accounts events ready) (hslot : board.slot? i = some slot) :
    slot.inFlight = (pending events).countP (·.slot = i) := by
  rw [(h.slots hslot).inFlight, waitingFor, ← (h.pending_perm.map _).count_eq, List.count,
    List.countP_map]
  rfl

/-- How many requests are waited for, is what the slots have counted together. -/
theorem sum_inFlight (h : board.Accounts events ready) :
    (board.slots.toList.map Slot.inFlight).sum = board.inFlight := by
  let placed : List Nat := (board.waiting ready).map ImageRequest.slot
  have hplaced : ∀ i ∈ placed, i < board.size := by
    intro i hi
    obtain ⟨r, hr, rfl⟩ := List.mem_map.mp hi
    exact h.placed_of_waiting hr
  have hslots : board.slots.toList.map Slot.inFlight =
      (List.range board.size).map (placed.count ·) := by
    refine List.ext_getElem (by simp [size]) fun i hi _ => ?_
    rw [List.length_map] at hi
    rw [List.getElem_map, List.getElem_map, List.getElem_range,
      (h.slots (slot?_eq_getElem hi)).inFlight]
    rfl
  -- every request that is waited for is counted at its slot
  have hsum := Multiset.sum_count_eq_card (s := Finset.range board.size)
    (m := (placed : Multiset Nat)) (by simpa using hplaced)
  simp only [Multiset.coe_count, Multiset.coe_card] at hsum
  rw [hslots, h.inFlight]
  exact hsum.trans (List.length_map _)

/-- Nothing is counted below zero when an outcome is applied, and nothing changes elsewhere. -/
theorem appliesCleanly (h : board.Accounts events (outcome :: ready))
    (hc : board.Consistent canvas) : board.AppliesCleanly canvas outcome := by
  have hwaiting := board.waiting_cons outcome ready
  have hmem : outcome.request ∈ board.waiting (outcome :: ready) :=
    hwaiting.mem_iff.mpr List.mem_cons_self
  obtain ⟨slot, hslot⟩ : ∃ slot, board.slot? outcome.request.slot = some slot :=
    ⟨_, Array.getElem?_eq_getElem (h.placed_of_waiting hmem)⟩
  refine ⟨?_, ⟨slot, hslot, ?_⟩, applyOutcome_of_error, fun hne => ?_, fun hid hfree => ?_⟩
  · rw [h.inFlight, hwaiting.length_eq]
    exact Nat.succ_pos _
  · rw [(h.slots hslot).inFlight]
    exact List.count_pos_iff.mpr (List.mem_map_of_mem hmem)
  · rw [slot?_applyOutcome, if_neg hne]
  · rw [widget?_applyOutcome_of_not_mem fun _ hlisted => hc.not_mem_of_slot_ne hid hlisted hfree]
    exact hid

end Accounts

end Slots

end Uiml
