import Uiml.Proofs.Session.Linked
import Uiml.Proofs.Session.Turn
import Uiml.Proofs.Slot.Account

/-!
# The ledger of a session

All that has ever happened to the slots of a session is told by its ledger. Clearings and loads are
not in it: what slots hold and wait for outlives the widgets. However requests, outcomes, texts and
bindings follow each other, no request is lost and none is counted twice, and a slot has the picture
that was applied to it last.

## Main definitions

* `Session.slotEvents` — what an operation makes happen to slots
* `Session.Ledger` — a session, and all that has happened to its slots

## Main results

* `Session.Reachable.exists_ledger`, `Session.Ledger.accounts` — every reachable session has a
  ledger, and its slots are as the ledger says
* `Session.Ledger.loads` — no request is lost, and the picture that comes last is the one that stays
-/

namespace Uiml.Session

variable {s s' : Session} {op : Operation} {events : List Slots.Event} {canvas : Canvas}

/-- What an operation makes happen to slots. -/
def slotEvents (s : Session) : Operation → List Slots.Event
  | .setText slot text => if (s.slots.slot? slot).isSome then [.text slot text] else []
  | .request slot source kind =>
    ((s.request slot source kind).value.1.map fun number =>
      Slots.Event.requested ⟨number, slot, source, kind⟩).toList
  | .tick _ | .wait _ => s.slots.arrived.map .applied
  | _ => []

/-- A session that operations lead to, and all that has happened to its slots. -/
inductive Ledger : List Slots.Event → Session → Prop
  | new (config : Config) (files : Files) (bundles : Table String (List UInt8)) :
      Ledger [] (.new config files bundles)
  | after {events : List Slots.Event} {s s' : Session} {op : Operation} (h : Ledger events s)
      (hafter : s.after op = .ok s') : Ledger (events ++ s.slotEvents op) s'

theorem Ledger.reachable (h : Ledger events s) : Reachable s := by
  induction h with
  | new config files bundles => exact .new config files bundles
  | after _ hafter ih => exact .after ih hafter

theorem Reachable.exists_ledger (h : Reachable s) : ∃ events, Ledger events s := by
  induction h with
  | new config files bundles => exact ⟨[], .new config files bundles⟩
  | after _ hafter ih =>
    obtain ⟨events, hledger⟩ := ih
    exact ⟨_, hledger.after hafter⟩

/-- What a list of operations makes happen to slots, and the session after it, unless one of them
breaks down. -/
def record (s : Session) : List Operation → Option (List Slots.Event × Session)
  | [] => some ([], s)
  | op :: ops => do
    let t ← (s.after op).toOption
    let (events, u) ← t.record ops
    return (s.slotEvents op ++ events, u)

theorem Ledger.record {more : List Slots.Event} (h : Ledger events s) {ops : List Operation}
    (hrecord : s.record ops = some (more, s')) : Ledger (events ++ more) s' := by
  induction ops generalizing events s more with
  | nil =>
    cases hrecord
    rwa [List.append_nil]
  | cons op ops ih =>
    obtain ⟨t, hafter, hrecord⟩ := Option.bind_eq_some_iff.mp hrecord
    obtain ⟨⟨rest, u⟩, hrest, hends⟩ := Option.bind_eq_some_iff.mp hrecord
    cases hends
    cases hop : s.after op with
    | error breakdown => rw [hop] at hafter; cases hafter
    | ok t' =>
      rw [hop] at hafter
      cases hafter
      rw [← List.append_assoc]
      exact ih (h.after hop) hrest

/-- What holds after operations on a new session holds of a session with its ledger. -/
theorem exists_ledger_of_record (ops : List Operation) {p : List Slots.Event × Session → Bool}
    (h : ((Session.new {} {} {}).record ops).any p = true) :
    ∃ events s, Ledger events s ∧ p (events, s) = true := by
  obtain ⟨⟨events, s⟩, hrecord, hp⟩ := (Option.any_eq_true ..).mp h
  exact ⟨events, s, (Ledger.new {} {} {}).record hrecord, hp⟩

/-! ### The account -/

theorem slotEvents_of_writes (hop : op.writes = false) : s.slotEvents op = [] := by
  cases op <;> first | rfl | cases hop

theorem writes_of_rebuilds (hop : op.rebuilds = true) : op.writes = false := by
  cases op <;> first | rfl | cases hop

/-- Every turn of a session is entered in the account of its slots. -/
theorem Turn.accounts (h : s.Turn op s') (ha : s.slots.Accounts events []) :
    s'.slots.Accounts (events ++ s.slotEvents op) [] := by
  -- what writes nothing leaves the stock alone, and makes no events
  have hkept (hwrites : op.writes = false) (hstock : s'.slots.stock = s.slots.stock) :
      s'.slots.Accounts (events ++ s.slotEvents op) [] := by
    rw [slotEvents_of_writes hwrites, List.append_nil]
    exact ha.congr hstock
  cases h with
  | rebuilt hop hrebuilt =>
    refine hkept (writes_of_rebuilds hop) ?_
    rcases hrebuilt with rfl | hloading
    · exact s.clear_stock
    · exact hloading.stock_eq
  | executed => exact hkept rfl rfl
  | progressed element value animate =>
    refine hkept rfl ?_
    rw [setProgress]
    split <;> rfl
  | ticked dt => exact ha.poll (s.ticked dt).canvas
  | waited timeout => exact ha.poll s.stage.canvas
  | texted slot text => exact ha.setText s.stage.canvas slot text
  | requested slot source kind => exact ha.request slot source kind
  | finished number => exact (List.append_nil events).symm ▸ ha.finish number
  | arrived number result => exact (List.append_nil events).symm ▸ ha.arrive number result
  | rebound hwrites _ _ hrebinds => exact hkept hwrites hrebinds.stock_eq
  | aside hwrites _ _ hslots =>
    obtain ⟨assets, hslots⟩ := hslots
    exact hkept hwrites (by rw [hslots]; rfl)

/-- The slots of a session are as its ledger says. -/
theorem Ledger.accounts (h : Ledger events s) : s.slots.Accounts events [] := by
  induction h with
  | new config files bundles => exact .new config.slotCount _
  | after _ hafter ih => exact (after_turn hafter).accounts ih

/-! ### Loads of pictures -/

/-- Time does not bind widgets elsewhere before outcomes are applied. -/
theorem keepsSlots_of_pollsOn? (h : s.pollsOn? op = some canvas) :
    s.stage.canvas.KeepsSlots canvas := by
  cases op <;> cases h
  case tick dt => exact (s.ticked_changes dt).keepsSlots
  case wait => exact fun _ => rfl

/-- However loads, bindings and texts follow each other: every request is pending, or its outcome
has been applied, once; as many are counted as are pending, in all and over the slots; each slot has
the picture that was applied to it last, and where it came from; and a poll applies everything that
has come, in order, each outcome cleanly. -/
theorem Ledger.loads (h : Ledger events s) :
    ((Slots.started events).Perm (Slots.pending events ++ Slots.settled events) ∧
      ((Slots.started events).map ImageRequest.number).Nodup) ∧
    (s.slots.inFlight = (Slots.pending events).length ∧
      s.slots.inFlight = (s.slots.slots.toList.map Slot.inFlight).sum) ∧
    (∀ i slot, s.slots.slot? i = some slot →
      slot.image = (Slots.last? (Slots.Event.picture? i) events).map Prod.fst ∧
        slot.source = (Slots.last? (Slots.Event.picture? i) events).map Prod.snd) ∧
    ∀ op s' canvas, s.after op = .ok s' → s.pollsOn? op = some canvas →
      (s'.slots, s'.stage.canvas) =
          ({ s.slots with arrived := [] } : Slots).applyAll canvas s.slots.arrived ∧
        ∀ before outcome rest, s.slots.arrived = before ++ outcome :: rest →
          let found := ({ s.slots with arrived := [] } : Slots).applyAll canvas before
          found.1.AppliesCleanly found.2 outcome := by
  have ha := h.accounts
  have hc := h.reachable.isLinked.consistent
  refine ⟨⟨?_, ha.nodup_number⟩, ⟨ha.inFlight_eq, ha.sum_inFlight.symm⟩,
    fun i slot hslot => ⟨(ha.slots hslot).image, (ha.slots hslot).source⟩,
    fun op s' canvas hafter hpolls => ⟨?_, fun before outcome rest harrived => ?_⟩⟩
  · exact ha.conserved.trans (ha.pending_perm.symm.append_right _)
  · rw [after_of_pollsOn? hafter hpolls, Slots.poll_value]
  · -- the outcomes before this one have been applied, and those after it are still to come
    have hfound := (harrived ▸ ha.handed).applyAll canvas
    have hkept : ({ s.slots with arrived := [] } : Slots).Consistent canvas :=
      hc.keep (.refl _) (keepsSlots_of_pollsOn? hpolls)
    exact hfound.appliesCleanly (hkept.applyAll before)

/-- Two pictures for the first slot come in the other order: the one that comes last stays. A third
one has come, and is waited for until it is applied. -/
theorem loads_threeRequests :
    ∃ events s outcome, Ledger events s ∧ s.slots.arrived = [outcome] ∧
      (Slots.pending events).length = 1 ∧ s.slots.inFlight = 1 ∧
      (s.slots.slots.toList.map Slot.inFlight).sum = 1 ∧
      (s.slots.slot? 0).map Slot.source = some (some "slow") ∧
      (Slots.last? (Slots.Event.picture? 0) events).map Prod.snd = some "slow" ∧
      ({ s.slots with arrived := [] } : Slots).AppliesCleanly s.stage.canvas outcome := by
  obtain ⟨events, s, hledger, hvalue⟩ := exists_ledger_of_record
    [.request 0 "slow" .localFile, .request 0 "fast" .localFile,
      .request 1 "late" .localFile, .arrive 2 (.ok ⟨1, 1, [2]⟩), .arrive 1 (.ok ⟨1, 1, [1]⟩),
      .wait ⟨0⟩, .arrive 3 (.error .undecodable)]
    (p := fun kept => decide (kept.2.slots.arrived.length = 1) &&
      decide ((Slots.pending kept.1).length = 1) &&
      decide ((kept.2.slots.slot? 0).map Slot.source = some (some "slow"))) (by decide +kernel)
  simp only [Bool.and_eq_true, decide_eq_true_eq] at hvalue
  obtain ⟨⟨hlength, hpending⟩, hsource⟩ := hvalue
  obtain ⟨outcome, harrived⟩ := List.length_eq_one_iff.mp hlength
  obtain ⟨-, ⟨hinFlight, hsum⟩, hslots, hpolls⟩ := Ledger.loads hledger
  obtain ⟨slot, hslot, hslow⟩ := Option.map_eq_some_iff.mp hsource
  refine ⟨events, s, outcome, hledger, harrived, hpending, hinFlight.trans hpending,
    hsum.symm.trans (hinFlight.trans hpending), hsource, ?_, ?_⟩
  · exact (hslots 0 slot hslot).2.symm.trans hslow
  · exact (hpolls (.wait ⟨0⟩) _ _ rfl rfl).2 [] outcome [] harrived

/-! ### States of slots -/

/-- A slot has the state that its last event has given it: loaded after a text, loading after a
request, and after an outcome loading, loaded or not according to the requests that are outstanding
and to whether there is a picture. So its state tells the truth, except after a text while requests
are outstanding, and after an outcome when none is and the slot holds a text only. -/
theorem Ledger.slot_states (h : Ledger events s) {i : Nat} {slot : Slot}
    (hslot : s.slots.slot? i = some slot) :
    let outstanding := (Slots.pending events).countP (·.slot = i)
    let last := Slots.last? (Slots.Event.on? i) events
    slot.state =
        (match last with
        | none => .unloaded
        | some (.text _ _) => .loaded
        | some (.requested _) => .loading
        | some (.applied _) =>
          if 0 < outstanding then .loading else if slot.image.isSome then .loaded else .unloaded) ∧
      (slot.state = slot.trueState outstanding ↔
        ¬((∃ text, last = some (.text i text)) ∧ 0 < outstanding) ∧
          ¬((∃ outcome, last = some (.applied outcome)) ∧ outstanding = 0 ∧
            slot.text.isSome = true ∧ slot.image = none)) := by
  intro outstanding last
  have hleft := h.accounts.slots hslot
  have hcount : slot.inFlight = outstanding := h.accounts.inFlight_slot hslot
  have hsince : slot.StateSince last := hleft.state
  rw [Slot.trueState]
  cases hlast : last with
  | none =>
    rw [hlast] at hsince
    obtain ⟨htext, himage⟩ := hleft.of_no_event hlast
    have hnone : outstanding = 0 := hcount.symm.trans hsince.2
    simp [hsince.1, hnone, htext, himage]
  | some event =>
    rw [hlast] at hsince
    cases event with
    | text j text =>
      have hj : j = i := Slots.slot_of_last?_on? hlast
      obtain ⟨hstate, htext⟩ := hsince
      simp [hstate, htext, hj]
    | requested request =>
      obtain ⟨hstate, hpos⟩ := hsince
      simp [hstate, hcount ▸ hpos]
    | applied outcome =>
      have hstate : slot.state = Slots.stateAfter slot := hsince
      rw [hstate, Slots.stateAfter, hcount]
      refine ⟨rfl, ?_⟩
      rcases Nat.eq_zero_or_pos outstanding with hnone | hpos
      · cases htext : slot.text <;> cases himage : slot.image <;> simp [hnone]
      · simp [hpos, Nat.ne_of_gt hpos]

/-- A slot that is given a text while a picture is on its way does not say any more that it is
loading. -/
theorem state_textWhileLoading :
    ∃ events s slot text, Ledger events s ∧ s.slots.slot? 0 = some slot ∧
      Slots.last? (Slots.Event.on? 0) events = some (.text 0 text) ∧
      (Slots.pending events).countP (·.slot = 0) = 1 ∧ slot.state = .loaded ∧
      slot.state ≠ slot.trueState 1 := by
  obtain ⟨events, s, hledger, hvalue⟩ := exists_ledger_of_record
    [.request 0 "p.png" .localFile, .setText 0 "t"]
    (p := fun kept => (kept.2.slots.slot? 0).isSome &&
      ((Slots.last? (Slots.Event.on? 0) kept.1).bind (Slots.Event.text? 0)).isSome &&
      decide ((Slots.pending kept.1).countP (·.slot = 0) = 1)) (by decide +kernel)
  simp only [Bool.and_eq_true, decide_eq_true_eq, Option.isSome_iff_exists] at hvalue
  obtain ⟨⟨⟨slot, hslot⟩, text, htext⟩, hone⟩ := hvalue
  obtain ⟨event, hlast, htext⟩ := Option.bind_eq_some_iff.mp htext
  obtain rfl := Slots.Event.eq_of_text? htext
  obtain ⟨hstate, htrue⟩ := Ledger.slot_states hledger hslot
  rw [hlast] at hstate
  rw [hone] at htrue
  refine ⟨events, s, slot, text, hledger, hslot, hlast, hone, hstate, fun heq => ?_⟩
  exact (htrue.mp heq).1 ⟨⟨text, hlast⟩, Nat.one_pos⟩

/-- A state may be wrong in both ways: the slot is loaded while a picture is on its way, or unloaded
although it holds a text. -/
theorem state_ne_trueState :
    (∃ s slot, Reachable s ∧ s.slots.slot? 0 = some slot ∧ slot.inFlight = 1 ∧
      slot.state = .loaded) ∧
    ∃ s slot, Reachable s ∧ s.slots.slot? 0 = some slot ∧ slot.inFlight = 0 ∧
      slot.text = some "t" ∧ slot.state = .unloaded := by
  constructor
  · obtain ⟨events, s, hledger, hvalue⟩ := exists_ledger_of_record
      [.request 0 "p.png" .localFile, .setText 0 "t"]
      (p := fun kept => decide ((kept.2.slots.slot? 0).map
        (fun slot => (slot.inFlight, slot.state)) = some (1, .loaded))) (by decide +kernel)
    obtain ⟨slot, hslot, hstate⟩ := Option.map_eq_some_iff.mp (of_decide_eq_true hvalue)
    obtain ⟨hinFlight, hstate⟩ := Prod.mk.inj hstate
    exact ⟨s, slot, hledger.reachable, hslot, hinFlight, hstate⟩
  · obtain ⟨events, s, hledger, hvalue⟩ := exists_ledger_of_record
      [.request 0 "p.png" .localFile, .setText 0 "t", .finish 1, .tick 0]
      (p := fun kept => decide ((kept.2.slots.slot? 0).map
        (fun slot => (slot.inFlight, slot.text, slot.state)) = some (0, some "t", .unloaded)))
      (by decide +kernel)
    obtain ⟨slot, hslot, hstate⟩ := Option.map_eq_some_iff.mp (of_decide_eq_true hvalue)
    obtain ⟨hinFlight, hrest⟩ := Prod.mk.inj hstate
    obtain ⟨htext, hstate⟩ := Prod.mk.inj hrest
    exact ⟨s, slot, hledger.reachable, hslot, hinFlight, htext, hstate⟩

end Uiml.Session
