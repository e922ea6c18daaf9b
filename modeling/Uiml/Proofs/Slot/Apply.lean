import Uiml.Proofs.Canvas.Change
import Uiml.Proofs.Slot.Binding

/-!
# Giving slots their contents

What is left by the two operations that write the contents of slots: a text is given at once, the
outcome of a request when its turn comes. Either is shown on the widgets that the slot lists, as far
as they have somewhere to show it, and is seen nowhere else.

## Main definitions

* `Handle.withText`, `Handle.withImage`, `Handle.withContent` — a widget on which a content is shown
* `Slot.resolve` — a slot after the outcome of one of its requests
* `Slots.applyAll` — outcomes are applied one after the other

## Main results

* `Slots.setText_of_slot?`, `Slots.applyOutcome_of_slot?` — what the two operations leave
* `Slots.poll_value` — a poll applies all that has come
-/

namespace Uiml

namespace Handle

/-- The widget with a text shown on it, if it has somewhere to show it. -/
def withText (h : Handle) (text : String) : Handle :=
  if h.textSurface.isSome then { h with text := some text } else h

/-- The widget with a picture shown on it, if it has somewhere to show it. -/
def withImage (h : Handle) (image : Picture) : Handle :=
  if h.imageSurface.isSome then { h with image := some image } else h

theorem withText_withText (h : Handle) (text : String) :
    (h.withText text).withText text = h.withText text := by
  by_cases hsurface : h.textSurface.isSome = true <;> simp [withText, hsurface]

theorem withImage_withImage (h : Handle) (image : Picture) :
    (h.withImage image).withImage image = h.withImage image := by
  by_cases hsurface : h.imageSurface.isSome = true <;> simp [withImage, hsurface]

@[simp] theorem textSurface_withText (h : Handle) (text : String) :
    (h.withText text).textSurface = h.textSurface := by
  rw [withText]
  split <;> rfl

@[simp] theorem slot_withText (h : Handle) (text : String) : (h.withText text).slot = h.slot := by
  rw [withText]
  split <;> rfl

@[simp] theorem imageSurface_withImage (h : Handle) (image : Picture) :
    (h.withImage image).imageSurface = h.imageSurface := by
  rw [withImage]
  split <;> rfl

@[simp] theorem slot_withImage (h : Handle) (image : Picture) :
    (h.withImage image).slot = h.slot := by
  rw [withImage]
  split <;> rfl

/-- The widget with the content of a slot shown on it, as far as it has somewhere to show it. -/
def withContent (h : Handle) (slot : Slot) : Handle :=
  let h :=
    match slot.text with
    | some text => h.withText text
    | none => h
  match slot.image with
  | some image => h.withImage image
  | none => h

end Handle

/-! ### Showing a content on widgets -/

namespace Canvas

variable {canvas : Canvas} {id j : WidgetId}

/-- What is written to a surface of a widget is seen on the widget if it has that surface. -/
theorem widget?_write (surface : Handle → Option NodeId) (f : Handle → Handle)
    (g : NodeId → Handle → Scene → Scene) :
    (match (canvas.widget? id).bind surface with
      | some node => canvas.update id f (g node)
      | none => canvas).widget? j =
      if j = id then (canvas.widget? j).map fun h => if (surface h).isSome then f h else h
      else canvas.widget? j := by
  by_cases hj : j = id
  · subst hj
    cases hid : canvas.widget? j with
    | none =>
      rw [Option.bind_none, if_pos rfl, Option.map_none]
      exact hid
    | some h =>
      rw [Option.bind_some, if_pos rfl, Option.map_some]
      cases surface h with
      | none => exact hid
      | some node => simp only [widget?_update, hid, if_true, Option.map_some, Option.isSome_some]
  · rw [if_neg hj]
    split
    · rw [widget?_update, if_neg hj]
    · rfl

theorem widget?_showText (text : String) : (canvas.showText id text).2.widget? j =
    if j = id then (canvas.widget? j).map (·.withText text) else canvas.widget? j := by
  refine Eq.trans ?_ (widget?_write Handle.textSurface ({ · with text := some text })
    fun surface _ scene => (scene.setText surface text).2)
  rw [showText]
  cases (canvas.widget? id).bind Handle.textSurface <;> rfl

theorem widget?_showImage (image : Picture) : (canvas.showImage id image).2.widget? j =
    if j = id then (canvas.widget? j).map (·.withImage image) else canvas.widget? j := by
  refine Eq.trans ?_ (widget?_write Handle.imageSurface ({ · with image := some image })
    fun surface _ scene => (scene.setImage surface image).2)
  rw [showImage]
  cases (canvas.widget? id).bind Handle.imageSurface <;> rfl

/-- A widget on which the content of a slot is shown, and no other, has that content. -/
theorem widget?_showContent (slot : Slot) : (canvas.showContent id slot).widget? j =
    if j = id then (canvas.widget? j).map (·.withContent slot) else canvas.widget? j := by
  rw [showContent]
  by_cases hj : j = id
  · subst hj
    cases htext : slot.text <;> cases himage : slot.image <;>
      simp only [widget?_showText, widget?_showImage, Handle.withContent, htext, himage, if_true,
        Option.map_map, Option.map_id']
    rfl
  · cases slot.text <;> cases slot.image <;>
      simp only [widget?_showText, widget?_showImage, hj, if_false]

theorem showText_fst (text : String) : (canvas.showText id text).1 =
    ((canvas.widget? id).bind Handle.textSurface).isSome := by
  rw [showText]
  cases (canvas.widget? id).bind Handle.textSurface <;> rfl

/-- What is done to one widget after the other, and makes no difference when done again, is done to
those that are listed. -/
theorem widget?_foldl {f : Canvas → WidgetId → Canvas} {g : Handle → Handle}
    (hf : ∀ (canvas : Canvas) (id j : WidgetId), (f canvas id).widget? j =
      if j = id then (canvas.widget? j).map g else canvas.widget? j)
    (hg : ∀ h, g (g h) = g h) (ids : List WidgetId) (canvas : Canvas) (j : WidgetId) :
    (ids.foldl f canvas).widget? j =
      if j ∈ ids then (canvas.widget? j).map g else canvas.widget? j := by
  have htwice : ∀ old : Option Handle, (old.map g).map g = old.map g := fun old => by
    rw [Option.map_map]
    exact congrArg (old.map ·) (funext hg)
  induction ids generalizing canvas with
  | nil => rw [List.foldl_nil, if_neg List.not_mem_nil]
  | cons id ids ih =>
    rw [List.foldl_cons, ih, hf]
    by_cases hfirst : j = id
    · have hmem : j ∈ id :: ids := hfirst ▸ List.mem_cons_self
      rw [if_pos hfirst, if_pos hmem, htwice, ite_self]
    · simp only [List.mem_cons, hfirst, false_or, if_false]

/-- The canvas with a text shown on some widgets. -/
def showTextOn (canvas : Canvas) (text : String) (ids : List WidgetId) : Canvas :=
  ids.foldl (fun canvas id => (canvas.showText id text).2) canvas

/-- The canvas with a picture shown on some widgets. -/
def showImageOn (canvas : Canvas) (image : Picture) (ids : List WidgetId) : Canvas :=
  ids.foldl (fun canvas id => (canvas.showImage id image).2) canvas

theorem widget?_showTextOn (text : String) (ids : List WidgetId) :
    (canvas.showTextOn text ids).widget? j =
      if j ∈ ids then (canvas.widget? j).map (·.withText text) else canvas.widget? j :=
  widget?_foldl (fun _ _ _ => widget?_showText text) (Handle.withText_withText · text) ids canvas j

theorem widget?_showImageOn (image : Picture) (ids : List WidgetId) :
    (canvas.showImageOn image ids).widget? j =
      if j ∈ ids then (canvas.widget? j).map (·.withImage image) else canvas.widget? j :=
  widget?_foldl (fun _ _ _ => widget?_showImage image) (Handle.withImage_withImage · image) ids
    canvas j

end Canvas

/-! ### Slots with other contents -/

/-- The slot with a text. -/
def Slot.say (slot : Slot) (text : String) : Slot :=
  { slot with kind := .text, text := some text, state := .loaded }

/-- The slot with one more request, of a number. -/
def Slot.ask (slot : Slot) (number : Nat) : Slot :=
  { slot with
    kind := .image, latestRequest := number, inFlight := slot.inFlight + 1, state := .loading }

/-- The slot after the outcome of one of its requests. -/
def Slot.resolve (slot : Slot) (outcome : ImageOutcome) : Slot :=
  let slot := { slot with inFlight := slot.inFlight - 1 }
  let slot :=
    match outcome.result with
    | .ok image => { slot with image := some image, source := some outcome.request.source }
    | .error _ => slot
  { slot with state := Slots.stateAfter slot }

@[simp] theorem Slot.bindings_resolve (slot : Slot) (outcome : ImageOutcome) :
    (slot.resolve outcome).bindings = slot.bindings := by
  rw [resolve]
  cases outcome.result <;> rfl

namespace Slots

variable {board : Slots} {canvas : Canvas} {index i : Nat} {slot : Slot} {outcome : ImageOutcome}
  {id : WidgetId}

/-- Outcomes are applied one after the other. -/
def applyAll (board : Slots) (canvas : Canvas) (outcomes : List ImageOutcome) : Slots × Canvas :=
  outcomes.foldl (fun state outcome => (applyOutcome state.1 state.2 outcome).value) (board, canvas)

theorem applyAll_displays (board : Slots) (canvas : Canvas) (outcomes : List ImageOutcome) :
    Canvas.Displays canvas (board.applyAll canvas outcomes).2 :=
  foldl_reflTransGen Prod.snd (fun state outcome => state.1.applyOutcome_displays state.2 outcome)
    outcomes (board, canvas)

/-- A poll applies all that has come, in its order. -/
theorem poll_value (board : Slots) (canvas : Canvas) : (board.poll canvas).value =
    (board.arrived.length, { board with arrived := [] }.applyAll canvas board.arrived) := by
  simp only [poll, Logged.bind_value, Logged.pure_value, Logged.foldlM_value]
  rfl

theorem applyOutcome_of_slot?_eq_none (hslot : board.slot? outcome.request.slot = none) :
    (board.applyOutcome canvas outcome).value =
      ({ board with inFlight := board.inFlight - 1 }, canvas) := by
  have hslot' : ({ board with inFlight := board.inFlight - 1 } : Slots).slot?
      outcome.request.slot = none := hslot
  simp only [applyOutcome, hslot', Logged.pure_value]

/-- The outcome is counted off, and a picture is shown on the widgets of the slot. -/
theorem applyOutcome_of_slot? (hslot : board.slot? outcome.request.slot = some slot) :
    (board.applyOutcome canvas outcome).value =
      ({ board with inFlight := board.inFlight - 1 }.modify outcome.request.slot
          fun _ => slot.resolve outcome,
        match outcome.result with
        | .ok image => canvas.showImageOn image slot.bindings
        | .error _ => canvas) := by
  have hslot' : ({ board with inFlight := board.inFlight - 1 } : Slots).slot?
      outcome.request.slot = some slot := hslot
  simp only [applyOutcome, hslot', Logged.bind_value, Slot.resolve]
  cases outcome.result <;> rfl

/-- An outcome is seen in the slot that it is for, and in no other. -/
theorem slot?_applyOutcome (board : Slots) (canvas : Canvas) (outcome : ImageOutcome) (i : Nat) :
    (board.applyOutcome canvas outcome).value.1.slot? i =
      if i = outcome.request.slot then (board.slot? i).map (·.resolve outcome)
      else board.slot? i := by
  cases hslot : board.slot? outcome.request.slot with
  | none =>
    rw [applyOutcome_of_slot?_eq_none hslot]
    split
    · next he => exact he ▸ hslot.trans (by rw [hslot, Option.map_none])
    · rfl
  | some slot =>
    rw [applyOutcome_of_slot? hslot, slot?_modify]
    split
    · next he =>
      subst he
      exact congrArg (Option.map _) (hslot : _ = some slot) |>.trans (by rw [hslot]; rfl)
    · rfl

/-- Besides, an outcome is counted off. -/
theorem applyOutcome_fst (board : Slots) (canvas : Canvas) (outcome : ImageOutcome) :
    ∃ slots : Array Slot, slots.size = board.size ∧
      (board.applyOutcome canvas outcome).value.1 =
        { board with slots, inFlight := board.inFlight - 1 } := by
  cases hslot : board.slot? outcome.request.slot with
  | none => exact ⟨board.slots, rfl, congrArg Prod.fst (applyOutcome_of_slot?_eq_none hslot)⟩
  | some slot =>
    exact ⟨_, Array.size_modify, congrArg Prod.fst (applyOutcome_of_slot? hslot)⟩

/-- A failure is seen nowhere but in the state and the counts of the slot. -/
theorem applyOutcome_of_error {e : FetchError} (herror : outcome.result = .error e) :
    (board.applyOutcome canvas outcome).value.2 = canvas ∧
      ∀ {i slot}, board.slot? i = some slot → ∃ state inFlight,
        (board.applyOutcome canvas outcome).value.1.slot? i =
          some { slot with state, inFlight } := by
  constructor
  · cases hslot : board.slot? outcome.request.slot with
    | none => rw [applyOutcome_of_slot?_eq_none hslot]
    | some slot => rw [applyOutcome_of_slot? hslot, herror]
  · intro i slot hslot
    rw [slot?_applyOutcome, hslot]
    split
    · rw [Option.map_some, Slot.resolve, herror]
      exact ⟨_, _, rfl⟩
    · exact ⟨_, _, rfl⟩

/-- An outcome is seen on widgets that are bound to its slot, and on no others. -/
theorem widget?_applyOutcome_of_not_mem
    (hid : ∀ slot, board.slot? outcome.request.slot = some slot → id ∉ slot.bindings) :
    (board.applyOutcome canvas outcome).value.2.widget? id = canvas.widget? id := by
  cases hslot : board.slot? outcome.request.slot with
  | none => rw [applyOutcome_of_slot?_eq_none hslot]
  | some slot =>
    rw [applyOutcome_of_slot? hslot]
    cases outcome.result with
    | error e => rfl
    | ok image => exact (Canvas.widget?_showImageOn image _).trans (if_neg (hid slot hslot))

/-! ### Texts and requests -/

theorem setText_of_slot?_eq_none (hslot : board.slot? index = none) (text : String) :
    (board.setText canvas index text).value = (0, board, canvas) := by
  rw [setText, Logged.bind_value, lookUp_value, hslot]
  rfl

/-- A text is shown on one widget after the other, and those are counted that have somewhere to
show it. -/
theorem foldl_showTextOn (text : String) (ids : List WidgetId) (count : Nat) (canvas : Canvas) :
    ids.foldl (fun state id => (showTextOn index text state id).value) (count, canvas) =
      (count + ids.countP fun id => ((canvas.widget? id).bind Handle.textSurface).isSome,
        canvas.showTextOn text ids) := by
  induction ids generalizing count canvas with
  | nil => rfl
  | cons id ids ih =>
    have hstep : (showTextOn index text (count, canvas) id).value =
        (count + if ((canvas.widget? id).bind Handle.textSurface).isSome then 1 else 0,
          (canvas.showText id text).2) := by
      rw [showTextOn, ← Canvas.showText_fst text]
      cases hid : canvas.widget? id with
      | none => simp only [Canvas.showText, hid, Option.bind_none]; rfl
      | some h =>
        simp only
        cases (canvas.showText id text).1 <;> rfl
    -- showing the text takes away no place for it
    have hsame : ∀ j, (((canvas.showText id text).2.widget? j).bind Handle.textSurface) =
        (canvas.widget? j).bind Handle.textSurface := by
      intro j
      rw [Canvas.widget?_showText]
      split
      · cases canvas.widget? j with
        | none => rfl
        | some h => exact h.textSurface_withText text
      · rfl
    rw [List.foldl_cons, hstep, ih, List.countP_cons, Nat.add_assoc, Nat.add_comm (List.countP ..)]
    simp only [hsame]
    rfl

/-- The text is shown on the widgets of the slot. -/
theorem setText_of_slot? (hslot : board.slot? index = some slot) (text : String) :
    (board.setText canvas index text).value =
      (slot.bindings.countP fun id => ((canvas.widget? id).bind Handle.textSurface).isSome,
        board.modify index (·.say text), canvas.showTextOn text slot.bindings) := by
  rw [setText, Logged.bind_value, lookUp_value, hslot]
  simp only [Logged.bind_value, Logged.pure_value, Logged.foldlM_value, foldl_showTextOn,
    Nat.zero_add]
  rfl

theorem request_of_slot?_eq_none (hslot : board.slot? index = none) (source : String)
    (kind : SourceKind) : (board.request index source kind).value = (none, board) := by
  rw [request, Logged.bind_value, lookUp_value, hslot]
  rfl

/-- The request is numbered, and held until it is fetched. -/
theorem request_of_slot? (hslot : board.slot? index = some slot) (source : String)
    (kind : SourceKind) : (board.request index source kind).value =
      (some (board.lastRequest + 1),
        { board.modify index (·.ask (board.lastRequest + 1)) with
          inFlight := board.inFlight + 1
          lastRequest := board.lastRequest + 1
          held := board.held ++ [⟨board.lastRequest + 1, index, source, kind⟩] }) := by
  rw [request, Logged.bind_value, lookUp_value, hslot]
  rfl

end Slots

end Uiml
