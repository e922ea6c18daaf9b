import Mathlib.Data.Set.List
import Uiml.Proofs.Animation.Sweep

/-!
# What becomes of steps that are queued

An animator is asked for one thing after the other, and a step that is queued on the way comes due
once: with the first span of time after which its time has come, unless its widget is cancelled or
everything is cleared before that. What is queued at a point of a run is known from the operations
before it, and so is what each of them returns.

## Main definitions

* `Animator.stateAt` — the animator at a point of a run
* `Animator.bookedAt?`, `Animator.returnedAt` — the step that an operation of a run queues, and
  those that it returns
* `Animator.Delivered` — the step queued at one point of a run comes due at another

## Main results

* `Animator.mem_steps_stateAt` — what is in the queue has been put there, and nothing that has
  happened since has taken it out
* `Animator.delivers` — every operation returns the steps that come due with it, in order, and the
  order of the queue has no say in it
-/

namespace Uiml.Animator

variable {operations : List Operation} {i j k : ℕ} {timed other : TimedStep}

/-- The animator after the first operations of a run. -/
def stateAt (operations : List Operation) (k : ℕ) : Animator := (operations.take k).foldl after {}

/-- The step that an operation of a run queues, and when it is due. -/
def bookedAt? (operations : List Operation) (i : ℕ) : Option TimedStep :=
  operations[i]?.bind (stateAt operations i).booked?

/-- Whether the time of a step has come when an operation of a run has let time pass. -/
def comesDueAt (operations : List Operation) (timed : TimedStep) (k : ℕ) : Bool :=
  operations[k]?.any (timed.comesDueBy (stateAt operations (k + 1)).now)

/-- Whether an operation of a run takes a step back. -/
def isTakenBackAt (operations : List Operation) (timed : TimedStep) (k : ℕ) : Bool :=
  operations[k]?.any timed.isTakenBackBy

/-- The steps that an operation of a run returns. -/
def returnedAt (operations : List Operation) (k : ℕ) : List Step :=
  match operations[k]? with
  | some operation => ((stateAt operations k).outcome advance operation).due
  | none => []

/-- From where a step is queued in a run up to another point, nothing makes it due and nothing takes
it back. -/
def IsKept (operations : List Operation) (timed : TimedStep) (i k : ℕ) : Prop :=
  ∀ j, i < j → j < k →
    comesDueAt operations timed j = false ∧ isTakenBackAt operations timed j = false

/-- The step that is queued at one point of a run comes due at another. -/
def Delivered (operations : List Operation) (i k : ℕ) : Prop :=
  ∃ timed, bookedAt? operations i = some timed ∧ i < k ∧ IsKept operations timed i k ∧
    comesDueAt operations timed k = true

/-- Of the steps queued at two points of a run, the one is due before the other, or at the same time
and was queued before it. -/
def Precedes (operations : List Operation) (i j : ℕ) : Prop :=
  ∃ timed ∈ bookedAt? operations i, ∃ other ∈ bookedAt? operations j,
    timed.due ≤ other.due ∧ (other.due ≤ timed.due → i < j)

theorem Precedes.irrefl (h : Precedes operations i i) : False := by
  obtain ⟨timed, htimed, other, hother, hle, hlt⟩ := h
  obtain rfl : timed = other := Option.some_inj.mp (htimed.symm.trans hother)
  exact absurd (hlt hle) (lt_irrefl i)

/-! ### The points of a run -/

theorem stateAt_succ {operation : Operation} (h : operations[k]? = some operation) :
    stateAt operations (k + 1) = (stateAt operations k).after operation := by
  rw [stateAt, List.take_add_one, h, List.foldl_append]
  rfl

theorem stateAt_succ_of_none (h : operations[k]? = none) :
    stateAt operations (k + 1) = stateAt operations k := by
  rw [stateAt, List.take_add_one, h, Option.toList_none, List.append_nil, stateAt]

theorem punctual_stateAt (operations : List Operation) (k : ℕ) :
    (stateAt operations k).Punctual := by
  induction k with
  | zero => exact .initial
  | succ k ih =>
    cases hoperation : operations[k]? with
    | none => rwa [stateAt_succ_of_none hoperation]
    | some operation =>
      rw [stateAt_succ hoperation]
      exact ih.after operation

theorem bookedAt?_eq {operation : Operation} (h : operations[k]? = some operation) :
    bookedAt? operations k = (stateAt operations k).booked? operation := by
  rw [bookedAt?, h, Option.bind_some]

theorem scheduled_stateAt_succ (operations : List Operation) (k : ℕ) :
    (stateAt operations (k + 1)).scheduled =
      (stateAt operations k).scheduled + (bookedAt? operations k).toList.length := by
  cases hoperation : operations[k]? with
  | none => rw [stateAt_succ_of_none hoperation, bookedAt?, hoperation]; rfl
  | some operation => rw [stateAt_succ hoperation, scheduled_after, bookedAt?_eq hoperation]

theorem scheduled_stateAt_mono (operations : List Operation) :
    Monotone fun k => (stateAt operations k).scheduled :=
  monotone_nat_of_le_succ fun k => by
    rw [scheduled_stateAt_succ]
    exact Nat.le_add_right _ _

theorem number_of_bookedAt? (h : bookedAt? operations i = some timed) :
    timed.number = (stateAt operations i).scheduled + 1 := by
  obtain ⟨operation, -, hbooked⟩ := Option.bind_eq_some_iff.mp h
  exact number_of_booked? hbooked

/-- Steps that are queued later have greater numbers. -/
theorem number_lt_number (hi : bookedAt? operations i = some timed)
    (hj : bookedAt? operations j = some other) (h : i < j) : timed.number < other.number := by
  have hnext := scheduled_stateAt_succ operations i
  rw [hi] at hnext
  have hmono : (stateAt operations (i + 1)).scheduled ≤ (stateAt operations j).scheduled :=
    scheduled_stateAt_mono operations h
  rw [number_of_bookedAt? hi, number_of_bookedAt? hj]
  exact Nat.lt_succ_of_le (hnext.symm.trans_le hmono)

theorem lt_of_number_lt (hi : bookedAt? operations i = some timed)
    (hj : bookedAt? operations j = some other) (h : timed.number < other.number) : i < j := by
  rcases lt_trichotomy i j with hlt | rfl | hgt
  · exact hlt
  · cases hi.symm.trans hj
    exact absurd h (lt_irrefl _)
  · exact absurd h (number_lt_number hj hi hgt).asymm

/-- No step is queued twice. -/
theorem bookedAt?_injective (hi : bookedAt? operations i = some timed)
    (hj : bookedAt? operations j = some timed) : i = j := by
  rcases lt_trichotomy i j with hlt | heq | hgt
  · exact absurd (number_lt_number hi hj hlt) (lt_irrefl _)
  · exact heq
  · exact absurd (number_lt_number hj hi hgt) (lt_irrefl _)

/-! ### The queue and its history -/

/-- What an operation of a run leaves in the queue. -/
theorem mem_steps_stateAt_succ :
    timed ∈ (stateAt operations (k + 1)).steps ↔
      bookedAt? operations k = some timed ∨
        timed ∈ (stateAt operations k).steps ∧ comesDueAt operations timed k = false ∧
          isTakenBackAt operations timed k = false := by
  cases hoperation : operations[k]? with
  | none =>
    simp [stateAt_succ_of_none hoperation, bookedAt?, comesDueAt, isTakenBackAt, hoperation]
  | some operation =>
    simp [bookedAt?_eq hoperation, comesDueAt, isTakenBackAt, hoperation, stateAt_succ hoperation,
      steps_after, or_comm]

/-- What lies between two points of a run lies before the last one, or is the last one. -/
theorem forall_between_succ {p : ℕ → Prop} (h : i < k) :
    (∀ j, i < j → j < k + 1 → p j) ↔ (∀ j, i < j → j < k → p j) ∧ p k := by
  constructor
  · intro hall
    exact ⟨fun j hij hjk => hall j hij (Nat.lt_succ_of_lt hjk), hall k h (Nat.lt_succ_self k)⟩
  · rintro ⟨hbefore, hlast⟩ j hij hjk
    rcases Nat.lt_succ_iff_lt_or_eq.mp hjk with hlt | rfl
    · exact hbefore j hij hlt
    · exact hlast

theorem isKept_succ (h : i < k) :
    IsKept operations timed i (k + 1) ↔
      IsKept operations timed i k ∧ comesDueAt operations timed k = false ∧
        isTakenBackAt operations timed k = false :=
  forall_between_succ h

/-- What is in the queue has been put there, and nothing that has happened since has taken it
out. -/
theorem mem_steps_stateAt (k : ℕ) :
    timed ∈ (stateAt operations k).steps ↔
      ∃ i < k, bookedAt? operations i = some timed ∧ IsKept operations timed i k := by
  induction k with
  | zero =>
    constructor
    · exact nofun
    · rintro ⟨i, hi, -⟩
      exact absurd hi (Nat.not_lt_zero i)
  | succ k ih =>
    rw [mem_steps_stateAt_succ, ih]
    constructor
    · rintro (hbooked | ⟨⟨i, hi, hbooked, hkept⟩, hlast⟩)
      -- nothing has happened yet to a step that has just been queued
      · exact ⟨k, Nat.lt_succ_self k, hbooked, fun j hkj hjk => by omega⟩
      · exact ⟨i, Nat.lt_succ_of_lt hi, hbooked, (isKept_succ hi).mpr ⟨hkept, hlast⟩⟩
    · rintro ⟨i, hi, hbooked, hkept⟩
      rcases Nat.lt_succ_iff_lt_or_eq.mp hi with hlt | rfl
      · obtain ⟨hkept, hlast⟩ := (isKept_succ hlt).mp hkept
        exact .inr ⟨⟨i, hlt, hbooked, hkept⟩, hlast⟩
      · exact .inl hbooked

/-! ### Deliveries -/

/-- No step comes due twice: the first time takes it out of the queue. -/
theorem Delivered.unique {k' : ℕ} (h : Delivered operations i k) (h' : Delivered operations i k') :
    k = k' := by
  obtain ⟨timed, hbooked, hlt, hkept, hdue⟩ := h
  obtain ⟨timed', hbooked', hlt', hkept', hdue'⟩ := h'
  obtain rfl : timed = timed' := Option.some_inj.mp (hbooked.symm.trans hbooked')
  rcases lt_trichotomy k k' with hbefore | heq | hafter
  · exact absurd hdue (Bool.eq_false_iff.mp (hkept' k hlt hbefore).1)
  · exact heq
  · exact absurd hdue' (Bool.eq_false_iff.mp (hkept k' hlt' hafter).1)

/-- The steps that come due with an operation of a run, in order. -/
def readyAt (operations : List Operation) (k : ℕ) : List TimedStep :=
  ((stateAt operations k).steps.filter (comesDueAt operations · k)).mergeSort TimedStep.isBefore

theorem returnedAt_eq (operations : List Operation) (k : ℕ) :
    returnedAt operations k = (readyAt operations k).map TimedStep.step := by
  -- nothing comes due unless time passes
  have hnone (h : ∀ timed, comesDueAt operations timed k = false) : readyAt operations k = [] := by
    rw [readyAt, List.filter_eq_nil_iff.mpr fun timed _ => Bool.eq_false_iff.mp (h timed),
      List.mergeSort_nil]
  cases hoperation : operations[k]? with
  | none =>
    rw [returnedAt, hnone fun timed => by rw [comesDueAt, hoperation]; rfl, hoperation]
    rfl
  | some operation =>
    cases operation with
    | advance dt =>
      simp only [returnedAt, readyAt, hoperation, comesDueAt, stateAt_succ hoperation,
        Option.any_some]
      rfl
    | _ =>
      rw [returnedAt, hnone fun timed => by rw [comesDueAt, hoperation]; rfl, hoperation]
      rfl

theorem mem_readyAt (k : ℕ) :
    timed ∈ readyAt operations k ↔
      ∃ i, bookedAt? operations i = some timed ∧ Delivered operations i k := by
  rw [readyAt, List.mem_mergeSort, List.mem_filter, mem_steps_stateAt]
  constructor
  · rintro ⟨⟨i, hi, hbooked, hkept⟩, hdue⟩
    exact ⟨i, hbooked, timed, hbooked, hi, hkept, hdue⟩
  · rintro ⟨i, hbooked, timed', hbooked', hi, hkept, hdue⟩
    obtain rfl : timed = timed' := Option.some_inj.mp (hbooked.symm.trans hbooked')
    exact ⟨⟨i, hi, hbooked, hkept⟩, hdue⟩

theorem pairwise_readyAt (operations : List Operation) (k : ℕ) :
    (readyAt operations k).Pairwise fun t u =>
      t.due ≤ u.due ∧ (u.due ≤ t.due → t.number < u.number) :=
  ((punctual_stateAt operations k).steps.sublist List.filter_sublist).pairwise

/-- Every operation of a run returns the steps that come due with it, in the order of their times,
and where these are the same in that in which they were queued. -/
theorem exists_order (operations : List Operation) (k : ℕ) :
    ∃ order : List ℕ,
      (∀ i, i ∈ order ↔ Delivered operations i k) ∧
      order.Pairwise (Precedes operations) ∧
      returnedAt operations k =
        order.filterMap fun i => (bookedAt? operations i).map TimedStep.step := by
  -- each of the steps is known by where it was queued
  have hbooked : (readyAt operations k).map some ∈
      Set.range (List.map (bookedAt? operations)) := by
    rw [Set.range_list_map]
    intro booked hmem
    obtain ⟨timed, htimed, rfl⟩ := List.mem_map.mp hmem
    obtain ⟨i, hi, -⟩ := (mem_readyAt k).mp htimed
    exact ⟨i, hi⟩
  obtain ⟨order, horder⟩ := hbooked
  refine ⟨order, fun i => ⟨fun hi => ?_, fun hi => ?_⟩, ?_, ?_⟩
  · have hmem : bookedAt? operations i ∈ (readyAt operations k).map some :=
      horder ▸ List.mem_map_of_mem hi
    obtain ⟨timed, htimed, hsome⟩ := List.mem_map.mp hmem
    obtain ⟨j, hj, hdelivered⟩ := (mem_readyAt k).mp htimed
    exact bookedAt?_injective hj hsome.symm ▸ hdelivered
  · obtain ⟨timed, hsome, -⟩ := id hi
    have hmem : some timed ∈ order.map (bookedAt? operations) := by
      rw [horder]
      exact List.mem_map_of_mem ((mem_readyAt k).mpr ⟨i, hsome, hi⟩)
    obtain ⟨j, hj, hsome'⟩ := List.mem_map.mp hmem
    exact bookedAt?_injective hsome hsome' ▸ hj
  · have hsorted : ((readyAt operations k).map some).Pairwise fun x y =>
        ∃ t ∈ x, ∃ u ∈ y, t.due ≤ u.due ∧ (u.due ≤ t.due → t.number < u.number) :=
      List.pairwise_map.mpr ((pairwise_readyAt operations k).imp fun h => ⟨_, rfl, _, rfl, h⟩)
    rw [← horder, List.pairwise_map] at hsorted
    refine hsorted.imp ?_
    rintro i j ⟨t, ht, u, hu, hdue, hnumber⟩
    exact ⟨t, ht, u, hu, hdue, fun hle => lt_of_number_lt ht hu (hnumber hle)⟩
  · have hmap : order.filterMap (fun i => (bookedAt? operations i).map TimedStep.step) =
        (order.map (bookedAt? operations)).filterMap (Option.map TimedStep.step) :=
      by rw [List.filterMap_map]; rfl
    rw [hmap, horder, List.filterMap_map, returnedAt_eq, ← List.filterMap_eq_map]
    rfl

/-! ### Runs -/

theorem getElem?_results (a : Animator) (operations : List Operation) (k : ℕ) :
    (a.results advance operations)[k]? =
      operations[k]?.map (((operations.take k).foldl after a).outcome advance) := by
  induction operations generalizing a k with
  | nil => rfl
  | cons operation operations ih =>
    cases k with
    | zero => rfl
    | succ k => exact ih (a.after operation) k

/-- What the operations of a run return, one after the other. -/
theorem due_results (operations : List Operation) :
    (({} : Animator).results advance operations).map Advance.due =
      (List.range operations.length).map (returnedAt operations) := by
  refine List.ext_getElem? fun k => ?_
  rw [List.getElem?_map, List.getElem?_map, getElem?_results]
  cases hoperation : operations[k]? with
  | none =>
    have hlength := List.getElem?_eq_none_iff.mp hoperation
    rw [List.getElem?_eq_none (List.length_range.trans_le hlength)]
    rfl
  | some operation =>
    obtain ⟨hk, -⟩ := List.getElem?_eq_some_iff.mp hoperation
    rw [List.getElem?_range hk, Option.map_some, Option.map_some, Option.map_some, returnedAt,
      hoperation]
    rfl

/-- Every operation of a run returns the steps that come due with it: each is there once, and none
is returned at another time. They come in the order of their times, and where these are the same in
that in which they were queued. If the steps are picked out of the queue in place, the same is
returned, and so it is if at any time the queue is put in another order. -/
theorem delivers (operations : List Operation) :
    (∀ k, ∃ order : List ℕ,
      order.Nodup ∧ (∀ i, i ∈ order ↔ Delivered operations i k) ∧
      order.Pairwise (Precedes operations) ∧
      returnedAt operations k =
        order.filterMap fun i => (bookedAt? operations i).map TimedStep.step) ∧
    (∀ i k k', Delivered operations i k → Delivered operations i k' → k = k') ∧
    (({} : Animator).results advanceInPlace operations).map Advance.due =
      (List.range operations.length).map (returnedAt operations) ∧
    ∀ k queue, (stateAt operations k).steps.Perm queue → ∀ more,
      ({ stateAt operations k with steps := queue } : Animator).results advanceInPlace more =
        (stateAt operations k).results advance more := by
  refine ⟨fun k => ?_, fun i k k' => Delivered.unique, ?_, fun k queue hperm more => ?_⟩
  · obtain ⟨order, hmem, hsorted, hreturned⟩ := exists_order operations k
    refine ⟨order, hsorted.imp ?_, hmem, hsorted, hreturned⟩
    rintro i j hprecedes rfl
    exact hprecedes.irrefl
  · rw [← due_results]
    exact congrArg _ (Punctual.initial.results_advanceInPlace (.of_perm (.refl [])) operations)
  · exact (punctual_stateAt operations k).results_advanceInPlace (.of_perm hperm) more

-- a delay that is no number is none, and neither is a negative span of time; what a widget was to
-- do is forgotten with it
example :
    let operations : List Operation :=
      [.schedule 0.5 (.command "door" "show" []), .schedule (.ofBits 0x7FC00000) (.settle ⟨7⟩ 1),
        .beginBounce ⟨3⟩ ⟨1, 1, 1⟩ 0.25, .cancelWidget ⟨3⟩, .advance (-1), .advance 0.5, .advance 1]
    (List.range 7).map (returnedAt operations) =
      [[], [], [], [], [.settle ⟨7⟩ 1], [.command "door" "show" []], []] := by
  decide +kernel

end Uiml.Animator
