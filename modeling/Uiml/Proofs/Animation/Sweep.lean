import Uiml.Proofs.Animation.Punctual

/-!
# Picking out what is due in place

The steps that have come due can be picked out of the queue where they stand: the queue is scanned
once, and the last step comes into the place of one that is picked. That turns the queue around, and
the place that has just been filled is looked at again. No step is missed by it and none is picked
twice; and as the order in which steps come due is not that of the queue, nobody who asks the
animator can tell.

## Main definitions

* `swapRemove`, `sweep` — an element less, and all elements of one kind less
* `Animator.advanceInPlace` — the passing of time with a scan of the queue
* `Animator.results` — what the operations of a run bring, one after the other

## Main results

* `sweep_filter_perm` — the scan picks out the elements of the kind and leaves the others
* `Animator.Punctual.results_advanceInPlace` — a run brings the same from any order of the queue
-/

namespace Uiml

/-! ### The scan -/

section Sweep

open scoped List

variable {α : Type} {p : α → Bool} {xs : Array α} {i : ℕ} {taken : List α} {x : α}

/-- An array without the element at a position, which the last one comes into. -/
def swapRemove (xs : Array α) (i : ℕ) (h : i < xs.size) : Array α :=
  (xs.swap i (xs.size - 1)).pop

@[simp] theorem size_swapRemove (h : i < xs.size) : (swapRemove xs i h).size = xs.size - 1 := by
  simp [swapRemove]

/-- Nothing before the position is touched. -/
theorem getElem_swapRemove_of_lt (h : i < xs.size) {j : ℕ} (hj : j < (swapRemove xs i h).size)
    (hlt : j < i) : (swapRemove xs i h)[j] = xs[j] := by
  simp only [swapRemove, Array.getElem_pop]
  exact Array.getElem_swap_of_ne (by omega) (by omega)

/-- One element is gone, and no other. -/
theorem swapRemove_perm (h : i < xs.size) :
    (xs[i] :: (swapRemove xs i h).toList).Perm xs.toList := by
  let swapped := xs.swap i (xs.size - 1)
  have hne : swapped.toList ≠ [] := by
    intro hnil
    have hsize : xs.size = 0 := by simpa [swapped] using congrArg List.length hnil
    omega
  have hlast : swapped.toList.getLast hne = xs[i] := by
    simp [swapped, List.getLast_eq_getElem]
  have hsplit : (swapRemove xs i h).toList ++ [xs[i]] = swapped.toList := by
    rw [← hlast]
    exact List.dropLast_concat_getLast hne
  calc xs[i] :: (swapRemove xs i h).toList
    _ ~ (swapRemove xs i h).toList ++ [xs[i]] := (List.perm_append_singleton _ _).symm
    _ = swapped.toList := hsplit
    _ ~ xs.toList := (Array.swap_perm _ _).toList

/-- Takes the elements of a kind out of an array, from a position on. The position from which an
element has been taken holds another one, and is looked at again. -/
def sweep (p : α → Bool) (xs : Array α) (i : ℕ) (taken : List α) : List α × Array α :=
  if h : i < xs.size then
    if p xs[i] then sweep p (swapRemove xs i h) i (taken ++ [xs[i]])
    else sweep p xs (i + 1) taken
  else (taken, xs)
termination_by xs.size - i
decreasing_by
  · rw [size_swapRemove]
    omega
  · omega

/-- Nothing is lost and nothing is doubled. -/
theorem sweep_perm (p : α → Bool) (xs : Array α) (i : ℕ) (taken : List α) :
    ((sweep p xs i taken).1 ++ (sweep p xs i taken).2.toList).Perm (taken ++ xs.toList) := by
  induction xs, i, taken using sweep.induct (p := p) with
  | case1 xs i taken h hp ih =>
    rw [sweep, dif_pos h, if_pos hp]
    refine ih.trans ?_
    rw [List.append_assoc]
    exact (swapRemove_perm h).append_left taken
  | case2 xs i taken h hp ih =>
    rw [sweep, dif_pos h, if_neg hp]
    exact ih
  | case3 xs i taken h =>
    rw [sweep, dif_neg h]

/-- All that is taken is of the kind. -/
theorem of_mem_sweep_fst (htaken : ∀ x ∈ taken, p x = true) (hx : x ∈ (sweep p xs i taken).1) :
    p x = true := by
  induction xs, i, taken using sweep.induct (p := p) with
  | case1 xs i taken h hp ih =>
    rw [sweep, dif_pos h, if_pos hp] at hx
    refine ih ?_ hx
    intro y hy
    rcases List.mem_append.mp hy with hold | hnew
    · exact htaken y hold
    · rwa [List.mem_singleton.mp hnew]
  | case2 xs i taken h hp ih =>
    rw [sweep, dif_pos h, if_neg hp] at hx
    exact ih htaken hx
  | case3 xs i taken h =>
    rw [sweep, dif_neg h] at hx
    exact htaken x hx

/-- Nothing that is left is of the kind: what has been passed by is not, and stays where it is. -/
theorem of_mem_sweep_snd (hpassed : ∀ j (hj : j < xs.size), j < i → p xs[j] = false)
    (hx : x ∈ (sweep p xs i taken).2) : p x = false := by
  induction xs, i, taken using sweep.induct (p := p) with
  | case1 xs i taken h hp ih =>
    rw [sweep, dif_pos h, if_pos hp] at hx
    -- the last element comes to the position itself, hence not among those passed by
    refine ih ?_ hx
    intro j hj hlt
    rw [getElem_swapRemove_of_lt h hj hlt]
    exact hpassed j (by omega) hlt
  | case2 xs i taken h hp ih =>
    rw [sweep, dif_pos h, if_neg hp] at hx
    refine ih ?_ hx
    intro j hj hlt
    rcases Nat.lt_succ_iff_lt_or_eq.mp hlt with hbefore | rfl
    · exact hpassed j hj hbefore
    · exact Bool.eq_false_iff.mpr hp
  | case3 xs i taken h =>
    rw [sweep, dif_neg h] at hx
    obtain ⟨j, hj, rfl⟩ := Array.mem_iff_getElem.mp hx
    exact hpassed j hj (lt_of_lt_of_le hj (Nat.not_lt.mp h))

/-- If a list is made up of elements of a kind and others, the former are those that it has. -/
theorem perm_filter_of_append {picked left l : List α} (hperm : (picked ++ left).Perm l)
    (hpicked : ∀ x ∈ picked, p x = true) (hleft : ∀ x ∈ left, p x = false) :
    picked.Perm (l.filter p) := by
  have hsame : picked.filter p = picked := List.filter_eq_self.mpr hpicked
  have hnone : left.filter p = [] :=
    List.filter_eq_nil_iff.mpr fun x hx => Bool.eq_false_iff.mp (hleft x hx)
  have hfilter := hperm.filter p
  rwa [List.filter_append, hsame, hnone, List.append_nil] at hfilter

/-- The scan takes the elements of the kind, and leaves the others. -/
theorem sweep_filter_perm (p : α → Bool) (xs : Array α) :
    (sweep p xs 0 []).1.Perm (xs.toList.filter p) ∧
      (sweep p xs 0 []).2.toList.Perm (xs.toList.filter fun x => !p x) := by
  have hperm := sweep_perm p xs 0 []
  have hpicked : ∀ x ∈ (sweep p xs 0 []).1, p x = true := fun x =>
    of_mem_sweep_fst fun _ h => absurd h List.not_mem_nil
  have hleft : ∀ x ∈ (sweep p xs 0 []).2.toList, p x = false := fun x hx =>
    of_mem_sweep_snd (fun _ _ h => absurd h (Nat.not_lt_zero _)) (Array.mem_toList_iff.mp hx)
  refine ⟨perm_filter_of_append hperm hpicked hleft,
    perm_filter_of_append (List.perm_append_comm.trans hperm) ?_ ?_⟩
  · intro x hx
    rw [hleft x hx]
    rfl
  · intro x hx
    rw [hpicked x hx]
    rfl

end Sweep

/-! ### Time that passes in place -/

namespace Animator

/-- Lets time pass, picking the steps that come due out of the queue where they stand. -/
def advanceInPlace (a : Animator) (dt : Float32) : Advance × Animator :=
  let (advance, next) := a.advance dt
  let (ready, left) := sweep (fun timed => timed.due ≤ next.now + dueSlack) a.steps.toArray 0 []
  ({ advance with due := (ready.mergeSort TimedStep.isBefore).map TimedStep.step },
    { next with steps := left.toList })

/-- What an operation brings, if time passes in a given way: nothing unless time passes. -/
def outcome (pass : Animator → Float32 → Advance × Animator) (a : Animator) :
    Operation → Advance
  | .advance dt => (pass a dt).1
  | _ => ⟨[], []⟩

/-- What the operations of a run bring, one after the other, if time passes in a given way. -/
def results (pass : Animator → Float32 → Advance × Animator) (a : Animator) :
    List Operation → List Advance
  | [] => []
  | operation :: operations =>
    a.outcome pass operation :: (a.afterBy pass operation).results pass operations

/-- An animator with its queue in some other order. -/
structure Reordered (a b : Animator) : Prop where
  same : b = { a with steps := b.steps }
  steps : a.steps.Perm b.steps

variable {a b : Animator}

theorem Reordered.of_perm {steps : List TimedStep} (h : a.steps.Perm steps) :
    Reordered a { a with steps } := ⟨rfl, h⟩

/-- The scan picks out the steps that come due, which have but one order. -/
theorem Punctual.advanceInPlace (ha : a.Punctual) (h : Reordered a b) (dt : Float32) :
    (b.advanceInPlace dt).1 = (a.advance dt).1 ∧
      Reordered (a.advance dt).2 (b.advanceInPlace dt).2 := by
  obtain ⟨hsame, hsteps⟩ := h
  generalize b.steps = steps at hsame hsteps
  subst hsame
  -- what is picked out of the one queue is picked out of the other, in some order
  obtain ⟨hready, hleft⟩ := sweep_filter_perm
    (fun timed => timed.due ≤ (a.advance dt).2.now + dueSlack) steps.toArray
  have hdistinct := ha.steps.sublist (List.filter_sublist (l := a.steps)
    (p := fun timed => timed.due ≤ (a.advance dt).2.now + dueSlack))
  constructor
  · have horder := hdistinct.mergeSort_perm ((hsteps.filter _).trans hready.symm)
    exact congrArg (fun ready => (⟨(a.advance dt).1.updates, ready⟩ : Advance))
      (congrArg (List.map TimedStep.step) horder)
  · exact .of_perm ((hsteps.filter _).trans hleft.symm)

/-- Operations do not look at the order of the queue: they put a step at its end, or let some of its
steps go. -/
theorem Punctual.afterBy (ha : a.Punctual) (h : Reordered a b) (operation : Operation) :
    Reordered (a.after operation) (b.afterBy Animator.advanceInPlace operation) := by
  -- only the passing of time needs the invariant
  have hadvance := fun dt => (ha.advanceInPlace h dt).2
  obtain ⟨hsame, hsteps⟩ := h
  generalize b.steps = steps at hsame hsteps
  subst hsame
  cases operation with
  | advance dt => exact hadvance dt
  | schedule | beginBounce => exact .of_perm (hsteps.append_right _)
  | start =>
    simp only [Animator.after, Animator.afterBy, start]
    split <;> exact .of_perm hsteps
  | settleBounce widget =>
    simp only [Animator.after, Animator.afterBy, settleBounce]
    cases a.bounces.get? widget <;> exact .of_perm hsteps
  | cancel => exact .of_perm hsteps
  | cancelWidget => exact .of_perm (hsteps.filter _)
  | clear => exact .of_perm (.refl [])

/-- A run brings the same in place, from whatever order the queue is in. -/
theorem Punctual.results_advanceInPlace (ha : a.Punctual) (h : Reordered a b)
    (operations : List Operation) :
    b.results Animator.advanceInPlace operations = a.results Animator.advance operations := by
  induction operations generalizing a b with
  | nil => rfl
  | cons operation operations ih =>
    refine congrArg₂ List.cons ?_ (ih (ha.after operation) (ha.afterBy h operation))
    cases operation with
    | advance dt => exact (ha.advanceInPlace h dt).1
    | _ => rfl

end Animator

end Uiml
