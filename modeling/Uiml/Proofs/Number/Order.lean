import Uiml.Number.Single

/-!
# The order of numbers

Two numbers can be compared unless one of them is none: then each comparison is false, also that of
a number with itself.

## Main results

* `Single.not_le_iff` — two numbers neither of which is the greater fail to be in order just if one
  of them is none
-/

namespace Uiml.Single

open Float.Model (UnpackedFloat)

/-- Comparing the other way round turns the answer around. -/
theorem compare_swap (a b : UnpackedFloat) :
    b.compare a = (a.compare b).map Ordering.swap := by
  cases a with
  | notANumber => cases b <;> rfl
  | infinity s =>
    cases b with
    | infinity s' => cases s <;> cases s' <;> rfl
    | notANumber => cases s <;> rfl
    | zero s' => cases s <;> rfl
    | finite s' m e h => cases s <;> cases s' <;> rfl
  | zero s =>
    cases b with
    | infinity s' => cases s' <;> rfl
    | notANumber => rfl
    | zero s' => rfl
    | finite s' m e h => cases s' <;> rfl
  | finite s m e h =>
    cases b with
    | infinity s' => cases s' <;> cases s <;> rfl
    | notANumber => cases s <;> rfl
    | zero s' => cases s <;> rfl
    | finite s' m' e' h' =>
      -- exponents are compared first, then mantissas; below zero the answer is turned around
      have hswap : (compare e' e).then (compare m' m) =
          ((compare e e').then (compare m m')).swap := by
        rw [Ordering.swap_then, Int.compare_swap, Nat.compare_swap]
      cases s <;> cases s'
      case positive.positive => exact congrArg some hswap
      case negative.negative => exact congrArg (fun order => some order.swap) hswap
      case positive.negative => rfl
      case negative.positive => rfl

/-- Two numbers that are numbers can be compared. -/
theorem isSome_compare {a b : UnpackedFloat} (ha : a.isNaN = false) (hb : b.isNaN = false) :
    (a.compare b).isSome = true := by
  cases a with
  | notANumber => cases ha
  | infinity s =>
    cases b with
    | notANumber => cases hb
    | infinity | zero | finite => cases s <;> rfl
  | zero s =>
    cases b with
    | notANumber => cases hb
    | infinity s' => cases s' <;> rfl
    | zero => rfl
    | finite s' => cases s' <;> rfl
  | finite s =>
    cases b with
    | notANumber => cases hb
    | infinity s' => cases s <;> cases s' <;> rfl
    | zero => cases s <;> rfl
    | finite s' => cases s <;> cases s' <;> rfl

/-- What is no number cannot be compared. -/
theorem compare_of_isNaN {a b : UnpackedFloat} (h : a.isNaN = true ∨ b.isNaN = true) :
    a.compare b = none := by
  rcases h with ha | hb
  · cases a with
    | notANumber => cases b <;> rfl
    | infinity | zero | finite => cases ha
  · cases b with
    | notANumber => cases a <;> rfl
    | infinity | zero | finite => cases hb

/-- There is no answer just if one of the two is no number. -/
theorem compare_eq_none_iff (a b : UnpackedFloat) :
    a.compare b = none ↔ a.isNaN = true ∨ b.isNaN = true := by
  refine ⟨fun hnone => ?_, compare_of_isNaN⟩
  cases ha : a.isNaN with
  | true => exact .inl rfl
  | false =>
    cases hb : b.isNaN with
    | true => exact .inr rfl
    | false =>
      have hsome := isSome_compare ha hb
      rw [hnone] at hsome
      cases hsome

/-- If the second of two numbers is not less than the first, they are in order unless one of them is
none. -/
theorem not_le_iff {x y : Float32} (h : ¬y < x) :
    ¬x ≤ y ↔ x.isNaN = true ∨ y.isNaN = true := by
  have hle : x ≤ y ↔ (x.toModel.unpack.compare y.toModel.unpack).any (·.isLE) = true :=
    ⟨of_decide_eq_true, decide_eq_true⟩
  have hlt : y < x ↔ (y.toModel.unpack.compare x.toModel.unpack == some .lt) = true :=
    ⟨of_decide_eq_true, decide_eq_true⟩
  have hnone := compare_eq_none_iff x.toModel.unpack y.toModel.unpack
  rw [hlt, compare_swap x.toModel.unpack] at h
  -- with `none` and `lt` excluded one way round, only `lt` and `eq` are left the other way
  rw [hle, show x.isNaN = x.toModel.unpack.isNaN from rfl,
    show y.isNaN = y.toModel.unpack.isNaN from rfl, ← hnone]
  cases horder : x.toModel.unpack.compare y.toModel.unpack with
  | none => simp
  | some order =>
    rw [horder] at h
    cases order with
    | lt => simp
    | eq => simp
    | gt => exact absurd rfl h

/-- What is no number is less than nothing, and nothing is less than it. -/
theorem not_lt_of_isNaN {x y : Float32} (h : x.isNaN = true ∨ y.isNaN = true) : ¬x < y := by
  have hlt : x < y ↔ (x.toModel.unpack.compare y.toModel.unpack == some .lt) = true :=
    ⟨of_decide_eq_true, decide_eq_true⟩
  rw [hlt, (compare_eq_none_iff x.toModel.unpack y.toModel.unpack).mpr h]
  exact nofun

end Uiml.Single
