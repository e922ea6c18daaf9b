import Mathlib
import Uiml.Proofs.Number.Order

/-!
# Numbers on a line

All that are numbers, infinities among them, have a place on one line, and are compared by their
places. So comparisons of numbers are those of a linear order, and a number that is taken between
two bounds ends up between them, unless it is none: what is no number stays none.

## Main definitions

* `Single.place` — the place of a number on the line

## Main results

* `Single.lt_iff`, `Single.le_iff` — numbers are compared by their places
* `Single.within_clamp_iff`, `Single.isNaN_clamp` — what taking a number between bounds does
-/

namespace Uiml.Single

open Float.Model (UnpackedFloat)

/-- The place of a number on the line: what is below zero lies there as in a mirror. Above zero the
exponents count first, and then the mantissas. -/
def place : UnpackedFloat → ℤ ×ₗ ℤ ×ₗ ℤ
  | .infinity .negative => toLex (-2, toLex (0, 0))
  | .finite .negative mantissa exponent _ => toLex (-1, toLex (-exponent, -mantissa))
  | .zero _ | .notANumber => toLex (0, toLex (0, 0))
  | .finite .positive mantissa exponent _ => toLex (1, toLex (exponent, mantissa))
  | .infinity .positive => toLex (2, toLex (0, 0))

variable {f g : UnpackedFloat} {x y z lo hi : Float32} {m m' : ℕ} {e e' : ℤ}

theorem place_positive_lt_iff (hm : 0 < m) (hm' : 0 < m') :
    place (.finite .positive m e hm) < place (.finite .positive m' e' hm') ↔
      e < e' ∨ e = e' ∧ m < m' := by
  simp [place, Prod.Lex.toLex_lt_toLex]

theorem place_positive_le_iff (hm : 0 < m) (hm' : 0 < m') :
    place (.finite .positive m e hm) ≤ place (.finite .positive m' e' hm') ↔
      e < e' ∨ e = e' ∧ m ≤ m' := by
  simp [place, Prod.Lex.toLex_le_toLex]

theorem place_negative_lt_iff (hm : 0 < m) (hm' : 0 < m') :
    place (.finite .negative m e hm) < place (.finite .negative m' e' hm') ↔
      e' < e ∨ e' = e ∧ m' < m := by
  simp [place, Prod.Lex.toLex_lt_toLex, eq_comm]

/-- Nothing lies beyond infinity. -/
theorem place_le (f : UnpackedFloat) : place f ≤ place (.infinity .positive) := by
  cases f with
  | notANumber => decide
  | infinity s | zero s => cases s <;> decide
  | finite s => cases s <;> simp [place, Prod.Lex.toLex_le_toLex]

theorem compare_neg (m n : ℤ) : compare (-m) (-n) = (compare m n).swap := by
  rw [Int.compare_swap]
  simp [compare, compareOfLessAndEq, eq_comm]

theorem compare_natCast (m n : ℕ) : compare (m : ℤ) (n : ℤ) = compare m n := by
  rcases Nat.lt_trichotomy m n with h | rfl | h
  · rw [compare_lt_iff_lt.mpr h, compare_lt_iff_lt.mpr (Int.ofNat_lt.mpr h)]
  · rw [compare_eq_iff_eq.mpr rfl, compare_eq_iff_eq.mpr rfl]
  · rw [compare_gt_iff_gt.mpr h, compare_gt_iff_gt.mpr (Int.ofNat_lt.mpr h)]

/-- Two numbers are compared by their places. -/
theorem compare_eq_compare_place (hf : f.isNaN = false) (hg : g.isNaN = false) :
    f.compare g = some (compare (place f) (place g)) := by
  cases f with
  | notANumber => cases hf
  | infinity s =>
    cases g with
    | notANumber => cases hg
    | infinity s' => cases s <;> cases s' <;> rfl
    | zero => cases s <;> rfl
    | finite s' => cases s <;> cases s' <;> rfl
  | zero =>
    cases g with
    | notANumber => cases hg
    | zero => rfl
    | infinity s' | finite s' => cases s' <;> rfl
  | finite s m e =>
    cases g with
    | notANumber => cases hg
    | infinity s' => cases s <;> cases s' <;> rfl
    | zero => cases s <;> rfl
    | finite s' m' e' =>
      cases s <;> cases s'
      case positive.positive =>
        change some ((compare e e').then (compare m m')) =
          some ((compare e e').then (compare (m : ℤ) m'))
        rw [compare_natCast]
      case negative.negative =>
        -- below zero all comparisons are turned around
        change some ((compare e e').then (compare m m')).swap =
          some ((compare (-e) (-e')).then (compare (-m : ℤ) (-m')))
        rw [compare_neg, compare_neg, compare_natCast, Ordering.swap_then]
      case negative.positive => rfl
      case positive.negative => rfl

protected theorem lt_iff (hx : x.isNaN = false) (hy : y.isNaN = false) :
    x < y ↔ place x.toModel.unpack < place y.toModel.unpack := by
  have hlt : x < y ↔ (x.toModel.unpack.compare y.toModel.unpack == some .lt) = true :=
    ⟨of_decide_eq_true, decide_eq_true⟩
  rw [hlt, compare_eq_compare_place hx hy, beq_iff_eq, Option.some_inj]
  exact compare_lt_iff_lt

protected theorem le_iff (hx : x.isNaN = false) (hy : y.isNaN = false) :
    x ≤ y ↔ place x.toModel.unpack ≤ place y.toModel.unpack := by
  have hle : x ≤ y ↔ (x.toModel.unpack.compare y.toModel.unpack).any (·.isLE) = true :=
    ⟨of_decide_eq_true, decide_eq_true⟩
  rw [hle, compare_eq_compare_place hx hy, Option.any_some, Ordering.isLE_iff_ne_gt]
  exact compare_le_iff_le

/-- What is no number is in order with nothing. -/
theorem not_le_of_isNaN (h : x.isNaN = true ∨ y.isNaN = true) : ¬x ≤ y := by
  have hle : x ≤ y ↔ (x.toModel.unpack.compare y.toModel.unpack).any (·.isLE) = true :=
    ⟨of_decide_eq_true, decide_eq_true⟩
  rw [hle, (compare_eq_none_iff x.toModel.unpack y.toModel.unpack).mpr h]
  exact Bool.false_ne_true

theorem isNaN_of_le (h : x ≤ y) : x.isNaN = false ∧ y.isNaN = false := by
  rw [← Bool.not_eq_true, ← Bool.not_eq_true, ← not_or]
  exact fun hnone => not_le_of_isNaN hnone h

theorem isNaN_of_lt (h : x < y) : x.isNaN = false ∧ y.isNaN = false := by
  rw [← Bool.not_eq_true, ← Bool.not_eq_true, ← not_or]
  exact fun hnone => not_lt_of_isNaN hnone h

protected theorem le_refl (hx : x.isNaN = false) : x ≤ x := (Single.le_iff hx hx).mpr le_rfl

protected theorem lt_of_lt_of_le (h : x < y) (h' : y ≤ z) : x < z := by
  have hx := isNaN_of_lt h
  have hz := isNaN_of_le h'
  exact (Single.lt_iff hx.1 hz.2).mpr
    (((Single.lt_iff hx.1 hx.2).mp h).trans_le ((Single.le_iff hz.1 hz.2).mp h'))

protected theorem lt_of_le_of_lt (h : x ≤ y) (h' : y < z) : x < z := by
  have hx := isNaN_of_le h
  have hz := isNaN_of_lt h'
  exact (Single.lt_iff hx.1 hz.2).mpr
    (((Single.le_iff hx.1 hx.2).mp h).trans_lt ((Single.lt_iff hz.1 hz.2).mp h'))

protected theorem le_of_lt (h : x < y) : x ≤ y := by
  obtain ⟨hx, hy⟩ := isNaN_of_lt h
  exact (Single.le_iff hx hy).mpr ((Single.lt_iff hx hy).mp h).le

/-- Of two numbers, the one is less or the other is not greater. -/
theorem not_lt_iff (hx : x.isNaN = false) (hy : y.isNaN = false) : ¬x < y ↔ y ≤ x := by
  rw [Single.lt_iff hx hy, Single.le_iff hy hx, not_lt]

/-! ### Between bounds -/

/-- A number lies between two bounds. -/
def Within (lo hi x : Float32) : Prop := lo ≤ x ∧ x ≤ hi

instance (lo hi x : Float32) : Decidable (Within lo hi x) := inferInstanceAs (Decidable (_ ∧ _))

theorem Within.isNaN_eq (h : Within lo hi x) : x.isNaN = false := (isNaN_of_le h.1).2

theorem clamp_of_isNaN (h : x.isNaN = true) : clamp lo hi x = x := by
  rw [clamp, if_neg (not_lt_of_isNaN (.inl h)), if_neg (not_lt_of_isNaN (.inr h))]

/-- A number that is taken between bounds is between them. -/
theorem within_clamp (hbounds : lo ≤ hi) (hx : x.isNaN = false) : Within lo hi (clamp lo hi x) := by
  obtain ⟨hlo, hhi⟩ := isNaN_of_le hbounds
  rw [clamp]
  split
  · exact ⟨Single.le_refl hlo, hbounds⟩
  · next habove =>
    split
    · exact ⟨hbounds, Single.le_refl hhi⟩
    · next hbelow => exact ⟨(not_lt_iff hx hlo).mp habove, (not_lt_iff hhi hx).mp hbelow⟩

/-- A number that is between the bounds is left as it is. -/
theorem clamp_of_within (h : Within lo hi x) : clamp lo hi x = x := by
  obtain ⟨hlo, hx⟩ := isNaN_of_le h.1
  have hhi := (isNaN_of_le h.2).2
  rw [clamp, if_neg ((not_lt_iff hx hlo).mpr h.1), if_neg ((not_lt_iff hhi hx).mpr h.2)]

/-- To be taken between bounds makes no number of what is none. -/
theorem isNaN_clamp (hbounds : lo ≤ hi) : (clamp lo hi x).isNaN = x.isNaN := by
  cases hx : x.isNaN with
  | true => rw [clamp_of_isNaN hx, hx]
  | false => exact (within_clamp hbounds hx).isNaN_eq

/-- What has been taken between bounds is between them just if it was a number. -/
theorem within_clamp_iff (hbounds : lo ≤ hi) :
    Within lo hi (clamp lo hi x) ↔ x.isNaN = false := by
  refine ⟨fun h => ?_, within_clamp hbounds⟩
  rw [← isNaN_clamp hbounds, h.isNaN_eq]

end Uiml.Single
