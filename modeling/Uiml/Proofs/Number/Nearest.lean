import Uiml.Proofs.Number.Arithmetic

/-!
# The nearest number

Every finite number has an exact value, and lies on the line where that value does. What is worked
out with finite numbers has an exact result, and no number is nearer to it than the one to which it
is rounded, as long as there is room for its exponent. It follows that the greater of two exact
results is not rounded to the lesser number.

## Main definitions

* `Single.toRat` — the exact value of a finite number
* `Single.IsAccurate` — what is known of a value of which only the whole part is kept
* `Single.IsNearest` — no number is nearer to a value

## Main results

* `Single.toRat_le_iff` — finite numbers are in order as their exact values are
* `Single.isNearest_sub`, `Single.isNearest_div` — differences and quotients are rounded to the
  nearest number
* `Single.IsNearest.place_le` — rounding keeps the order
-/

namespace Uiml.Single

open Float.Model (UnpackedFloat Format totalExponent)
open Float.Model.UnpackedFloat (Accuracy ExtendedMantissa Sign roundWithAccuracy
  accuracyOfFraction)

variable {f g h : UnpackedFloat} {s s' : Sign} {m m' : ℕ} {e e' : ℤ} {x y z : ℚ}

/-! ### Exact values -/

/-- One, with a sign. -/
def unit : Sign → ℚ
  | .positive => 1
  | .negative => -1

/-- The exact value of a finite number. -/
def toRat : UnpackedFloat → ℚ
  | .finite s mantissa exponent _ => unit s * (mantissa * 2 ^ exponent)
  | .zero _ | .infinity _ | .notANumber => 0

theorem unit_mul_self (s : Sign) : unit s * unit s = 1 := by cases s <;> norm_num [unit]

theorem unit_ne_zero (s : Sign) : unit s ≠ 0 := by cases s <;> norm_num [unit]

theorem unit_neg (s : Sign) : unit (-s) = -unit s := by
  cases s
  case positive => rfl
  case negative => exact (neg_neg 1).symm

theorem abs_unit (s : Sign) : |unit s| = 1 := by cases s <;> norm_num [unit]

theorem unit_div (s s' : Sign) : unit (s / s') = unit s / unit s' := by
  have hquotient : unit (s / s') = unit s * unit s' := by
    cases s <;> cases s'
    case positive.positive => exact (one_mul 1).symm
    case positive.negative => exact (one_mul (-1)).symm
    case negative.positive => exact (mul_one (-1)).symm
    case negative.negative => exact (unit_mul_self .negative).symm
  rw [hquotient, eq_div_iff (unit_ne_zero s'), mul_assoc, unit_mul_self, mul_one]

theorem cast_apply (s : Sign) (n : ℤ) : ((s.apply n : ℤ) : ℚ) = unit s * n := by
  cases s <;> simp [Sign.apply, unit]

/-- Digits that are set to a lesser exponent stand for the same value. -/
theorem cast_mul_two_pow (m : ℕ) {e k : ℤ} (h : k ≤ e) :
    ((m * 2 ^ (e - k).toNat : ℕ) : ℚ) * 2 ^ k = m * 2 ^ e := by
  have hexponent : (((e - k).toNat : ℕ) : ℤ) + k = e := by omega
  rw [Nat.cast_mul, Nat.cast_pow, Nat.cast_ofNat, mul_assoc, ← zpow_natCast,
    ← zpow_add₀ two_ne_zero, hexponent]

theorem toRat_positive (hm : 0 < m) : toRat (.finite .positive m e hm) = m * 2 ^ e := one_mul _

theorem toRat_negative (hm : 0 < m) : toRat (.finite .negative m e hm) = -(m * 2 ^ e) :=
  neg_one_mul _

theorem mul_zpow_pos (hm : 0 < m) (e : ℤ) : (0 : ℚ) < m * 2 ^ e := by positivity

theorem mul_zpow_lt (hm : m < 2 ^ 24) (he : -149 ≤ e) (hm' : e' = -149 ∨ 2 ^ 23 ≤ m')
    (hlt : e < e' ∨ e = e' ∧ m < m') : (m : ℚ) * 2 ^ e < m' * 2 ^ e' := by
  rw [← cast_mul_two_pow m (min_le_left e e'), ← cast_mul_two_pow m' (min_le_right e e')]
  have haligned := aligned_lt hm he hm' hlt
  gcongr

/-- The greater of two numbers has the greater value. -/
theorem toRat_lt_of_place_lt (hf : IsNormal f) (hg : IsNormal g) (hff : f.isFinite = true)
    (hgf : g.isFinite = true) (hlt : place f < place g) : toRat f < toRat g := by
  cases f with
  | notANumber | infinity => cases hff
  | zero s =>
    cases g with
    | notANumber | infinity => cases hgf
    | zero => exact absurd hlt (lt_irrefl _)
    | finite s' m' e' hm' =>
      cases s' with
      | negative => simp [place, Prod.Lex.toLex_lt_toLex] at hlt
      | positive =>
        rw [toRat_positive]
        exact mul_zpow_pos hm' e'
  | finite s m e hm =>
    cases g with
    | notANumber | infinity => cases hgf
    | zero =>
      cases s with
      | positive => simp [place, Prod.Lex.toLex_lt_toLex] at hlt
      | negative =>
        rw [toRat_negative]
        exact neg_lt_zero.mpr (mul_zpow_pos hm e)
    | finite s' m' e' hm' =>
      obtain ⟨hlen, hleast, hdigits⟩ := hf
      obtain ⟨hlen', hleast', hdigits'⟩ := hg
      cases s <;> cases s'
      case positive.positive =>
        rw [toRat_positive, toRat_positive]
        exact mul_zpow_lt hlen hleast hdigits' ((place_positive_lt_iff hm hm').mp hlt)
      case negative.negative =>
        rw [toRat_negative, toRat_negative, neg_lt_neg_iff]
        exact mul_zpow_lt hlen' hleast' hdigits ((place_negative_lt_iff hm hm').mp hlt)
      case negative.positive =>
        rw [toRat_negative, toRat_positive]
        linarith [mul_zpow_pos hm e, mul_zpow_pos hm' e']
      case positive.negative => simp [place, Prod.Lex.toLex_lt_toLex] at hlt

/-- Only the two zeros share a place. -/
theorem eq_or_zero_of_place_eq (hff : f.isFinite = true) (hgf : g.isFinite = true)
    (heq : place f = place g) : f = g ∨ ∃ s s', f = .zero s ∧ g = .zero s' := by
  cases f with
  | notANumber | infinity => cases hff
  | zero s =>
    cases g with
    | notANumber | infinity => cases hgf
    | zero s' => exact .inr ⟨s, s', rfl, rfl⟩
    | finite s' => cases s' <;> simp [place] at heq
  | finite s m e hm =>
    cases g with
    | notANumber | infinity => cases hgf
    | zero => cases s <;> simp [place] at heq
    | finite s' m' e' hm' =>
      refine .inl ?_
      cases s <;> cases s' <;> simp [place] at heq
      case positive.positive | negative.negative =>
        obtain ⟨rfl, rfl⟩ := heq
        rfl

/-- Finite numbers are in order as their exact values are. -/
theorem toRat_le_iff (hf : IsNormal f) (hg : IsNormal g) (hff : f.isFinite = true)
    (hgf : g.isFinite = true) : toRat f ≤ toRat g ↔ place f ≤ place g := by
  constructor
  · intro hle
    by_contra hlt
    exact absurd hle (not_le.mpr (toRat_lt_of_place_lt hg hf hgf hff (not_le.mp hlt)))
  · intro hle
    rcases hle.lt_or_eq with hlt | heq
    · exact (toRat_lt_of_place_lt hf hg hff hgf hlt).le
    · rcases eq_or_zero_of_place_eq hff hgf heq with rfl | ⟨s, s', rfl, rfl⟩
      · exact le_rfl
      · exact le_rfl

/-! ### Whole parts -/

/-- What is known of a value of which the whole part is kept: whether it is more than that, and how
it compares to the middle between the whole part and the next number. -/
inductive IsAccurate (m : ℕ) (z : ℚ) : Accuracy → Prop
  | exact (heq : z = m) : IsAccurate m z .exact
  | below (hlow : m < z) (hhigh : z < m + 1 / 2) : IsAccurate m z (.inexact .lt)
  | half (heq : z = m + 1 / 2) : IsAccurate m z (.inexact .eq)
  | above (hlow : m + 1 / 2 < z) (hhigh : z < m + 1) : IsAccurate m z (.inexact .gt)

theorem IsAccurate.floor {a : Accuracy} (h : IsAccurate m z a) : m ≤ z ∧ z < m + 1 := by
  cases h <;> constructor <;> linarith

/-- The whole part is rounded to the nearest whole number. -/
theorem IsAccurate.abs_sub_le {a : Accuracy} (h : IsAccurate m z a) (k : ℤ) :
    |(a.roundToNearestEven m : ℚ) - z| ≤ |k - z| := by
  -- any other whole number is at the whole part or below, or at the next one or above
  have hk : (k : ℚ) ≤ m ∨ (m : ℚ) + 1 ≤ k := by
    rcases le_or_gt k m with hle | hlt
    · exact .inl (by exact_mod_cast hle)
    · exact .inr (by exact_mod_cast hlt)
  have hfar : z - m ≤ |k - z| ∨ m + 1 - z ≤ |k - z| := by
    rcases hk with hle | hle
    · exact .inl (by rw [abs_sub_comm]; exact le_trans (by linarith) (le_abs_self _))
    · exact .inr (le_trans (by linarith) (le_abs_self _))
  cases h with
  | exact heq => simp [Accuracy.roundToNearestEven, heq]
  | below hlow hhigh =>
    rw [Accuracy.roundToNearestEven, abs_sub_comm, abs_of_pos (by linarith)]
    rcases hfar with hfar | hfar <;> linarith
  | above hlow hhigh =>
    rw [Accuracy.roundToNearestEven, Nat.cast_add, Nat.cast_one, abs_of_pos (by linarith)]
    rcases hfar with hfar | hfar <;> linarith
  | half heq =>
    have hhalf : |((Accuracy.inexact .eq).roundToNearestEven m : ℚ) - z| = 1 / 2 := by
      rw [Accuracy.roundToNearestEven, heq, Nat.cast_add]
      rcases Nat.mod_two_eq_zero_or_one m with hmod | hmod <;> rw [hmod] <;> norm_num
    rw [hhalf]
    rcases hfar with hfar | hfar <;> linarith

theorem accuracy_ofMantissaAndAccuracy (m : ℕ) (a : Accuracy) :
    (ExtendedMantissa.ofMantissaAndAccuracy m a).accuracy = a := by
  cases a with
  | exact => rfl
  | inexact order => cases order <;> rfl

/-- A digit that is dropped decides whether the value is beyond the middle. -/
theorem isAccurate_shiftRightOne {em : ExtendedMantissa}
    (h : IsAccurate em.mantissa z em.accuracy) :
    IsAccurate em.shiftRightOne.mantissa (z / 2) em.shiftRightOne.accuracy := by
  obtain ⟨m, roundBit, stickyBit⟩ := em
  change IsAccurate m z _ at h
  change IsAccurate (m / 2) (z / 2)
    (ExtendedMantissa.accuracy ⟨m / 2, m % 2 != 0, roundBit || stickyBit⟩)
  have hm : ((m % 2 : ℕ) : ℚ) + 2 * ((m / 2 : ℕ) : ℚ) = m := by exact_mod_cast Nat.mod_add_div m 2
  generalize m / 2 = q at hm ⊢
  rcases Nat.mod_two_eq_zero_or_one m with hmod | hmod <;> rw [hmod] at hm ⊢
  · rw [Nat.cast_zero, zero_add] at hm
    cases roundBit <;> cases stickyBit <;> cases h
    case false.false.exact heq => exact .exact (by linarith)
    case false.true.below hlow hhigh => exact .below (by linarith) (by linarith)
    case true.false.half heq => exact .below (by linarith) (by linarith)
    case true.true.above hlow hhigh => exact .below (by linarith) (by linarith)
  · rw [Nat.cast_one] at hm
    cases roundBit <;> cases stickyBit <;> cases h
    case false.false.exact heq => exact .half (by linarith)
    case false.true.below hlow hhigh => exact .above (by linarith) (by linarith)
    case true.false.half heq => exact .above (by linarith) (by linarith)
    case true.true.above hlow hhigh => exact .above (by linarith) (by linarith)

theorem isAccurate_shiftRight {em : ExtendedMantissa} (h : IsAccurate em.mantissa z em.accuracy)
    (n : ℕ) : IsAccurate (em >>> n).mantissa (z / 2 ^ n) (em >>> n).accuracy := by
  change IsAccurate (n.repeat ExtendedMantissa.shiftRightOne em).mantissa _
    (n.repeat ExtendedMantissa.shiftRightOne em).accuracy
  induction n with
  | zero => simpa [Nat.repeat] using h
  | succ n ih =>
    rw [Nat.repeat, pow_succ, ← div_div]
    exact isAccurate_shiftRightOne ih

/-- What is left when a number is divided tells how accurate the quotient is. -/
theorem isAccurate_div (m : ℕ) (hm' : 0 < m') :
    IsAccurate (m / m') (m / m' : ℚ) (accuracyOfFraction (m % m') m') := by
  have hpos : (0 : ℚ) < m' := Nat.cast_pos.mpr hm'
  have hlt : m % m' < m' := Nat.mod_lt m hm'
  have hquotient : (m / m' : ℚ) = (m / m' : ℕ) + (m % m' : ℕ) / m' := by
    rw [add_div' _ _ _ hpos.ne', div_left_inj' hpos.ne']
    exact_mod_cast (Nat.div_add_mod' m m').symm
  rw [hquotient, accuracyOfFraction]
  generalize m / m' = q
  generalize m % m' = r at hlt ⊢
  have hone : (r / m' : ℚ) < 1 := (div_lt_one hpos).mpr (by exact_mod_cast hlt)
  split
  · next hr => exact .exact (by rw [hr, Nat.cast_zero, zero_div, add_zero])
  · next hr =>
    have hrpos : (0 : ℚ) < r / m' := div_pos (Nat.cast_pos.mpr (Nat.pos_of_ne_zero hr)) hpos
    rcases Nat.lt_trichotomy (2 * r) m' with hcompare | hcompare | hcompare
    · have hhalf : (r / m' : ℚ) < 1 / 2 := by
        rw [div_lt_div_iff₀ hpos two_pos]
        exact_mod_cast (by omega : r * 2 < 1 * m')
      rw [compare_lt_iff_lt.mpr hcompare]
      exact .below (by linarith) (by linarith)
    · have hhalf : (r / m' : ℚ) = 1 / 2 := by
        rw [div_eq_div_iff hpos.ne' two_ne_zero]
        exact_mod_cast (by omega : r * 2 = 1 * m')
      rw [compare_eq_iff_eq.mpr hcompare]
      exact .half (by linarith)
    · have hhalf : (1 / 2 : ℚ) < r / m' := by
        rw [div_lt_div_iff₀ two_pos hpos]
        exact_mod_cast (by omega : 1 * m' < r * 2)
      rw [compare_gt_iff_gt.mpr hcompare]
      exact .above (by linarith) (by linarith)

/-! ### Nearest numbers -/

/-- No number is nearer to a value. -/
def IsNearest (x : ℚ) (f : UnpackedFloat) : Prop :=
  ∀ g : UnpackedFloat, IsNormal g → g.isFinite = true → |toRat f - x| ≤ |toRat g - x|

theorem isNearest_toRat (f : UnpackedFloat) : IsNearest (toRat f) f := by
  intro g _ _
  rw [sub_self, abs_zero]
  exact abs_nonneg _

/-- A value that a number has is rounded to a number of that value. -/
theorem IsNearest.toRat_eq (hf : IsNearest (toRat g) f) (hg : IsNormal g)
    (hgf : g.isFinite = true) : toRat f = toRat g := by
  have hle := hf g hg hgf
  rw [sub_self, abs_zero] at hle
  exact sub_eq_zero.mp (abs_nonpos_iff.mp hle)

/-- The greater of two values is not rounded to the lesser number. -/
theorem IsNearest.toRat_le (hf : IsNearest x f) (hg : IsNearest y g) (hfn : IsNormal f)
    (hgn : IsNormal g) (hff : f.isFinite = true) (hgf : g.isFinite = true) (hlt : x < y) :
    toRat f ≤ toRat g := by
  by_contra hgreater
  rw [not_le] at hgreater
  -- otherwise the lesser value is beyond the middle between the two numbers, the greater before it
  have hx := sq_le_sq.mpr (hf g hgn hgf)
  have hy := sq_le_sq.mpr (hg f hfn hff)
  nlinarith

/-- Rounding keeps the order. -/
theorem IsNearest.place_le (hf : IsNearest x f) (hg : IsNearest y g) (hfn : IsNormal f)
    (hgn : IsNormal g) (hff : f.isFinite = true) (hgf : g.isFinite = true) (hlt : x < y) :
    place f ≤ place g :=
  (toRat_le_iff hfn hgn hff hgf).mp (hf.toRat_le hg hfn hgn hff hgf hlt)

/-- Down to a last place, a number has nothing but whole digits, or it is too little to reach it. -/
theorem grid (hg : IsNormal g) (hgf : g.isFinite = true) (place : ℤ) :
    (∃ k : ℤ, toRat g = k * 2 ^ place) ∨
      place ≠ -149 ∧ |toRat g| ≤ 2 ^ 23 * 2 ^ place := by
  cases g with
  | notANumber | infinity => cases hgf
  | zero => exact .inl ⟨0, by simp [toRat]⟩
  | finite s m e hm =>
    obtain ⟨hlen, hleast, -⟩ := hg
    rcases le_or_gt place e with hle | hlt
    · refine .inl ⟨s.apply ((m * 2 ^ (e - place).toNat : ℕ) : ℤ), ?_⟩
      rw [cast_apply, Int.cast_natCast, mul_assoc, cast_mul_two_pow m hle, toRat]
    · refine .inr ⟨by omega, ?_⟩
      have hdigits : (m : ℚ) ≤ 2 ^ 24 := by exact_mod_cast hlen.le
      rw [toRat, abs_mul, abs_unit, one_mul, abs_of_pos (mul_zpow_pos hm e)]
      calc (m : ℚ) * 2 ^ e ≤ 2 ^ 24 * 2 ^ e := by gcongr
        _ = 2 ^ 23 * 2 ^ (e + 1) := by rw [zpow_add_one₀ two_ne_zero]; ring
        _ ≤ 2 ^ 23 * 2 ^ place := by
          gcongr
          · norm_num
          · omega

/-- The digits that are kept are rounded at the last place, and a carry changes nothing about the
value. -/
theorem toRat_roundWithAccuracy (s : Sign) (a : Accuracy) (he : e ≤ lastPlace m e) :
    toRat (roundWithAccuracy .binary32 s m e a) =
      unit s * ((ExtendedMantissa.ofMantissaAndAccuracy m a >>>
        (lastPlace m e - e).toNat).roundedMantissa * 2 ^ lastPlace m e) := by
  obtain ⟨hmantissa, hexponent⟩ := shiftToTargetExponent_eq m e a
  have hfirst : (UnpackedFloat.shiftToTargetExponent .binary32 m e a).1 =
      ExtendedMantissa.ofMantissaAndAccuracy m a >>> (lastPlace m e - e).toNat := rfl
  have hlen : m / 2 ^ (lastPlace m e - e).toNat < 2 ^ 24 := div_lt m (by rw [lastPlace_eq]; omega)
  rw [max_eq_right he] at hexponent
  rw [← hmantissa] at hlen
  rw [← hfirst, roundWithAccuracy]
  generalize UnpackedFloat.shiftToTargetExponent .binary32 m e a = first at hexponent hlen ⊢
  obtain ⟨em, place⟩ := first
  simp only at hexponent hlen ⊢
  subst hexponent
  have hrounded := roundedMantissa_cases em
  generalize em.roundedMantissa = r at hrounded ⊢
  have hleast := le_lastPlace m e
  by_cases hcarries : r = 2 ^ 24
  · subst hcarries
    obtain ⟨hmantissa, hexponent⟩ := shiftToTargetExponent_of_carry hleast
    simp only [hmantissa, hexponent]
    rw [dif_neg (by decide), toRat, zpow_add_one₀ two_ne_zero]
    push_cast
    ring
  · obtain ⟨hmantissa, hexponent⟩ := shiftToTargetExponent_of_lt hleast (r := r) (by omega)
    simp only [hmantissa, hexponent]
    split
    · next hzero => simp [toRat, hzero]
    · rfl

/-- There are fewer than 24 digits to keep at the least exponent only. -/
theorem le_div (he : e ≤ lastPlace m e) :
    lastPlace m e = -149 ∨ 2 ^ 23 ≤ m / 2 ^ (lastPlace m e - e).toNat := by
  by_cases hm : m = 0
  · refine .inl ?_
    rw [lastPlace_eq, hm, Nat.log2_zero] at he ⊢
    omega
  · have hzero : (e - lastPlace m e).toNat = 0 := by omega
    have hle := le_digits hm e
    rwa [digits, hzero, Nat.pow_zero, Nat.mul_one] at hle

theorem isNormal_roundWithAccuracy (s : Sign) (a : Accuracy) (he : e ≤ lastPlace m e) :
    IsNormal (roundWithAccuracy .binary32 s m e a) := by
  have hrounds := roundWithAccuracy_rounds s m e a
  rw [max_eq_right he] at hrounds
  exact hrounds.isNormal (le_lastPlace m e) (le_div he)

/-- Digits that are rounded at a last place give the nearest number, when there are 24 of them or
the place is that of the least exponent. -/
theorem isNearest_of_isAccurate {a : Accuracy} {place : ℤ} (ha : IsAccurate m y a)
    (hfull : place = -149 ∨ 2 ^ 23 ≤ m)
    (hf : toRat f = unit s * (a.roundToNearestEven m * 2 ^ place)) :
    IsNearest (unit s * (y * 2 ^ place)) f := by
  intro g hg hgf
  have hpow : (0 : ℚ) < 2 ^ place := by positivity
  have hleft : |toRat f - unit s * (y * 2 ^ place)| =
      |(a.roundToNearestEven m : ℚ) - y| * 2 ^ place := by
    rw [hf, ← mul_sub, ← sub_mul, abs_mul, abs_unit, one_mul, abs_mul, abs_of_pos hpow]
  have hright : |toRat g - unit s * (y * 2 ^ place)| = |unit s * toRat g - y * 2 ^ place| := by
    have hsign : toRat g - unit s * (y * 2 ^ place) =
        unit s * (unit s * toRat g - y * 2 ^ place) := by
      rw [mul_sub, ← mul_assoc (unit s) (unit s), unit_mul_self, one_mul]
    rw [hsign, abs_mul, abs_unit, one_mul]
  rw [hleft, hright]
  rcases grid hg hgf place with ⟨k, hk⟩ | ⟨hplace, hlittle⟩
  · have hwhole : unit s * toRat g - y * 2 ^ place = ((s.apply k : ℤ) - y) * 2 ^ place := by
      rw [hk, cast_apply, sub_mul, mul_assoc]
    rw [hwhole, abs_mul, abs_of_pos hpow]
    exact mul_le_mul_of_nonneg_right (ha.abs_sub_le _) hpow.le
  · -- what does not reach the place is farther away than the least number that has 24 digits there
    have hdigits : (2 : ℚ) ^ 23 ≤ m := by exact_mod_cast hfull.resolve_left hplace
    have hbeyond : (2 : ℚ) ^ 23 ≤ y := hdigits.trans ha.floor.1
    have hwhole : |(a.roundToNearestEven m : ℚ) - y| ≤ y - 2 ^ 23 := by
      have hle := ha.abs_sub_le (2 ^ 23)
      rwa [Int.cast_pow, Int.cast_ofNat, abs_sub_comm (2 ^ 23) y,
        abs_of_nonneg (sub_nonneg.mpr hbeyond)] at hle
    calc |(a.roundToNearestEven m : ℚ) - y| * 2 ^ place
        ≤ (y - 2 ^ 23) * 2 ^ place := mul_le_mul_of_nonneg_right hwhole hpow.le
      _ = y * 2 ^ place - 2 ^ 23 * 2 ^ place := sub_mul _ _ _
      _ ≤ y * 2 ^ place - |unit s * toRat g| := by
        rw [abs_mul, abs_unit, one_mul]
        exact sub_le_sub_left hlittle _
      _ ≤ |unit s * toRat g - y * 2 ^ place| := by
        rw [abs_sub_comm]
        have hself := le_abs_self (unit s * toRat g)
        have hdifference := le_abs_self (y * 2 ^ place - unit s * toRat g)
        linarith

/-- What has been worked out as far as it is kept is rounded to the nearest number. -/
theorem isNearest_roundWithAccuracy (s : Sign) {a : Accuracy} (ha : IsAccurate m z a)
    (he : e ≤ lastPlace m e) :
    IsNearest (unit s * (z * 2 ^ e)) (roundWithAccuracy .binary32 s m e a) := by
  have hem : IsAccurate (ExtendedMantissa.ofMantissaAndAccuracy m a).mantissa z
      (ExtendedMantissa.ofMantissaAndAccuracy m a).accuracy := by
    rwa [mantissa_ofMantissaAndAccuracy, accuracy_ofMantissaAndAccuracy]
  have hkept := isAccurate_shiftRight hem (lastPlace m e - e).toNat
  have hfull : lastPlace m e = -149 ∨ 2 ^ 23 ≤
      (ExtendedMantissa.ofMantissaAndAccuracy m a >>> (lastPlace m e - e).toNat).mantissa := by
    rw [mantissa_shiftRight, mantissa_ofMantissaAndAccuracy]
    exact le_div he
  have hshift : z * 2 ^ e = z / 2 ^ (lastPlace m e - e).toNat * 2 ^ lastPlace m e := by
    have hscale := cast_mul_two_pow 1 he
    rw [one_mul, Nat.cast_pow, Nat.cast_ofNat, Nat.cast_one, one_mul] at hscale
    rw [← hscale, ← mul_assoc, div_mul_cancel₀]
    positivity
  rw [hshift]
  exact isNearest_of_isAccurate hkept hfull (toRat_roundWithAccuracy s a he)

/-! ### Operations -/

theorem isNearest_round (s : Sign) (hm : m ≠ 0) (e : ℤ) :
    IsNearest (unit s * (m * 2 ^ e)) (UnpackedFloat.round .binary32 s m e) := by
  let n := (e - lastPlace m e).toNat
  have hle : e - n ≤ lastPlace (m * 2 ^ n) (e - n) := by
    rw [lastPlace_shift hm]
    omega
  have hvalue : (m : ℚ) * 2 ^ e = ((m * 2 ^ n : ℕ) : ℚ) * 2 ^ (e - n : ℤ) := by
    have hn : (e - (e - n : ℤ)).toNat = n := by omega
    have hcast := cast_mul_two_pow m (sub_le_self e (Int.natCast_nonneg n))
    rw [hn] at hcast
    exact hcast.symm
  rw [round_eq, hvalue]
  exact isNearest_roundWithAccuracy s (.exact rfl) hle

theorem isNearest_normalize (m e : ℤ) (s : Sign) :
    IsNearest (m * 2 ^ e) (UnpackedFloat.normalize .binary32 m e s) := by
  by_cases hm : m = 0
  · rw [hm, Int.cast_zero, zero_mul]
    exact isNearest_toRat (.zero s)
  · rw [normalize_of_ne hm]
    have hvalue : (m : ℚ) = unit (if 0 < m then .positive else .negative) * m.natAbs := by
      split
      · next hpos => rw [Nat.cast_natAbs, abs_of_pos hpos, unit, one_mul]
      · next hneg =>
        rw [Nat.cast_natAbs, abs_of_nonpos (not_lt.mp hneg), unit, Int.cast_neg, neg_one_mul,
          neg_neg]
    rw [hvalue, mul_assoc]
    exact isNearest_round _ (Int.natAbs_ne_zero.mpr hm) e

/-- A difference is rounded to the nearest number. -/
theorem isNearest_sub (hff : f.isFinite = true) (hgf : g.isFinite = true) :
    IsNearest (toRat f - toRat g) (UnpackedFloat.sub .binary32 f g) := by
  -- with a zero there is nothing to be rounded
  have hplain (h : toRat f - toRat g = toRat (UnpackedFloat.sub .binary32 f g)) :
      IsNearest (toRat f - toRat g) (UnpackedFloat.sub .binary32 f g) :=
    h ▸ isNearest_toRat (UnpackedFloat.sub .binary32 f g)
  cases f with
  | notANumber | infinity => cases hff
  | zero s =>
    cases g with
    | notANumber | infinity => cases hgf
    | zero s' => exact hplain (by cases s <;> cases s' <;> exact sub_zero 0)
    | finite s' m' e' hm' =>
      refine hplain ?_
      rw [UnpackedFloat.sub, toRat, toRat, toRat, zero_sub, unit_neg, neg_mul]
  | finite s m e hm =>
    cases g with
    | notANumber | infinity => cases hgf
    | zero s' => exact hplain (sub_zero _)
    | finite s' m' e' hm' =>
      have hvalue : toRat (.finite s m e hm) - toRat (.finite s' m' e' hm') =
          ((s.apply ((m * 2 ^ (e - min e e').toNat : ℕ) : ℤ) -
            s'.apply ((m' * 2 ^ (e' - min e e').toNat : ℕ) : ℤ) : ℤ) : ℚ) * 2 ^ min e e' := by
        rw [Int.cast_sub, cast_apply, cast_apply, Int.cast_natCast, Int.cast_natCast, sub_mul,
          mul_assoc, mul_assoc, cast_mul_two_pow m (min_le_left e e'),
          cast_mul_two_pow m' (min_le_right e e')]
        rfl
      rw [sub_finite, hvalue]
      exact isNearest_normalize _ _ _

theorem isFinite_difference (hff : f.isFinite = true) (hgf : g.isFinite = true) :
    (UnpackedFloat.sub .binary32 f g).isFinite = true := by
  cases f with
  | notANumber | infinity => cases hff
  | zero s =>
    cases g with
    | notANumber | infinity => cases hgf
    | zero s' => cases s <;> cases s' <;> rfl
    | finite => rfl
  | finite =>
    cases g with
    | notANumber | infinity => cases hgf
    | zero => rfl
    | finite => exact isFinite_normalize _ _ _

/-- The exponent down to which the digits of a quotient are worked out. -/
def quotientPlace (m : ℕ) (e : ℤ) (m' : ℕ) (e' : ℤ) : ℤ :=
  min (e - e') (max (m.log2 + e - (m'.log2 + e') - 24) (-149))

theorem div_finite (s s' : Sign) (e e' : ℤ) (hm : 0 < m) (hm' : 0 < m') :
    UnpackedFloat.div .binary32 (.finite s m e hm) (.finite s' m' e' hm') =
      let last := quotientPlace m e m' e'
      let dividend := m * 2 ^ (e - e' - last).toNat
      roundWithAccuracy .binary32 (s / s') (dividend / m') last
        (accuracyOfFraction (dividend % m') m') := by
  have hmin : Format.binary32.minExponent = -149 := by decide
  have hlen : ((Format.binary32.mantissaBits : ℕ) : ℤ) = 24 := by decide
  have hlast : min (e - e') (Format.binary32.targetExponent
      (totalExponent m e - totalExponent m' e')) = quotientPlace m e m' e' := by
    rw [quotientPlace, Format.targetExponent, totalExponent, totalExponent, hmin, hlen]
    omega
  simp only [UnpackedFloat.div, UnpackedFloat.divCore, hlast, Nat.shiftLeft_eq]

/-- The digits of a quotient are worked out as far as they are kept. -/
theorem quotientPlace_le (hm : m ≠ 0) (hm' : 0 < m') (e e' : ℤ) :
    let last := quotientPlace m e m' e'
    last ≤ lastPlace (m * 2 ^ (e - e' - last).toNat / m') last := by
  intro last
  rcases le_or_gt last (-149) with hleast | hgreater
  · exact hleast.trans (le_lastPlace _ _)
  · -- the dividend gets enough zeros for the quotient to have 24 digits
    have hlast : last = quotientPlace m e m' e' := rfl
    have hshift : m'.log2 + 24 ≤ m.log2 + (e - e' - last).toNat := by
      rw [quotientPlace] at hlast
      omega
    have hdigits : 2 ^ 23 ≤ m * 2 ^ (e - e' - last).toNat / m' := by
      rw [Nat.le_div_iff_mul_le hm']
      calc 2 ^ 23 * m' ≤ 2 ^ 23 * 2 ^ (m'.log2 + 1) := Nat.mul_le_mul_left _ Nat.lt_log2_self.le
        _ = 2 ^ (m'.log2 + 24) := by rw [← Nat.pow_add, Nat.add_comm 23, Nat.add_assoc]
        _ ≤ 2 ^ (m.log2 + (e - e' - last).toNat) := Nat.pow_le_pow_right (by decide) hshift
        _ = 2 ^ m.log2 * 2 ^ (e - e' - last).toNat := Nat.pow_add _ _ _
        _ ≤ m * 2 ^ (e - e' - last).toNat := Nat.mul_le_mul_right _ (Nat.log2_self_le hm)
    have hlog : 23 ≤ (m * 2 ^ (e - e' - last).toNat / m').log2 :=
      (Nat.le_log2 (Nat.ne_of_gt (Nat.lt_of_lt_of_le (by decide) hdigits))).mpr hdigits
    rw [lastPlace_eq]
    omega

/-- A quotient is rounded to the nearest number. -/
theorem isNearest_div (hff : f.isFinite = true) (hgf : g.isFinite = true)
    (hzero : ∀ s, g ≠ .zero s) :
    IsNearest (toRat f / toRat g) (UnpackedFloat.div .binary32 f g) := by
  cases g with
  | notANumber | infinity => cases hgf
  | zero s => exact absurd rfl (hzero s)
  | finite s' m' e' hm' =>
    cases f with
    | notANumber | infinity => cases hff
    | zero s =>
      have hvalue : toRat (.zero s) / toRat (.finite s' m' e' hm') = toRat (.zero (s / s')) :=
        zero_div _
      rw [hvalue]
      exact isNearest_toRat (.zero (s / s'))
    | finite s m e hm =>
      let last := quotientPlace m e m' e'
      let dividend := m * 2 ^ (e - e' - last).toNat
      have hvalue : toRat (.finite s m e hm) / toRat (.finite s' m' e' hm') =
          unit (s / s') * ((dividend / m' : ℚ) * 2 ^ last) := by
        have hdividend : (dividend : ℚ) * 2 ^ last = m * 2 ^ (e - e') :=
          cast_mul_two_pow m (min_le_left _ _)
        have hsign := unit_ne_zero s'
        rw [div_mul_eq_mul_div, hdividend, zpow_sub₀ two_ne_zero, unit_div, toRat, toRat]
        field_simp
      rw [div_finite, hvalue]
      exact isNearest_roundWithAccuracy _ (isAccurate_div dividend hm')
        (quotientPlace_le hm.ne' hm' e e')

theorem isFinite_quotient (hff : f.isFinite = true) (hgf : g.isFinite = true)
    (hzero : ∀ s, g ≠ .zero s) : (UnpackedFloat.div .binary32 f g).isFinite = true := by
  cases g with
  | notANumber | infinity => cases hgf
  | zero s => exact absurd rfl (hzero s)
  | finite s' m' e' hm' =>
    cases f with
    | notANumber | infinity => cases hff
    | zero => rfl
    | finite s m e hm =>
      rw [div_finite]
      exact (roundWithAccuracy_rounds ..).isFinite

theorem isNormal_quotient (hff : f.isFinite = true) (hgf : g.isFinite = true)
    (hzero : ∀ s, g ≠ .zero s) : IsNormal (UnpackedFloat.div .binary32 f g) := by
  cases g with
  | notANumber | infinity => cases hgf
  | zero s => exact absurd rfl (hzero s)
  | finite s' m' e' hm' =>
    cases f with
    | notANumber | infinity => cases hff
    | zero => exact trivial
    | finite s m e hm =>
      rw [div_finite]
      exact isNormal_roundWithAccuracy _ _ (quotientPlace_le hm.ne' hm' e e')

end Uiml.Single
