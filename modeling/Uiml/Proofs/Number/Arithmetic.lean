import Uiml.Proofs.Number.Rounding

/-!
# What comes of arithmetic

A sum, a difference, a product or a quotient is a number unless it asks for what has no answer, such
as what is left when infinity is taken from infinity. Two numbers that are not at the same place
have a difference that is not zero, however close they are.

## Main results

* `Single.isNaN_sub`, `Single.isNaN_add`, `Single.isNaN_mul`, `Single.isNaN_div` — operands of which
  the result is a number
* `Single.isNormal_sub`, `Single.sub_ne_zero` — how a difference is written, and that it is not zero
* `Single.isNaN_sub_eq`, …, `Single.isFinite_sub_iff`, … — what is seen of a result that is rounded
-/

namespace Uiml.Single

open Float.Model (UnpackedFloat)
open Float.Model.UnpackedFloat (Sign)

variable {f g : UnpackedFloat} {x y : Float32}

theorem isNormal (x : Float32) : IsNormal x.toModel.unpack ∧ Fits x.toModel.unpack :=
  isNormal_unpack x.toModel.toBits.toBitVec

theorem isNaN_of_isFinite (h : f.isFinite = true) : f.isNaN = false := by
  cases f with
  | notANumber => cases h
  | infinity | zero | finite => rfl

/-! ### Operations -/

theorem normalize_of_ne {m : ℤ} (hm : m ≠ 0) (e : ℤ) (s : Sign) :
    UnpackedFloat.normalize .binary32 m e s =
      UnpackedFloat.round .binary32 (if 0 < m then .positive else .negative) m.natAbs e := by
  rw [UnpackedFloat.normalize]
  split
  · next hlt =>
    have hneg : m < 0 := Int.compare_eq_lt.mp hlt
    rw [if_neg (by omega)]
    congr 1
    omega
  · next heq => exact absurd (Int.compare_eq_eq.mp heq) hm
  · next hgt =>
    have hpos : 0 < m := Int.compare_eq_gt.mp hgt
    rw [if_pos hpos]
    congr 1
    omega

theorem isFinite_normalize (m e : ℤ) (s : Sign) :
    (UnpackedFloat.normalize .binary32 m e s).isFinite = true := by
  by_cases hm : m = 0
  · subst hm
    rfl
  · rw [normalize_of_ne hm]
    exact (round_rounds _ (Int.natAbs_ne_zero.mpr hm) e).isFinite

/-- A difference is none only if both numbers are infinite. -/
theorem isNaN_sub (hf : f.isNaN = false) (hg : g.isNaN = false)
    (h : f.isFinite = true ∨ g.isFinite = true) :
    (UnpackedFloat.sub .binary32 f g).isNaN = false := by
  cases f with
  | notANumber => cases hf
  | infinity s =>
    cases g with
    | notANumber => cases hg
    | infinity s' => rcases h with h | h <;> cases h
    | zero | finite => rfl
  | zero s =>
    cases g with
    | notANumber => cases hg
    | infinity | finite => rfl
    | zero s' => cases s <;> cases s' <;> rfl
  | finite s m e =>
    cases g with
    | notANumber => cases hg
    | infinity | zero => rfl
    | finite s' m' e' => exact isNaN_of_isFinite (isFinite_normalize _ _ _)

theorem isFinite_of_isFinite_sub (h : (UnpackedFloat.sub .binary32 f g).isFinite = true) :
    f.isFinite = true ∧ g.isFinite = true := by
  cases f with
  | notANumber => cases h
  | infinity s =>
    cases g with
    | notANumber | zero | finite => cases h
    | infinity s' => cases s <;> cases s' <;> cases h
  | zero s | finite s =>
    cases g with
    | notANumber | infinity => cases h
    | zero | finite => exact ⟨rfl, rfl⟩

/-- A sum is none only if both numbers are infinite. -/
theorem isNaN_add (hf : f.isFinite = true) (hg : g.isNaN = false) :
    (UnpackedFloat.add .binary32 f g).isNaN = false := by
  cases f with
  | notANumber | infinity => cases hf
  | zero s =>
    cases g with
    | notANumber => cases hg
    | infinity | finite => rfl
    | zero s' => cases s <;> cases s' <;> rfl
  | finite s m e =>
    cases g with
    | notANumber => cases hg
    | infinity | zero => rfl
    | finite s' m' e' => exact isNaN_of_isFinite (isFinite_normalize _ _ _)

/-- A product is none only if one of the numbers is infinite. -/
theorem isNaN_mul (hf : f.isFinite = true) (hg : g.isFinite = true) :
    (UnpackedFloat.mul .binary32 f g).isNaN = false := by
  cases f with
  | notANumber | infinity => cases hf
  | zero =>
    cases g with
    | notANumber | infinity => cases hg
    | zero | finite => rfl
  | finite s m e =>
    cases g with
    | notANumber | infinity => cases hg
    | zero => rfl
    | finite s' m' e' => exact isNaN_of_isFinite (roundWithAccuracy_rounds ..).isFinite

/-- A quotient is none only if neither number is finite, or both are zero. -/
theorem isNaN_div (hf : f.isNaN = false) (hg : g.isNaN = false)
    (h : f.isFinite = true ∨ g.isFinite = true) (hzero : ∀ s, g ≠ .zero s) :
    (UnpackedFloat.div .binary32 f g).isNaN = false := by
  cases g with
  | notANumber => cases hg
  | zero s => exact absurd rfl (hzero s)
  | infinity s =>
    cases f with
    | notANumber => cases hf
    | infinity => rcases h with h | h <;> cases h
    | zero | finite => rfl
  | finite s m e =>
    cases f with
    | notANumber => cases hf
    | infinity | zero => rfl
    | finite s' m' e' => exact isNaN_of_isFinite (roundWithAccuracy_rounds ..).isFinite

/-- Nothing can be worked out from what is no number. -/
theorem isNaN_of_isNaN (h : f.isNaN = true) :
    (UnpackedFloat.sub .binary32 f g).isNaN = true ∧
      (UnpackedFloat.div .binary32 f g).isNaN = true := by
  cases f with
  | notANumber => exact ⟨rfl, rfl⟩
  | infinity | zero | finite => cases h

theorem isNaN_sub_of_isNaN (h : g.isNaN = true) :
    (UnpackedFloat.sub .binary32 f g).isNaN = true := by
  cases g with
  | notANumber => cases f <;> rfl
  | infinity | zero | finite => cases h

/-- What is not finite has no share in what is not finite. -/
theorem isNaN_div_of_not_isFinite (hf : f.isFinite = false) (hg : g.isFinite = false) :
    (UnpackedFloat.div .binary32 f g).isNaN = true := by
  cases f with
  | zero | finite => cases hf
  | notANumber => rfl
  | infinity s =>
    cases g with
    | zero | finite => cases hg
    | notANumber | infinity => rfl

/-! ### Differences -/

/-- Digits that are set to the same exponent are compared as the numbers are. -/
theorem aligned_lt {m m' : ℕ} {e e' : ℤ} (hm : m < 2 ^ 24) (he : -149 ≤ e)
    (hm' : e' = -149 ∨ 2 ^ 23 ≤ m') (hlt : e < e' ∨ e = e' ∧ m < m') :
    m * 2 ^ (e - min e e').toNat < m' * 2 ^ (e' - min e e').toNat := by
  rcases hlt with hlt | ⟨rfl, hlt⟩
  · -- above the least exponent a number has all its digits, and is shifted once at least
    have hfull : 2 ^ 23 ≤ m' := hm'.resolve_left (by omega)
    have hzero : (e - min e e').toNat = 0 := by omega
    have hone : 1 ≤ (e' - min e e').toNat := by omega
    have hpow : 2 ^ 1 ≤ 2 ^ (e' - min e e').toNat := Nat.pow_le_pow_right (by decide) hone
    rw [hzero, Nat.pow_zero, Nat.mul_one]
    calc m < 2 ^ 23 * 2 ^ 1 := hm
      _ ≤ m' * 2 ^ (e' - min e e').toNat := Nat.mul_le_mul hfull hpow
  · exact Nat.mul_lt_mul_of_pos_right hlt (Nat.two_pow_pos _)

theorem sub_finite {s s' : Sign} {m m' : ℕ} {e e' : ℤ} (hm : 0 < m) (hm' : 0 < m') :
    UnpackedFloat.sub .binary32 (.finite s m e hm) (.finite s' m' e' hm') =
      UnpackedFloat.normalize .binary32
        (s.apply ((m * 2 ^ (e - min e e').toNat : ℕ) : ℤ) -
          s'.apply ((m' * 2 ^ (e' - min e e').toNat : ℕ) : ℤ)) (min e e') .positive := by
  rw [UnpackedFloat.sub]
  simp only [UnpackedFloat.decreaseExponent, Nat.shiftLeft_eq]

theorem isNormal_sub (hf : IsNormal f) (hg : IsNormal g) :
    IsNormal (UnpackedFloat.sub .binary32 f g) := by
  cases f with
  | notANumber => exact trivial
  | infinity s =>
    cases g with
    | notANumber | zero | finite => exact trivial
    | infinity s' => cases s <;> cases s' <;> exact trivial
  | zero s =>
    cases g with
    | notANumber | infinity => exact trivial
    | zero s' => cases s <;> cases s' <;> exact trivial
    | finite => exact hg
  | finite s m e hm =>
    cases g with
    | notANumber | infinity => exact trivial
    | zero => exact hf
    | finite s' m' e' hm' =>
      rw [sub_finite]
      by_cases hzero : s.apply ((m * 2 ^ (e - min e e').toNat : ℕ) : ℤ) -
          s'.apply ((m' * 2 ^ (e' - min e e').toNat : ℕ) : ℤ) = 0
      · rw [hzero]
        exact trivial
      · rw [normalize_of_ne hzero]
        exact isNormal_round _ (Int.natAbs_ne_zero.mpr hzero) _

/-- Numbers at different places differ by more than nothing. -/
theorem aligned_ne {s s' : Sign} {m m' : ℕ} {e e' : ℤ} (hm : 0 < m) (hm' : 0 < m')
    (hf : IsNormal (.finite s m e hm)) (hg : IsNormal (.finite s' m' e' hm'))
    (hlt : place (.finite s' m' e' hm') < place (.finite s m e hm)) :
    s.apply ((m * 2 ^ (e - min e e').toNat : ℕ) : ℤ) -
      s'.apply ((m' * 2 ^ (e' - min e e').toNat : ℕ) : ℤ) ≠ 0 := by
  have hpos : 0 < m * 2 ^ (e - min e e').toNat := Nat.mul_pos hm (Nat.two_pow_pos _)
  have hpos' : 0 < m' * 2 ^ (e' - min e e').toNat := Nat.mul_pos hm' (Nat.two_pow_pos _)
  obtain ⟨hlen, hleast, hdigits⟩ := hf
  obtain ⟨hlen', hleast', hdigits'⟩ := hg
  cases s <;> cases s' <;> simp only [Sign.apply]
  case positive.positive =>
    have haligned := aligned_lt hlen' hleast' hdigits ((place_positive_lt_iff hm' hm).mp hlt)
    rw [min_comm e' e] at haligned
    omega
  case negative.negative =>
    have haligned := aligned_lt hlen hleast hdigits' ((place_negative_lt_iff hm' hm).mp hlt)
    omega
  -- what has the other sign is added
  case positive.negative => omega
  case negative.positive =>
    simp [place, Prod.Lex.toLex_lt_toLex] at hlt

/-- The difference of numbers at different places is not rounded to zero. -/
theorem sub_ne_zero (hf : IsNormal f) (hg : IsNormal g) (hlt : place g < place f) (s : Sign) :
    UnpackedFloat.sub .binary32 f g ≠ .zero s := by
  intro hzero
  cases f with
  | notANumber => cases hzero
  | infinity r =>
    cases g with
    | notANumber | zero | finite => cases hzero
    | infinity r' => cases r <;> cases r' <;> cases hzero
  | zero r =>
    cases g with
    | notANumber | infinity | finite => cases hzero
    | zero => exact absurd hlt (lt_irrefl _)
  | finite r m e hm =>
    cases g with
    | notANumber | infinity | zero => cases hzero
    | finite r' m' e' hm' =>
      have hne := aligned_ne hm hm' hf hg hlt
      -- both numbers lie on the grid of the least exponent, and with them their difference
      have hgrid : -149 ≤ min e e' := le_min hf.2.1 hg.2.1
      rw [sub_finite, normalize_of_ne hne] at hzero
      have hdigits := digits_pos (Int.natAbs_ne_zero.mpr hne) hgrid
      have hrounds := round_rounds (if 0 < r.apply ((m * 2 ^ (e - min e e').toNat : ℕ) : ℤ) -
          r'.apply ((m' * 2 ^ (e' - min e e').toNat : ℕ) : ℤ) then .positive else .negative)
          (Int.natAbs_ne_zero.mpr hne) (min e e')
      rw [hzero] at hrounds
      cases hrounds with
      | vanishes h => omega

/-! ### Results that are rounded -/

theorem isNaN_sub_eq (x y : Float32) : (x - y).isNaN =
    (UnpackedFloat.sub .binary32 x.toModel.unpack y.toModel.unpack).isNaN := isNaN_unpack_pack _

theorem isNaN_add_eq (x y : Float32) : (x + y).isNaN =
    (UnpackedFloat.add .binary32 x.toModel.unpack y.toModel.unpack).isNaN := isNaN_unpack_pack _

theorem isNaN_mul_eq (x y : Float32) : (x * y).isNaN =
    (UnpackedFloat.mul .binary32 x.toModel.unpack y.toModel.unpack).isNaN := isNaN_unpack_pack _

theorem isNaN_div_eq (x y : Float32) : (x / y).isNaN =
    (UnpackedFloat.div .binary32 x.toModel.unpack y.toModel.unpack).isNaN := isNaN_unpack_pack _

theorem isFinite_sub_iff : (x - y).isFinite = true ↔
    (UnpackedFloat.sub .binary32 x.toModel.unpack y.toModel.unpack).isFinite = true ∧
      Fits (UnpackedFloat.sub .binary32 x.toModel.unpack y.toModel.unpack) := isFinite_unpack_pack _

theorem isFinite_div_iff : (x / y).isFinite = true ↔
    (UnpackedFloat.div .binary32 x.toModel.unpack y.toModel.unpack).isFinite = true ∧
      Fits (UnpackedFloat.div .binary32 x.toModel.unpack y.toModel.unpack) := isFinite_unpack_pack _

/-- Of two numbers, the greater one is more than nothing greater. -/
theorem sub_unpack_ne_zero (h : x < y) (s : Sign) : (y - x).toModel.unpack ≠ .zero s := by
  obtain ⟨hx, hy⟩ := isNaN_of_lt h
  have hnormal := isNormal_sub (isNormal y).1 (isNormal x).1
  have hlt := (Single.lt_iff hx hy).mp h
  exact unpack_pack_ne_zero hnormal (sub_ne_zero (isNormal y).1 (isNormal x).1 hlt) s

end Uiml.Single
