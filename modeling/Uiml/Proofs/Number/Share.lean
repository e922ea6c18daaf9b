import Uiml.Proofs.Number.Arithmetic

/-!
# Shares of a range

Where in a range a number lies is told by its share of the way from the one bound to the other. The
share is none if the number is none, or if number and range are both too far off the lower bound to
be told how far. As long as all that is worked with is far from the ends of the line, this does not
happen, nor does it on the way from one number to another.

## Main definitions

* `Single.IsModerate` — a number is far from the ends of the line

## Main results

* `Single.isNaN_share_iff` — when there is no share
* `Single.IsModerate.isFinite_sub`, `Single.isFinite_div` — finite differences and quotients
* `Single.isNaN_lerp` — on the way from a number to another all are numbers
* `Single.within_one_sub` — what is left of a share of the whole is a share of the whole
-/

namespace Uiml.Single

open Float.Model (UnpackedFloat)
open Float.Model.UnpackedFloat (Sign)

variable {f : UnpackedFloat} {x y t lo hi : Float32}

/-- A range has no share if the number is none, or if neither it nor the upper bound is at a finite
distance from the lower bound. -/
theorem isNaN_share_iff (h : lo < hi) :
    ((x - lo) / (hi - lo)).isNaN = true ↔
      x.isNaN = true ∨ (x - lo).isFinite = false ∧ (hi - lo).isFinite = false := by
  obtain ⟨hlo, hhi⟩ := isNaN_of_lt h
  constructor
  · intro hnone
    by_contra hnumber
    rw [not_or, Bool.not_eq_true] at hnumber
    obtain ⟨hx, hfar⟩ := hnumber
    -- one of the distances is finite, and with it the lower bound
    have hnear : (x - lo).isFinite = true ∨ (hi - lo).isFinite = true := by
      cases hdistance : (x - lo).isFinite with
      | true => exact .inl rfl
      | false =>
        refine .inr ?_
        rw [← Bool.not_eq_false]
        exact fun hrange => hfar ⟨hdistance, hrange⟩
    have hfinite : lo.toModel.unpack.isFinite = true := by
      rcases hnear with hdistance | hrange
      · exact (isFinite_of_isFinite_sub (isFinite_sub_iff.mp hdistance).1).2
      · exact (isFinite_of_isFinite_sub (isFinite_sub_iff.mp hrange).1).2
    have hdistance : (x - lo).isNaN = false :=
      (isNaN_sub_eq x lo).trans (isNaN_sub hx hlo (.inr hfinite))
    have hrange : (hi - lo).isNaN = false :=
      (isNaN_sub_eq hi lo).trans (isNaN_sub hhi hlo (.inr hfinite))
    have hnumber : ((x - lo) / (hi - lo)).isNaN = false :=
      (isNaN_div_eq _ _).trans (isNaN_div hdistance hrange hnear (sub_unpack_ne_zero h))
    rw [hnumber] at hnone
    cases hnone
  · rintro (hx | ⟨hdistance, hrange⟩)
    · have hdistance : (x - lo).isNaN = true := (isNaN_sub_eq x lo).trans (isNaN_of_isNaN hx).1
      exact (isNaN_div_eq _ _).trans (isNaN_of_isNaN hdistance).2
    · exact (isNaN_div_eq _ _).trans (isNaN_div_of_not_isFinite hdistance hrange)

/-! ### Numbers far from the ends -/

/-- The number 2 ^ 126. -/
def limit : Float32 := .ofBits 0x7E800000

/-- A number is far from the ends of the line. -/
def IsModerate (x : Float32) : Prop := -limit < x ∧ x < limit

instance (x : Float32) : Decidable (IsModerate x) := inferInstanceAs (Decidable (_ ∧ _))

theorem limit_unpack : limit.toModel.unpack = .finite .positive (2 ^ 23) 103 (by decide) ∧
    (-limit).toModel.unpack = .finite .negative (2 ^ 23) 103 (by decide) := ⟨rfl, rfl⟩

/-- A number between moderate bounds is moderate. -/
theorem IsModerate.of_within (hlo : IsModerate lo) (hhi : IsModerate hi) (h : Within lo hi x) :
    IsModerate x :=
  ⟨Single.lt_of_lt_of_le hlo.1 h.1, Single.lt_of_le_of_lt h.2 hhi.2⟩

/-- A moderate number is zero, or has an exponent that is far from the greatest. -/
theorem IsModerate.cases (h : IsModerate x) :
    (∃ s, x.toModel.unpack = .zero s) ∨
      ∃ s m e hm, x.toModel.unpack = .finite s m e hm ∧ e ≤ 102 := by
  have hnan : x.toModel.unpack.isNaN = false := (isNaN_of_lt h.2).1
  have hnormal := (isNormal x).1
  have hbelow := (Single.lt_iff (isNaN_of_lt h.1).1 hnan).mp h.1
  have habove := (Single.lt_iff hnan (isNaN_of_lt h.2).2).mp h.2
  rw [limit_unpack.1] at habove
  rw [limit_unpack.2] at hbelow
  generalize x.toModel.unpack = f at hnan hnormal hbelow habove ⊢
  cases f with
  | notANumber => cases hnan
  | zero s => exact .inl ⟨s, rfl⟩
  | infinity s =>
    cases s with
    | negative => exact absurd hbelow (by decide)
    | positive => exact absurd habove (not_lt.mpr (place_le _))
  | finite s m e hm =>
    obtain ⟨-, -, hdigits⟩ := hnormal
    refine .inr ⟨s, m, e, hm, rfl, ?_⟩
    cases s with
    | negative =>
      have hlt := (place_negative_lt_iff (by decide) hm).mp hbelow
      omega
    | positive =>
      have hlt := (place_positive_lt_iff hm (by decide)).mp habove
      omega

theorem IsModerate.isNaN (h : IsModerate x) : x.isNaN = false := (isNaN_of_lt h.1).2

theorem IsModerate.isFinite (h : IsModerate x) : x.toModel.unpack.isFinite = true := by
  rcases h.cases with ⟨s, hx⟩ | ⟨s, m, e, hm, hx, -⟩ <;> rw [hx] <;> rfl

/-- Numbers with exponents far from the greatest have a difference that fits. -/
theorem fits_sub {s s' : Sign} {m m' : ℕ} {e e' : ℤ} (hm : 0 < m) (hm' : 0 < m')
    (hf : IsNormal (.finite s m e hm)) (hg : IsNormal (.finite s' m' e' hm')) (he : e ≤ 102)
    (he' : e' ≤ 102) :
    Fits (UnpackedFloat.sub .binary32 (.finite s m e hm) (.finite s' m' e' hm')) := by
  -- at the lesser exponent there is room for that many digits more, and for one in the sum
  let room := (102 - min e e').toNat
  have haligned {m : ℕ} {e'' : ℤ} (hm : m < 2 ^ 24) (he : e'' ≤ 102) :
      m * 2 ^ (e'' - min e e').toNat < 2 ^ (24 + room) := by
    rw [Nat.pow_add]
    exact Nat.mul_lt_mul_of_lt_of_le hm (Nat.pow_le_pow_right (by decide) (by omega))
      (Nat.two_pow_pos _)
  have hleft := haligned hf.1 he
  have hright := haligned hg.1 he'
  rw [sub_finite]
  generalize m * 2 ^ (e - min e e').toNat = left at hleft ⊢
  generalize m' * 2 ^ (e' - min e e').toNat = right at hright ⊢
  by_cases hzero : s.apply (left : ℤ) - s'.apply (right : ℤ) = 0
  · rw [hzero]
    exact trivial
  · rw [normalize_of_ne hzero]
    refine (round_rounds _ (Int.natAbs_ne_zero.mpr hzero) _).fits ?_
    have hsum : (s.apply (left : ℤ) - s'.apply (right : ℤ)).natAbs < 2 ^ (24 + room + 1) := by
      rw [Nat.pow_succ]
      cases s <;> cases s' <;> simp only [Sign.apply] <;> omega
    have hlog := log2_le_of_lt hsum
    rw [lastPlace_eq]
    omega

/-- A difference of moderate numbers is finite. -/
theorem IsModerate.isFinite_sub (hx : IsModerate x) (hy : IsModerate y) :
    (x - y).isFinite = true := by
  have hnx := (isNormal x).1
  have hny := (isNormal y).1
  rw [isFinite_sub_iff]
  rcases hx.cases with ⟨s, hx⟩ | ⟨s, m, e, hm, hx, he⟩ <;>
    rcases hy.cases with ⟨s', hy⟩ | ⟨s', m', e', hm', hy, he'⟩ <;> rw [hx, hy]
  · cases s <;> cases s' <;> exact ⟨rfl, trivial⟩
  · exact ⟨rfl, he'.trans (by decide)⟩
  · exact ⟨rfl, he.trans (by decide)⟩
  · rw [hx] at hnx
    rw [hy] at hny
    exact ⟨isFinite_normalize _ _ _, fits_sub hm hm' hnx hny he he'⟩

/-! ### On the way -/

/-- The digits of a quotient are worked out as far as they are kept. -/
theorem isFinite_div_of_le {s s' : Sign} {m m' : ℕ} {e e' : ℤ} (hm : 0 < m) (hm' : 0 < m')
    (hlen : m < 2 ^ 24) (he : e ≤ e') :
    (UnpackedFloat.div .binary32 (.finite s m e hm) (.finite s' m' e' hm')).isFinite = true ∧
      Fits (UnpackedFloat.div .binary32 (.finite s m e hm) (.finite s' m' e' hm')) := by
  simp only [UnpackedFloat.div, UnpackedFloat.divCore]
  -- the exponent down to which digits are worked out; they are no more than those of the dividend
  generalize hlast : min (e - e') _ = last
  have hle : last ≤ e - e' := hlast ▸ min_le_left _ _
  have hquotient : m <<< (e - e' - last).toNat / m' < 2 ^ (23 + (e - e' - last).toNat + 1) := by
    rw [Nat.shiftLeft_eq, Nat.add_right_comm, Nat.pow_add]
    exact Nat.lt_of_le_of_lt (Nat.div_le_self _ _)
      (Nat.mul_lt_mul_of_pos_right hlen (Nat.two_pow_pos _))
  have hlog := log2_le_of_lt hquotient
  have hrounds := roundWithAccuracy_rounds (s / s') (m <<< (e - e' - last).toNat / m') last
    (UnpackedFloat.accuracyOfFraction (m <<< (e - e' - last).toNat % m') m')
  refine ⟨hrounds.isFinite, hrounds.fits ?_⟩
  rw [lastPlace_eq]
  omega

theorem isNaN_of_isUnsigned (h : isUnsigned x.toModel.unpack = true) : x.isNaN = false := by
  change x.toModel.unpack.isNaN = false
  cases hx : x.toModel.unpack with
  | notANumber => rw [hx] at h; cases h
  | infinity | zero | finite => rfl

/-- A sum of numbers without a sign has none. -/
theorem isUnsigned_sum (hx : isUnsigned x.toModel.unpack = true)
    (hy : isUnsigned y.toModel.unpack = true) : isUnsigned (x + y).toModel.unpack = true :=
  isUnsigned_unpack_pack (isUnsigned_add hx hy)

/-- Of two numbers without a sign, the quotient of the less by the greater is finite. -/
theorem isFinite_div (hx : isUnsigned x.toModel.unpack = true)
    (hy : isUnsigned y.toModel.unpack = true) (h : x < y) : (x / y).isFinite = true := by
  obtain ⟨hnx, hny⟩ := isNaN_of_lt h
  have hlt := (Single.lt_iff hnx hny).mp h
  have hnormal := (isNormal x).1
  rw [isFinite_div_iff]
  generalize x.toModel.unpack = f at hx hlt hnormal ⊢
  generalize y.toModel.unpack = g at hy hlt ⊢
  cases f with
  | notANumber => cases hx
  | infinity s =>
    cases s with
    | negative => cases hx
    | positive => exact absurd hlt (not_lt.mpr (place_le g))
  | zero s =>
    cases g with
    | notANumber => cases hy
    | zero => exact absurd hlt (lt_irrefl _)
    | infinity | finite => exact ⟨rfl, trivial⟩
  | finite s m e hm =>
    cases s with
    | negative => cases hx
    | positive =>
      cases g with
      | notANumber => cases hy
      | infinity => exact ⟨rfl, trivial⟩
      | zero => exact absurd hlt (by simp [place, Prod.Lex.toLex_lt_toLex])
      | finite s' m' e' hm' =>
        cases s' with
        | negative => cases hy
        | positive =>
          have hplaces := (place_positive_lt_iff hm hm').mp hlt
          exact isFinite_div_of_le hm hm' hnormal.1 (by omega)

/-- What has not come to its end has gone a finite share of the way. -/
theorem isFinite_share (hx : isUnsigned x.toModel.unpack = true) (hy : 0 < y) (h : ¬y ≤ x) :
    (x / y).isFinite = true := by
  have hyunsigned := isUnsigned_of_pos hy
  refine isFinite_div hx hyunsigned ?_
  by_contra hle
  exact h ((not_lt_iff (isNaN_of_isUnsigned hx) (isNaN_of_isUnsigned hyunsigned)).mp hle)

/-- On the way from a number to another at a finite distance, there are numbers only. -/
theorem isNaN_lerp (hx : x.toModel.unpack.isFinite = true) (hway : (y - x).isFinite = true)
    (ht : t.isFinite = true) : (lerp x y t).isNaN = false := by
  have hproduct : ((y - x) * t).isNaN = false := (isNaN_mul_eq _ _).trans (isNaN_mul hway ht)
  exact (isNaN_add_eq _ _).trans (isNaN_add hx hproduct)

/-! ### What is left of the whole -/

/-- The number one, taken apart. -/
def one : UnpackedFloat := .finite .positive (2 ^ 23) (-23) (by decide)

theorem unpack_one : (1 : Float32).toModel.unpack = one := rfl

theorem unpack_zero : (0 : Float32).toModel.unpack = .zero .positive := rfl

/-- What is rounded below one is one at most. -/
theorem Rounds.within_one {digits : ℕ} {last : ℤ} (h : Rounds .positive digits last f)
    (hlast : last ≤ -24) : place (.zero .positive) ≤ place f ∧ place f ≤ place one ∧ Fits f := by
  refine ⟨?_, ?_, h.fits (by omega)⟩
  · cases h <;> simp [place, Prod.Lex.toLex_le_toLex]
  · cases h with
    | vanishes => decide
    | stays hm => exact (place_positive_le_iff hm (by decide)).mpr (by omega)
    | carries => exact (place_positive_le_iff (by decide) (by decide)).mpr (by omega)

/-- What is left of one when a positive number is taken away that is not greater. -/
theorem one_sub_finite {m : ℕ} {e : ℤ} (hm : 0 < m) (hf : IsNormal (.finite .positive m e hm))
    (hle : e < -23 ∨ e = -23 ∧ m ≤ 2 ^ 23) :
    let left := UnpackedFloat.sub .binary32 one (.finite .positive m e hm)
    place (.zero .positive) ≤ place left ∧ place left ≤ place one ∧ Fits left := by
  obtain ⟨hlen, hleast, hdigits⟩ := hf
  rw [one, sub_finite, ← one]
  simp only [Sign.apply]
  rcases hle with hlt | ⟨rfl, hle⟩
  · -- below one, the difference has no more digits than one has at the exponent of the number
    have hmin : min (-23) e = e := by omega
    have hzero : (e - e).toNat = 0 := by omega
    have hpow : 2 ^ 23 * 2 ^ 1 ≤ 2 ^ 23 * 2 ^ (-23 - e).toNat :=
      Nat.mul_le_mul_left _ (Nat.pow_le_pow_right (by decide) (by omega))
    have hwhole : 2 ^ 23 * 2 ^ (-23 - e).toNat = 2 ^ (22 + (-23 - e).toNat + 1) := by
      rw [← Nat.pow_add]
      congr 1
      omega
    rw [hmin, hzero, Nat.pow_zero, Nat.mul_one]
    generalize 2 ^ 23 * 2 ^ (-23 - e).toNat = whole at hpow hwhole ⊢
    have hleft : (whole : ℤ) - m ≠ 0 := by omega
    have hbelow : ((whole : ℤ) - m).natAbs < 2 ^ (22 + (-23 - e).toNat + 1) := by omega
    have hlog := log2_le_of_lt hbelow
    rw [normalize_of_ne hleft, if_pos (by omega)]
    refine (round_rounds .positive (Int.natAbs_ne_zero.mpr hleft) e).within_one ?_
    rw [lastPlace_eq]
    omega
  · -- a number with the exponent of one is not less than one
    obtain rfl : m = 2 ^ 23 := by omega
    exact ⟨by decide, by decide, trivial⟩

theorem one_sub (hf : IsNormal f) (hnan : f.isNaN = false)
    (hbelow : place (.zero .positive) ≤ place f) (habove : place f ≤ place one) :
    let left := UnpackedFloat.sub .binary32 one f
    place (.zero .positive) ≤ place left ∧ place left ≤ place one ∧ Fits left := by
  cases f with
  | notANumber => cases hnan
  | zero s => cases s <;> exact ⟨by decide, by decide, (by decide : (-23 : ℤ) ≤ 104)⟩
  | infinity s =>
    cases s with
    | negative => exact absurd hbelow (by decide)
    | positive => exact absurd habove (by decide)
  | finite s m e hm =>
    cases s with
    | negative => exact absurd hbelow (by simp [place, Prod.Lex.toLex_le_toLex])
    | positive => exact one_sub_finite hm hf ((place_positive_le_iff hm (by decide)).mp habove)

/-- What is left of a share of the whole is a share of the whole. -/
theorem within_one_sub (h : Within 0 1 t) : Within 0 1 (1 - t) := by
  have hnan := h.isNaN_eq
  have hbelow := (Single.le_iff (x := 0) rfl hnan).mp h.1
  have habove := (Single.le_iff (y := 1) hnan rfl).mp h.2
  rw [unpack_zero] at hbelow
  rw [unpack_one] at habove
  obtain ⟨hzero, hone, hfits⟩ := one_sub (isNormal t).1 hnan hbelow habove
  have hsub : IsNormal (UnpackedFloat.sub .binary32 one t.toModel.unpack) :=
    isNormal_sub (isNormal 1).1 (isNormal t).1
  have hunpack : (1 - t).toModel.unpack = UnpackedFloat.sub .binary32 one t.toModel.unpack :=
    unpack_pack hsub hfits
  have hleft : (1 - t).isNaN = false := (isNaN_sub_eq 1 t).trans (isNaN_sub rfl hnan (.inl rfl))
  rw [← hunpack] at hzero hone
  exact ⟨(Single.le_iff rfl hleft).mpr hzero, (Single.le_iff hleft rfl).mpr hone⟩

end Uiml.Single
