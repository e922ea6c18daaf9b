import Uiml.Proofs.Number.Line
import Uiml.Proofs.Number.Unsigned

/-!
# Rounding

A number of single precision is written with 24 digits, and with fewer only at the least exponent.
Whatever is worked out is rounded to its last place: its digits up to there are kept, or the last of
them is raised by one, which may carry into a place more. Nothing that lies on the grid of the least
exponent is rounded to zero, and only what has too great an exponent comes out as infinity.

## Main definitions

* `Single.IsNormal`, `Single.Fits` — a number is written the way that all numbers are
* `Single.lastPlace`, `Single.digits` — where a number is rounded, and its digits up to there
* `Single.Rounds` — what may become of the digits that are kept

## Main results

* `Single.unpack_pack`, `Single.isFinite_unpack_pack` — what a number is that has been worked out
* `Single.roundWithAccuracy_rounds`, `Single.round_rounds` — the two ways of rounding
-/

namespace Uiml.Single

open Float.Model (UnpackedFloat Format totalExponent)
open Float.Model.UnpackedFloat (Accuracy ExtendedMantissa Sign pack unpack packComponents
  unpackExponent unpackMantissa roundWithAccuracy)

variable {f : UnpackedFloat} {s : Sign} {m : ℕ} {e : ℤ}

/-! ### How numbers are written -/

/-- A number has 24 digits, or fewer and the least exponent. -/
def IsNormal : UnpackedFloat → Prop
  | .finite _ mantissa exponent _ =>
    mantissa < 2 ^ 24 ∧ -149 ≤ exponent ∧ (exponent = -149 ∨ 2 ^ 23 ≤ mantissa)
  | .infinity _ | .zero _ | .notANumber => True

/-- The exponent of a number is not above the greatest. -/
def Fits : UnpackedFloat → Prop
  | .finite _ _ exponent _ => exponent ≤ 104
  | .infinity _ | .zero _ | .notANumber => True

theorem exponentBias_eq : (Format.exponentBias .binary32 : ℤ) = 127 := by decide

theorem toNat_one_append {width : ℕ} (v : BitVec width) :
    (1#1 ++ v).toNat = 2 ^ width + v.toNat := by
  rw [BitVec.toNat_append, ← Nat.shiftLeft_add_eq_or_of_lt v.isLt]
  simp [Nat.shiftLeft_eq]

theorem isNormal_unpack (bits : BitVec 32) :
    IsNormal (unpack .binary32 bits) ∧ Fits (unpack .binary32 bits) := by
  have hmantissa : (@unpackMantissa .binary32 bits).toNat < 2 ^ 23 := BitVec.isLt _
  have hexponent : (@unpackExponent .binary32 bits).toNat < 2 ^ 8 := BitVec.isLt _
  rw [unpack]
  simp only [exponentBias_eq]
  split
  · split <;> exact ⟨trivial, trivial⟩
  · next hlast =>
    -- the digits as they are at the least exponent, and with one more in front at all others
    have hlast' : (@unpackExponent .binary32 bits).toNat ≠ 255 := fun h =>
      hlast (BitVec.eq_of_toNat_eq h)
    split
    · next hzero =>
      split
      · exact ⟨trivial, trivial⟩
      · simp only [IsNormal, Fits, hzero, BitVec.toNat_zero]
        omega
    · next hfirst =>
      have hfirst' : (@unpackExponent .binary32 bits).toNat ≠ 0 := fun h =>
        hfirst (BitVec.eq_of_toNat_eq h)
      simp only [IsNormal, Fits, toNat_one_append]
      omega

/-- How a number is taken apart that has been put together. -/
theorem unpack_packComponents (s : Sign) (exponent : BitVec 8) (mantissa : BitVec 23) :
    unpack .binary32 (packComponents .binary32 s exponent mantissa) =
      if exponent = -1#8 then if mantissa = 0#23 then .infinity s else .notANumber
      else if exponent = 0#8 then
        if h : mantissa = 0#23 then .zero s
        else .finite s mantissa.toNat (-149)
          (Nat.pos_of_ne_zero fun h' => h (BitVec.eq_of_toNat_eq h'))
      else .finite s (2 ^ 23 + mantissa.toNat) (exponent.toNat - 150) (by omega) := by
  have hsign : Sign.ofBitVec s.toBitVec = s := by cases s <;> rfl
  rw [unpack]
  simp only [UnpackedFloat.unpackMantissa_packComponents, exponentBias_eq,
    UnpackedFloat.unpackExponent_packComponents, unpackSign_packComponents, hsign]
  split
  · rfl
  · split
    · next h =>
      subst h
      rfl
    · simp only [toNat_one_append]
      rfl

/-- What is finite stays so just if its exponent is not too great, and never becomes none. -/
theorem unpack_pack_finite (s : Sign) (hm : 0 < m) (e : ℤ) :
    (unpack .binary32 (pack .binary32 (.finite s m e hm))).isNaN = false ∧
      (unpack .binary32 (pack .binary32 (.finite s m e hm))).isFinite = decide (e ≤ 104) := by
  have hexponents : (2 : ℕ) ^ Format.binary32.exponentBits = 256 := rfl
  have hbits : ((Format.binary32.mantissaBitsWithoutImplicit : ℕ) : ℤ) = 23 := rfl
  rw [pack]
  simp only [exponentBias_eq, hexponents, hbits]
  split
  · next hfits =>
    rw [decide_eq_false (by omega)]
    cases s <;> exact ⟨rfl, rfl⟩
  · next hfits =>
    have hlast : BitVec.ofNat 8 (e + 127 + 23).toNat ≠ -1#8 := ofNat_ne_neg_one (by omega)
    rw [decide_eq_true (by omega)]
    -- with all its digits a number keeps its exponent, with fewer it is put at the least one
    split
    · rw [unpack_packComponents, if_neg hlast]
      split
      · split <;> exact ⟨rfl, rfl⟩
      · exact ⟨rfl, rfl⟩
    · rw [unpack_packComponents, if_neg (by decide), if_pos rfl]
      split <;> exact ⟨rfl, rfl⟩

theorem isNaN_unpack_pack (f : UnpackedFloat) :
    (unpack .binary32 (pack .binary32 f)).isNaN = f.isNaN := by
  cases f with
  | notANumber => rfl
  | infinity s | zero s => cases s <;> rfl
  | finite s m e hm => exact (unpack_pack_finite s hm e).1

theorem isFinite_unpack_pack (f : UnpackedFloat) :
    (unpack .binary32 (pack .binary32 f)).isFinite = true ↔ f.isFinite = true ∧ Fits f := by
  cases f with
  | notANumber => exact iff_of_false Bool.false_ne_true fun h => Bool.false_ne_true h.1
  | infinity s =>
    cases s <;> exact iff_of_false Bool.false_ne_true fun h => Bool.false_ne_true h.1
  | zero s => cases s <;> exact iff_of_true rfl ⟨rfl, trivial⟩
  | finite s m e hm =>
    rw [(unpack_pack_finite s hm e).2, decide_eq_true_iff]
    exact ⟨fun h => ⟨rfl, h⟩, fun h => h.2⟩

theorem log2_le_of_lt {n : ℕ} (h : m < 2 ^ (n + 1)) : m.log2 ≤ n := by
  rcases Nat.eq_zero_or_pos m with rfl | hpos
  · exact Nat.zero_le n
  · exact Nat.le_of_lt_succ ((Nat.log2_lt hpos.ne').mpr h)

theorem log2_eq_of_le (hlt : m < 2 ^ 24) (hle : 2 ^ 23 ≤ m) : m.log2 = 23 := by
  have hne : m ≠ 0 := by omega
  exact Nat.le_antisymm (log2_le_of_lt hlt) ((Nat.le_log2 hne).mpr hle)

theorem unpack_pack_of_full {s : Sign} (hm : 0 < m) (hlt : m < 2 ^ 24) (hfull : 2 ^ 23 ≤ m)
    (hmin : -149 ≤ e) (hmax : e ≤ 104) :
    unpack .binary32 (pack .binary32 (.finite s m e hm)) = .finite s m e hm := by
  have hexponents : (2 : ℕ) ^ Format.binary32.exponentBits = 256 := rfl
  have hbits : ((Format.binary32.mantissaBitsWithoutImplicit : ℕ) : ℤ) = 23 := rfl
  have hlog : m.log2 + 1 = Format.binary32.mantissaBits := by rw [log2_eq_of_le hlt hfull]; rfl
  rw [pack]
  simp only [exponentBias_eq, hexponents, hbits]
  rw [if_neg (by omega), if_pos hlog, unpack_packComponents]
  have hexponent : (BitVec.ofNat 8 (e + 127 + 23).toNat).toNat = (e + 127 + 23).toNat := by
    rw [BitVec.toNat_ofNat, Nat.mod_eq_of_lt (by omega)]
  have hmantissa : (BitVec.ofNat 23 m).toNat = m - 2 ^ 23 := by
    rw [BitVec.toNat_ofNat]
    omega
  have hlast : BitVec.ofNat 8 (e + 127 + 23).toNat ≠ -1#8 := ofNat_ne_neg_one (by omega)
  have hfirst : BitVec.ofNat 8 (e + 127 + 23).toNat ≠ 0#8 := fun h => by
    have hzero := congrArg BitVec.toNat h
    rw [hexponent, BitVec.toNat_ofNat] at hzero
    omega
  rw [if_neg hlast, if_neg hfirst]
  congr 1
  · rw [hmantissa]
    omega
  · rw [hexponent]
    omega

theorem unpack_pack_of_short {s : Sign} (hm : 0 < m) (hshort : m < 2 ^ 23) :
    unpack .binary32 (pack .binary32 (.finite s m (-149) hm)) = .finite s m (-149) hm := by
  have hlog : m.log2 + 1 ≠ Format.binary32.mantissaBits := by
    have hlt := (Nat.log2_lt (Nat.ne_of_gt hm)).mpr hshort
    exact Nat.ne_of_lt (Nat.succ_lt_succ hlt)
  have hmantissa : (BitVec.ofNat 23 m).toNat = m := by
    rw [BitVec.toNat_ofNat, Nat.mod_eq_of_lt hshort]
  have hne : BitVec.ofNat 23 m ≠ 0#23 := fun h => by
    have hzero := congrArg BitVec.toNat h
    rw [hmantissa] at hzero
    exact Nat.ne_of_gt hm hzero
  rw [pack]
  simp only [exponentBias_eq]
  rw [if_neg (by decide), if_neg hlog, unpack_packComponents, if_neg (by decide), if_pos rfl,
    dif_neg hne]
  congr 1

/-- What is written the way that all numbers are is kept as it is. -/
theorem unpack_pack (hnormal : IsNormal f) (hfits : Fits f) :
    unpack .binary32 (pack .binary32 f) = f := by
  cases f with
  | notANumber => rfl
  | infinity s | zero s => cases s <;> rfl
  | finite s m e hm =>
    obtain ⟨hlt, hmin, hdigits⟩ := hnormal
    by_cases hfull : 2 ^ 23 ≤ m
    · exact unpack_pack_of_full hm hlt hfull hmin hfits
    · obtain rfl := hdigits.resolve_right hfull
      exact unpack_pack_of_short hm (Nat.not_le.mp hfull)

/-- What is not zero may become infinity, but not zero. -/
theorem unpack_pack_ne_zero (hnormal : IsNormal f) (hzero : ∀ s, f ≠ .zero s) (s : Sign) :
    unpack .binary32 (pack .binary32 f) ≠ .zero s := by
  by_cases hfits : Fits f
  · rw [unpack_pack hnormal hfits]
    exact hzero s
  · intro hpacked
    have hfinite : (unpack .binary32 (pack .binary32 f)).isFinite = true := by
      rw [hpacked]
      rfl
    exact hfits ((isFinite_unpack_pack f).mp hfinite).2

/-! ### Rounding -/

/-- The exponent to which a number is rounded. -/
def lastPlace (m : ℕ) (e : ℤ) : ℤ := Format.binary32.targetExponent (totalExponent m e)

theorem lastPlace_eq (m : ℕ) (e : ℤ) : lastPlace m e = max (m.log2 + e - 23) (-149) := by
  have hmin : Format.binary32.minExponent = -149 := by decide
  have hlen : ((Format.binary32.mantissaBits : ℕ) : ℤ) = 24 := by decide
  rw [lastPlace, Format.targetExponent, totalExponent, hmin, hlen]
  omega

/-- What is left of the digits that are kept: they are as they are or one more, if that does not
carry. -/
inductive Rounds (s : Sign) (digits : ℕ) (place : ℤ) : UnpackedFloat → Prop
  | vanishes (h : digits = 0) : Rounds s digits place (.zero s)
  | stays {m : ℕ} (hm : 0 < m) (hdigits : m = digits ∨ m = digits + 1) (hlt : m < 2 ^ 24) :
      Rounds s digits place (.finite s m place hm)
  | carries (h : digits + 1 = 2 ^ 24) :
      Rounds s digits place (.finite s (2 ^ 23) (place + 1) (by decide))

theorem mantissa_shiftRight (em : ExtendedMantissa) (n : ℕ) :
    (em >>> n).mantissa = em.mantissa / 2 ^ n := by
  change (n.repeat ExtendedMantissa.shiftRightOne em).mantissa = _
  induction n with
  | zero => simp [Nat.repeat]
  | succ n ih =>
    rw [Nat.repeat, Nat.pow_succ, ← Nat.div_div_eq_div_mul, ← ih]
    rfl

theorem roundedMantissa_cases (em : ExtendedMantissa) :
    em.roundedMantissa = em.mantissa ∨ em.roundedMantissa = em.mantissa + 1 := by
  rw [ExtendedMantissa.roundedMantissa]
  cases em.accuracy with
  | exact => exact .inl rfl
  | inexact order =>
    cases order with
    | lt => exact .inl rfl
    | gt => exact .inr rfl
    | eq =>
      simp only [Accuracy.roundToNearestEven]
      omega

theorem mantissa_ofMantissaAndAccuracy (m : ℕ) (a : Accuracy) :
    (ExtendedMantissa.ofMantissaAndAccuracy m a).mantissa = m := by
  cases a with
  | exact => rfl
  | inexact order => cases order <;> rfl

/-- Up to its last place, a number has no more than 24 digits. -/
theorem div_lt (m : ℕ) {n : ℕ} (h : m.log2 ≤ 23 + n) : m / 2 ^ n < 2 ^ 24 := by
  rw [Nat.div_lt_iff_lt_mul (Nat.two_pow_pos n), ← Nat.pow_add]
  exact Nat.lt_of_lt_of_le Nat.lt_log2_self (Nat.pow_le_pow_right (by decide) (by omega))

theorem shiftToTargetExponent_eq (m : ℕ) (e : ℤ) (a : Accuracy) :
    (UnpackedFloat.shiftToTargetExponent .binary32 m e a).1.mantissa =
        m / 2 ^ (lastPlace m e - e).toNat ∧
      (UnpackedFloat.shiftToTargetExponent .binary32 m e a).2 = max e (lastPlace m e) := by
  refine ⟨?_, ?_⟩
  · simp only [UnpackedFloat.shiftToTargetExponent, UnpackedFloat.shiftToExponent,
      mantissa_shiftRight, mantissa_ofMantissaAndAccuracy]
    rfl
  · simp only [UnpackedFloat.shiftToTargetExponent, UnpackedFloat.shiftToExponent]
    change e + ((lastPlace m e - e).toNat : ℤ) = _
    omega

/-- What has 24 digits at most is at its last place. -/
theorem shiftToTargetExponent_of_lt {r : ℕ} {place : ℤ} (hplace : -149 ≤ place) (hr : r < 2 ^ 24) :
    let shifted := UnpackedFloat.shiftToTargetExponent .binary32 r place .exact
    shifted.1.mantissa = r ∧ shifted.2 = place := by
  obtain ⟨hmantissa, hexponent⟩ := shiftToTargetExponent_eq r place .exact
  have hlast : lastPlace r place ≤ place := by
    have hlog : r.log2 ≤ 23 := log2_le_of_lt hr
    rw [lastPlace_eq]
    omega
  have hzero : (lastPlace r place - place).toNat = 0 := by omega
  rw [hzero, Nat.pow_zero, Nat.div_one] at hmantissa
  rw [max_eq_left hlast] at hexponent
  exact ⟨hmantissa, hexponent⟩

/-- Only a power of two has a digit too many, and it loses none when it is shifted by one. -/
theorem shiftToTargetExponent_of_carry {place : ℤ} (hplace : -149 ≤ place) :
    let shifted := UnpackedFloat.shiftToTargetExponent .binary32 (2 ^ 24) place .exact
    shifted.1.mantissa = 2 ^ 23 ∧ shifted.2 = place + 1 := by
  obtain ⟨hmantissa, hexponent⟩ := shiftToTargetExponent_eq (2 ^ 24) place .exact
  have hlast : lastPlace (2 ^ 24) place = place + 1 := by
    rw [lastPlace_eq, Nat.log2_two_pow]
    omega
  have hone : (place + 1 - place).toNat = 1 := by omega
  have hmax : max place (place + 1) = place + 1 := by omega
  have hhalf : 2 ^ 24 / 2 ^ 1 = 2 ^ 23 := by decide
  rw [hlast, hone, hhalf] at hmantissa
  rw [hlast, hmax] at hexponent
  exact ⟨hmantissa, hexponent⟩

/-- What is rounded at its last place needs no second rounding, but it may carry. -/
theorem rounds_of_shift {digits r : ℕ} {place : ℤ} (hplace : -149 ≤ place)
    (hdigits : r = digits ∨ r = digits + 1) (hlt : digits < 2 ^ 24) (s : Sign) :
    let shifted := UnpackedFloat.shiftToTargetExponent .binary32 r place .exact
    Rounds s digits place
      (if h : shifted.1.mantissa = 0 then .zero s
        else .finite s shifted.1.mantissa shifted.2 (Nat.pos_of_ne_zero h)) := by
  by_cases hcarries : r = 2 ^ 24
  · obtain ⟨hmantissa, hexponent⟩ := shiftToTargetExponent_of_carry hplace
    subst hcarries
    simp only [hmantissa, hexponent]
    exact .carries (by omega)
  · have hr : r < 2 ^ 24 := by omega
    obtain ⟨hmantissa, hexponent⟩ := shiftToTargetExponent_of_lt hplace hr
    simp only [hmantissa, hexponent]
    by_cases h : r = 0
    · rw [dif_pos h]
      exact .vanishes (by omega)
    · rw [dif_neg h]
      exact .stays _ hdigits hr

theorem roundWithAccuracy_rounds (s : Sign) (m : ℕ) (e : ℤ) (a : Accuracy) :
    Rounds s (m / 2 ^ (lastPlace m e - e).toNat) (max e (lastPlace m e))
      (roundWithAccuracy .binary32 s m e a) := by
  obtain ⟨hmantissa, hexponent⟩ := shiftToTargetExponent_eq m e a
  have hleast : -149 ≤ lastPlace m e ∧ m.log2 + e - 23 ≤ lastPlace m e := by
    rw [lastPlace_eq]
    omega
  rw [roundWithAccuracy]
  generalize UnpackedFloat.shiftToTargetExponent .binary32 m e a = first at hmantissa hexponent ⊢
  obtain ⟨em, place⟩ := first
  simp only at hmantissa hexponent ⊢
  subst hexponent
  rw [← hmantissa]
  have hplace : -149 ≤ max e (lastPlace m e) := by omega
  refine rounds_of_shift hplace (roundedMantissa_cases em) ?_ s
  rw [hmantissa]
  exact div_lt m (by omega)

/-- The digits of a number up to its last place. -/
def digits (m : ℕ) (e : ℤ) : ℕ :=
  m * 2 ^ (e - lastPlace m e).toNat / 2 ^ (lastPlace m e - e).toNat

/-- A number with too few digits gets as many zeros as it needs to reach down to its last place. -/
theorem round_eq (s : Sign) (m : ℕ) (e : ℤ) : UnpackedFloat.round .binary32 s m e =
    roundWithAccuracy .binary32 s (m * 2 ^ (e - lastPlace m e).toNat)
      (e - (e - lastPlace m e).toNat) .exact := by
  rw [UnpackedFloat.round, ← Nat.shiftLeft_eq]
  rfl

theorem lastPlace_shift (hm : m ≠ 0) (e : ℤ) (n : ℕ) :
    lastPlace (m * 2 ^ n) (e - n) = lastPlace m e := by
  have hpos := Nat.two_pow_pos n
  have hlog : (m * 2 ^ n).log2 = m.log2 + n := by
    rw [Nat.log2_eq_iff (Nat.mul_ne_zero hm hpos.ne')]
    refine ⟨?_, ?_⟩
    · rw [Nat.pow_add]
      exact Nat.mul_le_mul_right _ (Nat.log2_self_le hm)
    · rw [Nat.add_right_comm, Nat.pow_add]
      exact Nat.mul_lt_mul_of_pos_right Nat.lt_log2_self hpos
  rw [lastPlace_eq, lastPlace_eq, hlog]
  omega

theorem round_rounds (s : Sign) (hm : m ≠ 0) (e : ℤ) :
    Rounds s (digits m e) (lastPlace m e) (UnpackedFloat.round .binary32 s m e) := by
  let n := (e - lastPlace m e).toNat
  have hrounds := roundWithAccuracy_rounds s (m * 2 ^ n) (e - n) .exact
  have hshift : (lastPlace m e - (e - n)).toNat = (lastPlace m e - e).toNat := by omega
  have hplace : max (e - n) (lastPlace m e) = lastPlace m e := by omega
  rw [lastPlace_shift hm, hshift, hplace] at hrounds
  rw [round_eq]
  exact hrounds

theorem le_lastPlace (m : ℕ) (e : ℤ) : -149 ≤ lastPlace m e := by
  rw [lastPlace_eq]
  exact le_max_right _ _

/-- There are fewer than 24 digits at the least exponent only. -/
theorem le_digits (hm : m ≠ 0) (e : ℤ) : lastPlace m e = -149 ∨ 2 ^ 23 ≤ digits m e := by
  by_cases hleast : lastPlace m e = -149
  · exact .inl hleast
  · refine .inr ?_
    have hplace : lastPlace m e = m.log2 + e - 23 := by
      rw [lastPlace_eq] at hleast ⊢
      omega
    rw [digits, Nat.le_div_iff_mul_le (Nat.two_pow_pos _), ← Nat.pow_add]
    have hlog : 23 + (lastPlace m e - e).toNat = m.log2 + (e - lastPlace m e).toNat := by omega
    rw [hlog, Nat.pow_add]
    exact Nat.mul_le_mul_right _ (Nat.log2_self_le hm)

/-- What lies on the grid of the least exponent has digits there. -/
theorem digits_pos (hm : m ≠ 0) (he : -149 ≤ e) : 0 < digits m e := by
  rcases le_digits hm e with hleast | hle
  · have hzero : (lastPlace m e - e).toNat = 0 := by omega
    rw [digits, hzero, Nat.pow_zero, Nat.div_one]
    exact Nat.mul_pos (Nat.pos_of_ne_zero hm) (Nat.two_pow_pos _)
  · exact Nat.lt_of_lt_of_le (by decide) hle

namespace Rounds

variable {digits : ℕ} {place : ℤ}

theorem isNormal (h : Rounds s digits place f) (hplace : -149 ≤ place)
    (hdigits : place = -149 ∨ 2 ^ 23 ≤ digits) : IsNormal f := by
  cases h with
  | vanishes => exact trivial
  | stays hm h hlt =>
    refine ⟨hlt, hplace, ?_⟩
    omega
  | carries => exact ⟨by decide, by omega, .inr (by decide)⟩

theorem fits (h : Rounds s digits place f) (hplace : place ≤ 103) : Fits f := by
  cases h with
  | vanishes => exact trivial
  | stays => exact hplace.trans (by decide)
  | carries => exact Int.add_le_add_right hplace 1

theorem isFinite (h : Rounds s digits place f) : f.isFinite = true := by
  cases h <;> rfl

end Rounds

theorem isNormal_round (s : Sign) (hm : m ≠ 0) (e : ℤ) :
    IsNormal (UnpackedFloat.round .binary32 s m e) :=
  (round_rounds s hm e).isNormal (le_lastPlace m e) (le_digits hm e)

end Uiml.Single
