import Mathlib
import Uiml.Proofs.Number.Order

/-!
# Numbers without a sign

A number without a sign is a zero, a positive number or infinity; it is never none. A sum of such
numbers has no sign either, so that a clock that only goes forward always shows one. Any two of them
can be compared, and their order is that of their ranks.

## Main definitions

* `Single.isUnsigned`, `Double.IsUnsigned` — a number is neither negative nor none
* `Double.rank` — the place of a number without a sign in the order

## Main results

* `Single.isUnsigned_unpack_iff` — the bits of such a number are those of infinity at most
* `Double.IsUnsigned.add` — a sum of numbers without a sign has none
* `Double.IsUnsigned.lt_iff`, `Double.IsUnsigned.le_iff` — numbers are compared by their ranks
-/

namespace Uiml

open Float.Model (UnpackedFloat Format)
open Float.Model.UnpackedFloat (Sign pack unpack unpackSign unpackExponent unpackMantissa
  packComponents)

namespace Single

variable {format : Format} {f g : UnpackedFloat}

/-- A number taken apart is neither negative nor none. -/
def isUnsigned : UnpackedFloat → Bool
  | .infinity .positive | .zero .positive | .finite .positive _ _ _ => true
  | _ => false

/-! ### The bits of numbers -/

theorem toNat_unpackMantissa (bits : BitVec format.numBits) :
    (unpackMantissa bits).toNat = bits.toNat % 2 ^ format.mantissaBitsWithoutImplicit := by
  have := format.hm
  simp [unpackMantissa, BitVec.extractLsb, Nat.sub_add_cancel this]

theorem toNat_unpackExponent (bits : BitVec format.numBits) :
    (unpackExponent bits).toNat =
      bits.toNat / 2 ^ format.mantissaBitsWithoutImplicit % 2 ^ format.exponentBits := by
  have := format.he
  simp [unpackExponent, BitVec.extractLsb, Nat.shiftRight_eq_div_pow]
  congr 2
  omega

theorem toNat_unpackSign (bits : BitVec format.numBits) :
    (unpackSign bits).toNat =
      bits.toNat / 2 ^ (format.mantissaBitsWithoutImplicit + format.exponentBits) % 2 := by
  simp [unpackSign, BitVec.extractLsb, Nat.shiftRight_eq_div_pow]

theorem unpackSign_packComponents (sign : Sign) (exponent : BitVec format.exponentBits)
    (mantissa : BitVec format.mantissaBitsWithoutImplicit) :
    unpackSign (packComponents format sign exponent mantissa) = sign.toBitVec := by
  apply BitVec.eq_of_getLsbD_eq
  intro i hi
  obtain rfl : i = 0 := by omega
  simp [unpackSign, packComponents, BitVec.getLsbD_append, BitVec.getElem_append]

/-- A number has no sign if its sign bit says so, and with the last exponent, which is that of
infinity and of none, it has no mantissa. -/
theorem isUnsigned_unpack (bits : BitVec format.numBits) :
    isUnsigned (unpack format bits) = true ↔
      unpackSign bits = 0#1 ∧ (unpackExponent bits = -1#_ → unpackMantissa bits = 0#_) := by
  by_cases hsign : unpackSign bits = 0#1
  · have hpositive : Sign.ofBitVec (unpackSign bits) = .positive := if_pos hsign
    rw [unpack, hpositive]
    simp only [hsign, true_and]
    split
    · split <;> simp_all [isUnsigned]
    · split
      · split <;> simp_all [isUnsigned]
      · simp_all [isUnsigned]
  · have hnegative : Sign.ofBitVec (unpackSign bits) = .negative := if_neg hsign
    rw [unpack, hnegative]
    simp only [hsign, false_and, iff_false]
    split
    · split <;> exact Bool.false_ne_true
    · split
      · split <;> exact Bool.false_ne_true
      · exact Bool.false_ne_true

/-- The sign of a number, its exponent and its mantissa are the digits of its bits. Without a sign,
and with a mantissa only below the last exponent, they make up the last exponent at most. -/
theorem digits_iff_le {bits one exponents : ℕ} (hone : 0 < one) (hexponents : 0 < exponents)
    (hlt : bits < 2 * exponents * one) :
    (bits / one / exponents % 2 = 0 ∧
      (bits / one % exponents = exponents - 1 → bits % one = 0)) ↔
    bits ≤ (exponents - 1) * one := by
  have hsplit : one * (bits / one) + bits % one = bits := Nat.div_add_mod bits one
  have hrest : bits % one < one := Nat.mod_lt bits hone
  have hquotient : bits / one < 2 * exponents := Nat.div_lt_of_lt_mul (by rwa [Nat.mul_comm])
  have hlast : bits / one = exponents - 1 → bits = (exponents - 1) * one + bits % one := by
    intro heq
    rw [← heq, Nat.mul_comm, hsplit]
  constructor
  · rintro ⟨hsign, hmantissa⟩
    -- a second run through the exponents would set the sign
    have hbelow : bits / one < exponents := by
      rcases Nat.lt_or_ge (bits / one) exponents with h | h
      · exact h
      · rw [Nat.div_eq_of_lt_le (k := 1) (by omega) (by omega)] at hsign
        cases hsign
    rw [Nat.mod_eq_of_lt hbelow] at hmantissa
    rcases Nat.lt_or_ge (bits / one + 1) exponents with h | h
    · have hle : (bits / one + 1) * one ≤ (exponents - 1) * one :=
        Nat.mul_le_mul_right one (by omega)
      rw [Nat.add_mul, Nat.one_mul, Nat.mul_comm (bits / one)] at hle
      omega
    · have heq : bits / one = exponents - 1 := by omega
      have := hlast heq
      rw [hmantissa heq] at this
      exact this.le
  · intro hle
    have hquotient : bits / one ≤ exponents - 1 := Nat.div_le_of_le_mul (by rwa [Nat.mul_comm])
    have hbelow : bits / one < exponents := by omega
    rw [Nat.div_eq_of_lt hbelow, Nat.mod_eq_of_lt hbelow]
    refine ⟨rfl, fun heq => ?_⟩
    have := hlast heq
    omega

/-- All bits of a number without a sign are a magnitude, which is that of infinity at most. -/
theorem isUnsigned_unpack_iff (bits : BitVec format.numBits) :
    isUnsigned (unpack format bits) = true ↔
      bits.toNat ≤ (2 ^ format.exponentBits - 1) * 2 ^ format.mantissaBitsWithoutImplicit := by
  have hlt : bits.toNat <
      2 * 2 ^ format.exponentBits * 2 ^ format.mantissaBitsWithoutImplicit := by
    rw [← Nat.pow_succ', ← Nat.pow_add, Nat.succ_eq_one_add]
    exact bits.isLt
  rw [← digits_iff_le (Nat.two_pow_pos _) (Nat.two_pow_pos _) hlt, isUnsigned_unpack,
    ← BitVec.toNat_inj, ← BitVec.toNat_inj, ← BitVec.toNat_inj, toNat_unpackSign,
    toNat_unpackExponent, toNat_unpackMantissa, BitVec.neg_one_eq_allOnes, BitVec.toNat_allOnes,
    BitVec.toNat_ofNat, BitVec.toNat_ofNat, Nat.zero_mod, Nat.zero_mod, Nat.pow_add,
    Nat.div_div_eq_div_mul]

/-! ### Sums -/

/-- Exponents below the last are not written with ones only. -/
theorem ofNat_ne_neg_one {width n : ℕ} (h : n + 1 < 2 ^ width) : BitVec.ofNat width n ≠ -1#_ := by
  rw [Ne, ← BitVec.toNat_inj, BitVec.neg_one_eq_allOnes, BitVec.toNat_allOnes, BitVec.toNat_ofNat,
    Nat.mod_eq_of_lt (by omega)]
  omega

theorem isUnsigned_unpack_pack (h : isUnsigned f = true) :
    isUnsigned (unpack format (pack format f)) = true := by
  have hcomponents : ∀ exponent mantissa, (exponent = -1#_ → mantissa = 0#_) →
      isUnsigned (unpack format (packComponents format .positive exponent mantissa)) = true := by
    intro exponent mantissa hnumber
    rw [isUnsigned_unpack, unpackSign_packComponents,
      UnpackedFloat.unpackExponent_packComponents, UnpackedFloat.unpackMantissa_packComponents]
    exact ⟨rfl, hnumber⟩
  cases f with
  | notANumber => cases h
  | infinity sign =>
    cases sign with
    | negative => cases h
    | positive => exact hcomponents _ _ fun _ => rfl
  | zero sign =>
    cases sign with
    | negative => cases h
    | positive => exact hcomponents _ _ fun _ => rfl
  | finite sign mantissa exponent hpos =>
    cases sign with
    | negative => cases h
    | positive =>
      rw [pack]
      split
      · exact hcomponents _ _ fun _ => rfl
      next hfits =>
        -- what does not overflow to infinity has an exponent that is not yet the last
        have hlast := ofNat_ne_neg_one (Nat.not_le.mp hfits)
        have hfirst := ofNat_ne_neg_one (Nat.one_lt_two_pow format.he.ne')
        split
        · exact hcomponents _ _ fun heq => absurd heq hlast
        · exact hcomponents _ _ fun heq => absurd heq hfirst

theorem isUnsigned_round (mantissa : Nat) (exponent : Int) :
    isUnsigned (UnpackedFloat.round format .positive mantissa exponent) = true := by
  simp only [UnpackedFloat.round, UnpackedFloat.roundWithAccuracy]
  split <;> rfl

/-- Without a sign there is nothing to cancel: not even infinities do. -/
theorem isUnsigned_add (hf : isUnsigned f = true) (hg : isUnsigned g = true) :
    isUnsigned (UnpackedFloat.add format f g) = true := by
  match f, g with
  | .infinity .positive, .infinity .positive
  | .infinity .positive, .zero .positive
  | .infinity .positive, .finite .positive _ _ _
  | .zero .positive, .infinity .positive
  | .zero .positive, .zero .positive
  | .zero .positive, .finite .positive _ _ _
  | .finite .positive _ _ _, .infinity .positive
  | .finite .positive _ _ _, .zero .positive => rfl
  | .finite .positive _ _ _, .finite .positive _ _ _ =>
    simp only [UnpackedFloat.add, UnpackedFloat.normalize, Sign.apply]
    split
    next hnegative =>
      have := Int.compare_eq_lt.mp hnegative
      omega
    next => rfl
    next => exact isUnsigned_round _ _

/-! ### The order -/

/-- The place of a number without a sign in the order: zero comes first and infinity last, and in
between first the exponents count and then the mantissas. -/
def rank : UnpackedFloat → ℕ ×ₗ ℤ ×ₗ ℕ
  | .finite _ mantissa exponent _ => toLex (1, toLex (exponent, mantissa))
  | .infinity _ => toLex (2, toLex (0, 0))
  | .zero _ | .notANumber => toLex (0, toLex (0, 0))

theorem compare_of_isUnsigned (hf : isUnsigned f = true) (hg : isUnsigned g = true) :
    f.compare g = some (compare (rank f) (rank g)) := by
  match f, g with
  | .infinity .positive, .infinity .positive
  | .infinity .positive, .zero .positive
  | .infinity .positive, .finite .positive _ _ _
  | .zero .positive, .infinity .positive
  | .zero .positive, .zero .positive
  | .zero .positive, .finite .positive _ _ _
  | .finite .positive _ _ _, .infinity .positive
  | .finite .positive _ _ _, .zero .positive
  -- two positive numbers are compared by exponents first, as pairs are
  | .finite .positive _ _ _, .finite .positive _ _ _ => rfl

/-- A number that is more than nothing has no sign. -/
theorem isUnsigned_of_pos {x : Float32} (h : 0 < x) : isUnsigned x.toModel.unpack = true := by
  have hlt : (UnpackedFloat.compare (.zero .positive) x.toModel.unpack == some .lt) = true :=
    of_decide_eq_true h
  cases hx : x.toModel.unpack with
  | notANumber => rw [hx] at hlt; cases hlt
  | zero sign => rw [hx] at hlt; cases hlt
  | infinity sign | finite sign =>
    rw [hx] at hlt
    cases sign with
    | positive => rfl
    | negative => cases hlt

/-- The exact value of a number without a sign is not none, and has no sign. -/
theorem value_of_isUnsigned {x : Float32} (h : isUnsigned x.toModel.unpack = true) :
    value x = .infinite false ∨
      ∃ significand exponent, value x = .finite false significand exponent := by
  have hle : x.toBits.toNat ≤ 0x7F800000 := (isUnsigned_unpack_iff _).mp h
  have hbound : Binary.single.infinityBits = 0x7F800000 := by decide
  have hsign : Binary.single.signBit = 0x80000000 := by decide
  rw [value, Binary.Format.decode, hbound, hsign, Nat.mod_eq_of_lt (by omega)]
  have hpositive : decide (0x80000000 ≤ x.toBits.toNat) = false := decide_eq_false (by omega)
  simp only [hpositive, if_neg (show ¬0x7F800000 < x.toBits.toNat by omega)]
  split
  · exact .inl rfl
  · split <;> exact .inr ⟨_, _, rfl⟩

end Single

namespace Double

open Single (isUnsigned)

variable {x y : Float}

/-- A number is neither negative nor none. -/
def IsUnsigned (x : Float) : Prop := isUnsigned x.toModel.unpack = true

instance (x : Float) : Decidable (IsUnsigned x) :=
  inferInstanceAs (Decidable (isUnsigned x.toModel.unpack = true))

/-- The place of a number without a sign in the order. -/
def rank (x : Float) : ℕ ×ₗ ℤ ×ₗ ℕ := Single.rank x.toModel.unpack

theorem isUnsigned_zero : IsUnsigned 0 := by decide

theorem isUnsigned_ofBits {bits : Nat} (h : bits ≤ 0x7FF0000000000000) :
    IsUnsigned (.ofBits (.ofNat bits)) := by
  refine Single.isUnsigned_unpack_pack ((Single.isUnsigned_unpack_iff _).mpr ?_)
  have hbits : (UInt64.ofNat bits).toNat = bits :=
    UInt64.toNat_ofNat_of_lt' (h.trans_lt (by decide))
  exact hbits.trans_le h

theorem IsUnsigned.add (hx : IsUnsigned x) (hy : IsUnsigned y) : IsUnsigned (x + y) :=
  Single.isUnsigned_unpack_pack (Single.isUnsigned_add hx hy)

theorem isUnsigned_ofRatio (num den : Nat) : IsUnsigned (ofRatio false num den) := by
  have hbound : Binary.double.infinityBits = 0x7FF0000000000000 := by decide
  refine isUnsigned_ofBits ?_
  simp only [Binary.Format.ofRatio, hbound]
  exact Nat.zero_add _ ▸ Nat.min_le_right _ _

theorem isUnsigned_ofSingle {x : Float32} (h : isUnsigned x.toModel.unpack = true) :
    IsUnsigned (ofSingle x) := by
  rw [ofSingle]
  rcases Single.value_of_isUnsigned h with hx | ⟨significand, exponent, hx⟩
  · rw [hx]
    exact isUnsigned_ofBits le_rfl
  · rw [hx]
    exact isUnsigned_ofRatio _ _

theorem IsUnsigned.lt_iff (hx : IsUnsigned x) (hy : IsUnsigned y) : x < y ↔ rank x < rank y := by
  have hlt : x < y ↔ (x.toModel.unpack.compare y.toModel.unpack == some .lt) = true :=
    ⟨of_decide_eq_true, decide_eq_true⟩
  rw [hlt, Single.compare_of_isUnsigned hx hy, beq_iff_eq, Option.some_inj]
  exact compare_lt_iff_lt

theorem IsUnsigned.le_iff (hx : IsUnsigned x) (hy : IsUnsigned y) : x ≤ y ↔ rank x ≤ rank y := by
  have hle : x ≤ y ↔ (x.toModel.unpack.compare y.toModel.unpack).any (·.isLE) = true :=
    ⟨of_decide_eq_true, decide_eq_true⟩
  rw [hle, Single.compare_of_isUnsigned hx hy, Option.any_some, Ordering.isLE_iff_ne_gt]
  exact compare_le_iff_le

end Double

end Uiml
