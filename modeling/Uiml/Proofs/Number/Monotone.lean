import Uiml.Proofs.Number.Nearest
import Uiml.Proofs.Number.Share

/-!
# Arithmetic keeps the order

When more is taken from the same number, less is left, and the greater share is that of the greater
number: to be rounded does not turn such an order around, nor does it when a result is so great that
it becomes infinity. Some results need no rounding at all, such as what is left of a number when it
is taken from itself.

## Main results

* `Single.sub_le_sub_right`, `Single.sub_le_sub_left`, `Single.div_le_div_right` — differences and
  quotients are in order as the numbers are
* `Single.sub_self`, `Single.zero_div`, `Single.div_self` — results that are exact
* `Single.within_share`, `Single.share_le_share` — shares of a range lie between zero and one and
  grow with the number
-/

namespace Uiml.Single

open Float.Model (UnpackedFloat Format)
open Float.Model.UnpackedFloat (Sign pack unpack packComponents)

variable {f f' g g' : UnpackedFloat} {s : Sign} {m : ℕ} {e : ℤ} {x x' y y' d lo hi : Float32}

/-! ### Before a result is packed -/

theorem place_sub_le_right (hf : IsNormal f) (hf' : IsNormal f') (hg : IsNormal g)
    (hff : f.isFinite = true) (hff' : f'.isFinite = true) (hgf : g.isFinite = true)
    (hle : place f ≤ place f') :
    place (UnpackedFloat.sub .binary32 f g) ≤ place (UnpackedFloat.sub .binary32 f' g) := by
  rcases hle.lt_or_eq with hlt | heq
  · exact (isNearest_sub hff hgf).place_le (isNearest_sub hff' hgf) (isNormal_sub hf hg)
      (isNormal_sub hf' hg) (isFinite_difference hff hgf) (isFinite_difference hff' hgf)
      (sub_lt_sub_right (toRat_lt_of_place_lt hf hf' hff hff' hlt) _)
  · rcases eq_or_zero_of_place_eq hff hff' heq with rfl | ⟨r, r', rfl, rfl⟩
    · exact le_rfl
    · -- what is taken from zero does not depend on the sign of the zero
      cases g with
      | notANumber | infinity => cases hgf
      | zero r'' => cases r <;> cases r' <;> cases r'' <;> exact le_rfl
      | finite => exact le_rfl

theorem place_sub_le_left (hf : IsNormal f) (hg : IsNormal g) (hg' : IsNormal g')
    (hff : f.isFinite = true) (hgf : g.isFinite = true) (hgf' : g'.isFinite = true)
    (hle : place g ≤ place g') :
    place (UnpackedFloat.sub .binary32 f g') ≤ place (UnpackedFloat.sub .binary32 f g) := by
  rcases hle.lt_or_eq with hlt | heq
  · exact (isNearest_sub hff hgf').place_le (isNearest_sub hff hgf) (isNormal_sub hf hg')
      (isNormal_sub hf hg) (isFinite_difference hff hgf') (isFinite_difference hff hgf)
      (sub_lt_sub_left (toRat_lt_of_place_lt hg hg' hgf hgf' hlt) _)
  · rcases eq_or_zero_of_place_eq hgf hgf' heq with rfl | ⟨r, r', rfl, rfl⟩
    · exact le_rfl
    · cases f with
      | notANumber | infinity => cases hff
      | zero r'' => cases r <;> cases r' <;> cases r'' <;> exact le_rfl
      | finite => exact le_rfl

theorem place_div_le (hf : IsNormal f) (hf' : IsNormal f') (hff : f.isFinite = true)
    (hff' : f'.isFinite = true) (hgf : g.isFinite = true) (hpos : 0 < toRat g)
    (hle : place f ≤ place f') :
    place (UnpackedFloat.div .binary32 f g) ≤ place (UnpackedFloat.div .binary32 f' g) := by
  have hzero (s : Sign) : g ≠ .zero s := by
    rintro rfl
    exact lt_irrefl _ hpos
  rcases hle.lt_or_eq with hlt | heq
  · exact (isNearest_div hff hgf hzero).place_le (isNearest_div hff' hgf hzero)
      (isNormal_quotient hff hgf hzero) (isNormal_quotient hff' hgf hzero)
      (isFinite_quotient hff hgf hzero) (isFinite_quotient hff' hgf hzero)
      (div_lt_div_of_pos_right (toRat_lt_of_place_lt hf hf' hff hff' hlt) hpos)
  · rcases eq_or_zero_of_place_eq hff hff' heq with rfl | ⟨r, r', rfl, rfl⟩
    · exact le_rfl
    · cases g with
      | notANumber | infinity => cases hgf
      | zero r'' => exact absurd rfl (hzero r'')
      | finite => exact le_rfl

/-! ### When a result is packed -/

/-- What has too great an exponent is packed as infinity. -/
theorem unpack_pack_of_not_fits (hm : 0 < m) (hfits : ¬e ≤ 104) :
    unpack .binary32 (pack .binary32 (.finite s m e hm)) = .infinity s := by
  have hexponents : (2 : ℕ) ^ Format.binary32.exponentBits = 256 := rfl
  have hbits : ((Format.binary32.mantissaBitsWithoutImplicit : ℕ) : ℤ) = 23 := rfl
  rw [pack]
  simp only [exponentBias_eq, hexponents, hbits]
  rw [if_pos (by omega)]
  cases s <;> rfl

/-- Nothing lies before negative infinity. -/
theorem le_place (f : UnpackedFloat) : place (.infinity .negative) ≤ place f := by
  cases f with
  | notANumber => decide
  | infinity s | zero s => cases s <;> decide
  | finite s => cases s <;> simp [place, Prod.Lex.toLex_le_toLex]

/-- Where on the line something is packed: numbers with too great an exponent are at its ends. -/
def packedPlace (p : ℤ ×ₗ ℤ ×ₗ ℤ) : ℤ ×ₗ ℤ ×ₗ ℤ :=
  if toLex (1, toLex (105, 0)) ≤ p then place (.infinity .positive)
  else if p ≤ toLex (-1, toLex (-105, 0)) then place (.infinity .negative)
  else p

theorem packedPlace_le {p q : ℤ ×ₗ ℤ ×ₗ ℤ} (hp : place (.infinity .negative) ≤ p)
    (hq : q ≤ place (.infinity .positive)) (hle : p ≤ q) : packedPlace p ≤ packedPlace q := by
  rw [packedPlace, packedPlace]
  by_cases htop : toLex (1, toLex (105, 0)) ≤ p
  · rw [if_pos htop, if_pos (htop.trans hle)]
  · rw [if_neg htop]
    by_cases hbottom : q ≤ toLex (-1, toLex (-105, 0))
    · have htop' : ¬toLex (1, toLex (105, 0)) ≤ q := fun h => absurd (h.trans hbottom) (by decide)
      rw [if_pos (hle.trans hbottom), if_neg htop', if_pos hbottom]
    · rw [if_neg hbottom]
      split_ifs
      · exact place_le _
      · exact hp.trans hle
      · exact hle.trans hq
      · exact hle

theorem place_unpack_pack (hf : IsNormal f) :
    place (unpack .binary32 (pack .binary32 f)) = packedPlace (place f) := by
  cases f with
  | notANumber => rfl
  | infinity s | zero s => cases s <;> rfl
  | finite s m e hm =>
    have hpositive : (0 : ℤ) < m := by exact_mod_cast hm
    rw [packedPlace]
    by_cases hfits : e ≤ 104
    · rw [unpack_pack hf hfits]
      cases s <;> simp [place, Prod.Lex.toLex_le_toLex] <;> omega
    · rw [unpack_pack_of_not_fits hm hfits]
      cases s <;> simp [place, Prod.Lex.toLex_le_toLex] <;> omega

/-- To be packed does not turn the order around. -/
theorem place_unpack_pack_le (hf : IsNormal f) (hg : IsNormal g) (hle : place f ≤ place g) :
    place (unpack .binary32 (pack .binary32 f)) ≤ place (unpack .binary32 (pack .binary32 g)) := by
  rw [place_unpack_pack hf, place_unpack_pack hg]
  exact packedPlace_le (le_place f) (place_le g) hle

/-! ### Differences and quotients -/

theorem isNaN_sub_of_isFinite (hx : x.isFinite = true) (hy : y.isFinite = true) :
    (x - y).isNaN = false :=
  (isNaN_sub_eq x y).trans (isNaN_of_isFinite (isFinite_difference hx hy))

/-- From the greater number the same leaves more. -/
protected theorem sub_le_sub_right (hx : x.isFinite = true) (hx' : x'.isFinite = true)
    (hy : y.isFinite = true) (hle : x ≤ x') : x - y ≤ x' - y := by
  have hplaces := (Single.le_iff (isNaN_of_isFinite hx) (isNaN_of_isFinite hx')).mp hle
  rw [Single.le_iff (isNaN_sub_of_isFinite hx hy) (isNaN_sub_of_isFinite hx' hy)]
  exact place_unpack_pack_le (isNormal_sub (isNormal x).1 (isNormal y).1)
    (isNormal_sub (isNormal x').1 (isNormal y).1)
    (place_sub_le_right (isNormal x).1 (isNormal x').1 (isNormal y).1 hx hx' hy hplaces)

/-- From the same number the greater one leaves less. -/
protected theorem sub_le_sub_left (hx : x.isFinite = true) (hy : y.isFinite = true)
    (hy' : y'.isFinite = true) (hle : y ≤ y') : x - y' ≤ x - y := by
  have hplaces := (Single.le_iff (isNaN_of_isFinite hy) (isNaN_of_isFinite hy')).mp hle
  rw [Single.le_iff (isNaN_sub_of_isFinite hx hy') (isNaN_sub_of_isFinite hx hy)]
  exact place_unpack_pack_le (isNormal_sub (isNormal x).1 (isNormal y').1)
    (isNormal_sub (isNormal x).1 (isNormal y).1)
    (place_sub_le_left (isNormal x).1 (isNormal y).1 (isNormal y').1 hx hy hy' hplaces)

theorem toRat_pos (hd : 0 < d) (hfinite : d.isFinite = true) : 0 < toRat d.toModel.unpack := by
  have hplaces := (Single.lt_iff rfl (isNaN_of_isFinite hfinite)).mp hd
  exact toRat_lt_of_place_lt (isNormal 0).1 (isNormal d).1 rfl hfinite hplaces

/-- The greater number has the greater share. -/
protected theorem div_le_div_right (hx : x.isFinite = true) (hx' : x'.isFinite = true)
    (hd : 0 < d) (hfinite : d.isFinite = true) (hle : x ≤ x') : x / d ≤ x' / d := by
  have hpos := toRat_pos hd hfinite
  have hzero (s : Sign) : d.toModel.unpack ≠ .zero s := fun h => by
    rw [h] at hpos
    exact lt_irrefl _ hpos
  have hnumber {n : Float32} (hn : n.isFinite = true) : (n / d).isNaN = false :=
    (isNaN_div_eq n d).trans (isNaN_of_isFinite (isFinite_quotient hn hfinite hzero))
  have hplaces := (Single.le_iff (isNaN_of_isFinite hx) (isNaN_of_isFinite hx')).mp hle
  rw [Single.le_iff (hnumber hx) (hnumber hx')]
  exact place_unpack_pack_le (isNormal_quotient hx hfinite hzero)
    (isNormal_quotient hx' hfinite hzero)
    (place_div_le (isNormal x).1 (isNormal x').1 hx hx' hfinite hpos hplaces)

/-- Nothing is left of a number that is taken from itself. -/
protected theorem sub_self (hx : x.isFinite = true) : x - x = 0 := by
  have hunpacked : UnpackedFloat.sub .binary32 x.toModel.unpack x.toModel.unpack =
      .zero .positive := by
    change x.toModel.unpack.isFinite = true at hx
    generalize x.toModel.unpack = f at hx ⊢
    cases f with
    | notANumber | infinity => cases hx
    | zero s => cases s <;> rfl
    | finite s m e hm =>
      rw [sub_finite, Int.sub_self]
      rfl
  change Float32.ofModel (.pack _) = _
  rw [hunpacked]
  rfl

/-- Zero has no share in a positive number. -/
protected theorem zero_div (hd : 0 < d) (hfinite : d.isFinite = true) : 0 / d = 0 := by
  have hpos := toRat_pos hd hfinite
  have hunpacked : UnpackedFloat.div .binary32 (.zero .positive) d.toModel.unpack =
      .zero .positive := by
    change d.toModel.unpack.isFinite = true at hfinite
    generalize d.toModel.unpack = g at hpos hfinite ⊢
    cases g with
    | notANumber | infinity => cases hfinite
    | zero => exact absurd hpos (lt_irrefl _)
    | finite s m e hm =>
      cases s with
      | positive => rfl
      | negative =>
        rw [toRat_negative] at hpos
        linarith [mul_zpow_pos hm e]
  change Float32.ofModel (.pack _) = _
  rw [unpack_zero, hunpacked]
  rfl

theorem toRat_one : toRat one = 1 := by norm_num [toRat, one, unit]

/-- A positive number is the whole of itself. -/
protected theorem div_self (hd : 0 < d) (hfinite : d.isFinite = true) : d / d = 1 := by
  have hpos := toRat_pos hd hfinite
  have hzero (s : Sign) : d.toModel.unpack ≠ .zero s := fun h => by
    rw [h] at hpos
    exact lt_irrefl _ hpos
  -- one is the exact quotient, and no number but itself is as near to it
  have hnearest := isNearest_div hfinite hfinite hzero
  have hnormal := isNormal_quotient hfinite hfinite hzero
  have hquotient := isFinite_quotient hfinite hfinite hzero
  rw [(div_eq_one_iff_eq hpos.ne').mpr rfl, ← toRat_one] at hnearest
  have hvalue := hnearest.toRat_eq (isNormal 1).1 rfl
  have hplace := le_antisymm ((toRat_le_iff hnormal (isNormal 1).1 hquotient rfl).mp hvalue.le)
    ((toRat_le_iff (isNormal 1).1 hnormal rfl hquotient).mp hvalue.ge)
  change Float32.ofModel (.pack _) = _
  rcases eq_or_zero_of_place_eq hquotient rfl hplace with hone | ⟨-, s, -, hone⟩
  · rw [hone]
    rfl
  · cases hone

/-! ### Shares of a range -/

/-- The ends of the line are beyond all finite numbers. -/
theorem place_between (hf : f.isFinite = true) :
    place (.infinity .negative) < place f ∧ place f < place (.infinity .positive) := by
  cases f with
  | notANumber | infinity => cases hf
  | zero => exact ⟨of_decide_eq_true rfl, of_decide_eq_true rfl⟩
  | finite s => cases s <;> simp [place, Prod.Lex.toLex_lt_toLex]

/-- What lies between finite numbers is finite. -/
theorem isFinite_of_within (hlo : lo.isFinite = true) (hhi : hi.isFinite = true)
    (h : Within lo hi x) : x.isFinite = true := by
  have hnan : x.toModel.unpack.isNaN = false := h.isNaN_eq
  have hbelow := (Single.le_iff (isNaN_of_isFinite hlo) hnan).mp h.1
  have habove := (Single.le_iff hnan (isNaN_of_isFinite hhi)).mp h.2
  have hfirst := (place_between hlo).1.trans_le hbelow
  have hlast := habove.trans_lt (place_between hhi).2
  change x.toModel.unpack.isFinite = true
  generalize x.toModel.unpack = f at hnan hfirst hlast ⊢
  cases f with
  | notANumber => cases hnan
  | zero | finite => rfl
  | infinity s =>
    cases s with
    | negative => exact absurd hfirst (lt_irrefl _)
    | positive => exact absurd hlast (lt_irrefl _)

/-- A range that holds more than one number is longer than nothing. -/
protected theorem sub_pos (hlo : lo.isFinite = true) (hhi : hi.isFinite = true) (h : lo < hi) :
    0 < hi - lo := by
  have hnan := isNaN_sub_of_isFinite hhi hlo
  have hle : 0 ≤ hi - lo := by
    rw [← Single.sub_self hlo]
    exact Single.sub_le_sub_right hlo hhi hlo (Single.le_of_lt h)
  rw [Single.le_iff rfl hnan] at hle
  rw [Single.lt_iff rfl hnan]
  refine lt_of_le_of_ne hle fun heq => ?_
  change (hi - lo).toModel.unpack.isNaN = false at hnan
  have hzero := sub_unpack_ne_zero h
  rw [unpack_zero] at heq
  generalize (hi - lo).toModel.unpack = f at hnan hzero heq
  cases f with
  | notANumber => cases hnan
  | zero s => exact hzero s rfl
  | infinity s | finite s => cases s <;> simp [place] at heq

section Share

variable (hlo : lo.isFinite = true) (hhi : hi.isFinite = true) (hrange : lo < hi)
  (hlength : (hi - lo).isFinite = true)

include hlo hhi

/-- How far numbers in a range are from its start: no farther than the range is long, and the
farther the greater they are. -/
theorem within_sub (hx : Within lo hi x) : Within 0 (hi - lo) (x - lo) := by
  have hxf := isFinite_of_within hlo hhi hx
  refine ⟨?_, Single.sub_le_sub_right hxf hhi hlo hx.2⟩
  rw [← Single.sub_self hlo]
  exact Single.sub_le_sub_right hlo hxf hlo hx.1

include hrange hlength

theorem within_share (hx : Within lo hi x) : Within 0 1 ((x - lo) / (hi - lo)) := by
  have hpos := Single.sub_pos hlo hhi hrange
  have hdistance := within_sub hlo hhi hx
  have hfinite := isFinite_of_within rfl hlength hdistance
  refine ⟨?_, ?_⟩
  · rw [← Single.zero_div hpos hlength]
    exact Single.div_le_div_right rfl hfinite hpos hlength hdistance.1
  · rw [← Single.div_self hpos hlength]
    exact Single.div_le_div_right hfinite hlength hpos hlength hdistance.2

theorem share_le_share (hx : Within lo hi x) (hx' : Within lo hi x') (hle : x ≤ x') :
    (x - lo) / (hi - lo) ≤ (x' - lo) / (hi - lo) := by
  have hxf := isFinite_of_within hlo hhi hx
  have hxf' := isFinite_of_within hlo hhi hx'
  refine Single.div_le_div_right (isFinite_of_within rfl hlength (within_sub hlo hhi hx))
    (isFinite_of_within rfl hlength (within_sub hlo hhi hx')) (Single.sub_pos hlo hhi hrange)
    hlength ?_
  exact Single.sub_le_sub_right hxf hxf' hlo hle

/-- The start of a range is no share of it, and its end is the whole. -/
theorem share_ends : (lo - lo) / (hi - lo) = 0 ∧ (hi - lo) / (hi - lo) = 1 := by
  have hpos := Single.sub_pos hlo hhi hrange
  rw [Single.sub_self hlo]
  exact ⟨Single.zero_div hpos hlength, Single.div_self hpos hlength⟩

end Share

end Uiml.Single
