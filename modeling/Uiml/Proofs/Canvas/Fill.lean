import Uiml.Proofs.Canvas.Bar
import Uiml.Proofs.Number.Monotone

/-!
# Fills

The fill of a progress bar starts from one end of its area and reaches as far as the value has gone
through the range. It lies in the area and grows with the value, from nothing to the whole, as long
as the range is not so long that its length is infinite. If it is, the fill is lost as soon as the
value is at an infinite distance from the start too.

## Main definitions

* `SliderDirection.fill`, `SliderDirection.extent` — the anchors of a fill that shows a share, and
  how far anchors reach along a direction
* `InSquare`, `Covers` — anchors lie in the unit square, or around others

## Main results

* `SliderDirection.covers_fill`, `SliderDirection.extent_fill_le` — fills grow with what they show
* `fillAnchors_grow` — the fill of a range that is not too long, and what becomes of the others
-/

namespace Uiml

open Single (Within)

/-- The greatest finite number. -/
def Single.greatest : Float32 := .ofBits 0x7F7FFFFF

variable {lo hi v w t t' : Float32} {direction : SliderDirection}

/-- Anchors mark a part of the unit square, the one corner nowhere beyond the other. -/
def InSquare (anchors : Vec2 × Vec2) : Prop :=
  (Within 0 1 anchors.1.x ∧ Within 0 1 anchors.1.y) ∧
    (Within 0 1 anchors.2.x ∧ Within 0 1 anchors.2.y) ∧
    anchors.1.x ≤ anchors.2.x ∧ anchors.1.y ≤ anchors.2.y

/-- What anchors mark holds all that others do. -/
def Covers (outer inner : Vec2 × Vec2) : Prop :=
  (outer.1.x ≤ inner.1.x ∧ outer.1.y ≤ inner.1.y) ∧
    inner.2.x ≤ outer.2.x ∧ inner.2.y ≤ outer.2.y

namespace SliderDirection

/-- The anchors of a fill that shows a share of the whole. -/
def fill (direction : SliderDirection) (t : Float32) : Vec2 × Vec2 :=
  match direction with
  | .leftToRight => (⟨0, 0⟩, ⟨t, 1⟩)
  | .rightToLeft => (⟨1 - t, 0⟩, ⟨1, 1⟩)
  | .bottomToTop => (⟨0, 0⟩, ⟨1, t⟩)
  | .topToBottom => (⟨0, 1 - t⟩, ⟨1, 1⟩)

/-- How far anchors reach along the axis of a direction. -/
def extent (direction : SliderDirection) (anchors : Vec2 × Vec2) : Float32 :=
  match direction with
  | .leftToRight | .rightToLeft => anchors.2.x - anchors.1.x
  | .bottomToTop | .topToBottom => anchors.2.y - anchors.1.y

/-- The fill of a greater share lies around that of a lesser one. -/
theorem covers_fill (ht : t.isFinite = true) (ht' : t'.isFinite = true) (hle : t ≤ t') :
    Covers (direction.fill t') (direction.fill t) := by
  have hrest : 1 - t' ≤ 1 - t := Single.sub_le_sub_left rfl ht ht' hle
  have hzero : (0 : Float32) ≤ 0 := by decide
  have hone : (1 : Float32) ≤ 1 := by decide
  cases direction
  case leftToRight => exact ⟨⟨hzero, hzero⟩, hle, hone⟩
  case rightToLeft => exact ⟨⟨hrest, hzero⟩, hone, hone⟩
  case bottomToTop => exact ⟨⟨hzero, hzero⟩, hone, hle⟩
  case topToBottom => exact ⟨⟨hzero, hrest⟩, hone, hone⟩

/-- The fill of a greater share reaches farther. -/
theorem extent_fill_le (ht : Within 0 1 t) (ht' : Within 0 1 t') (hle : t ≤ t') :
    direction.extent (direction.fill t) ≤ direction.extent (direction.fill t') := by
  have hfinite {n : Float32} (hn : Within 0 1 n) : n.isFinite = true :=
    Single.isFinite_of_within rfl rfl hn
  have hrest : 1 - t' ≤ 1 - t := Single.sub_le_sub_left rfl (hfinite ht) (hfinite ht') hle
  have hstart : t - 0 ≤ t' - 0 := Single.sub_le_sub_right (hfinite ht) (hfinite ht') rfl hle
  have hend : 1 - (1 - t) ≤ 1 - (1 - t') :=
    Single.sub_le_sub_left rfl (hfinite (Single.within_one_sub ht'))
      (hfinite (Single.within_one_sub ht)) hrest
  cases direction
  case leftToRight | bottomToTop => exact hstart
  case rightToLeft | topToBottom => exact hend

/-- No share fills nothing, and the whole fills everything. -/
theorem extent_fill_ends (direction : SliderDirection) :
    direction.extent (direction.fill 0) = 0 ∧ direction.extent (direction.fill 1) = 1 := by
  cases direction <;> decide

end SliderDirection

theorem fillAnchors_eq (hrange : lo < hi) (v : Float32) (direction : SliderDirection) :
    fillAnchors lo hi v direction =
      direction.fill (Single.clamp 0 1 ((v - lo) / (hi - lo))) := by
  have hshare : (if lo < hi then Single.clamp 0 1 ((v - lo) / (hi - lo)) else 0) =
      Single.clamp 0 1 ((v - lo) / (hi - lo)) := if_pos hrange
  rw [← hshare]
  cases direction <;> rfl

/-- The fill lies in the unit square unless it is lost. -/
theorem inSquare_fillAnchors_iff (hrange : lo < hi) (hv : v.isNaN = false) :
    InSquare (fillAnchors lo hi v direction) ↔
      (hi - lo).isFinite = true ∨ (v - lo).isFinite = true := by
  let bar : ProgressBar := ⟨⟨0⟩, lo, hi, v, direction⟩
  have hfits : InSquare (fillAnchors lo hi v direction) ↔ bar.Fits := by
    constructor
    · rintro ⟨⟨hleft, hbottom⟩, ⟨hright, htop⟩, hwidth, hheight⟩
      exact ⟨hleft, hbottom, hright, htop, hwidth, hheight⟩
    · rintro ⟨hleft, hbottom, hright, htop, hwidth, hheight⟩
      exact ⟨⟨hleft, hbottom⟩, ⟨hright, htop⟩, hwidth, hheight⟩
  rw [hfits, ProgressBar.fits_iff, ProgressBar.IsLost, and_iff_right hrange, hv]
  simp only [Bool.false_eq_true, false_or, not_and_or, Bool.not_eq_false]
  exact or_comm

/-- For a finite range the fill of a value in it lies in the unit square just if one of the lengths
is finite that the share is made of: that of the range, or that of the way to the value. If the
range is not too long, the fill grows with the value in whatever direction it does, and reaches from
nothing at the start of the range to the whole at its end. -/
theorem fillAnchors_grow (hlo : lo.isFinite = true) (hhi : hi.isFinite = true) (hrange : lo < hi)
    (direction : SliderDirection) :
    (∀ v, Within lo hi v → (InSquare (fillAnchors lo hi v direction) ↔
      (hi - lo).isFinite = true ∨ (v - lo).isFinite = true)) ∧
    ((hi - lo).isFinite = true →
      (∀ v w, Within lo hi v → Within lo hi w → v ≤ w →
        Covers (fillAnchors lo hi w direction) (fillAnchors lo hi v direction) ∧
          direction.extent (fillAnchors lo hi v direction) ≤
            direction.extent (fillAnchors lo hi w direction)) ∧
      direction.extent (fillAnchors lo hi lo direction) = 0 ∧
      direction.extent (fillAnchors lo hi hi direction) = 1) := by
  refine ⟨fun v hv => inSquare_fillAnchors_iff hrange hv.isNaN_eq, fun hlength => ?_⟩
  have hshare {v : Float32} (hv : Within lo hi v) : fillAnchors lo hi v direction =
      direction.fill ((v - lo) / (hi - lo)) := by
    rw [fillAnchors_eq hrange,
      Single.clamp_of_within (Single.within_share hlo hhi hrange hlength hv)]
  refine ⟨fun v w hv hw hle => ?_, ?_⟩
  · have hv' := Single.within_share hlo hhi hrange hlength hv
    have hw' := Single.within_share hlo hhi hrange hlength hw
    have hle' := Single.share_le_share hlo hhi hrange hlength hv hw hle
    rw [hshare hv, hshare hw]
    exact ⟨SliderDirection.covers_fill (Single.isFinite_of_within rfl rfl hv')
      (Single.isFinite_of_within rfl rfl hw') hle', SliderDirection.extent_fill_le hv' hw' hle'⟩
  · have hstart : Within lo hi lo :=
      ⟨Single.le_refl (Single.isNaN_of_lt hrange).1, Single.le_of_lt hrange⟩
    have hend : Within lo hi hi :=
      ⟨Single.le_of_lt hrange, Single.le_refl (Single.isNaN_of_lt hrange).2⟩
    obtain ⟨hnothing, hwhole⟩ := Single.share_ends hlo hhi hrange hlength
    rw [hshare hstart, hshare hend, hnothing, hwhole]
    exact direction.extent_fill_ends

/-- A bar from zero to ten that is filled from its top. -/
theorem fillAnchors_grow_ten :
    (0 : Float32).isFinite = true ∧ (10 : Float32).isFinite = true ∧ (0 : Float32) < 10 ∧
      InSquare (fillAnchors 0 10 2 .topToBottom) ∧
      Covers (fillAnchors 0 10 5 .topToBottom) (fillAnchors 0 10 2 .topToBottom) := by
  have hrange : (0 : Float32) < 10 := by decide
  have hlength : ((10 : Float32) - 0).isFinite = true := by decide
  obtain ⟨hsquare, hgrow⟩ := fillAnchors_grow rfl rfl hrange .topToBottom
  refine ⟨rfl, rfl, hrange, (hsquare 2 (by decide)).mpr (.inl hlength), ?_⟩
  exact ((hgrow hlength).1 2 5 (by decide) (by decide) (by decide)).1

/-- Between the least and the greatest finite number the fill is lost at the end of the range. -/
theorem not_inSquare_fillAnchors :
    (-Single.greatest).isFinite = true ∧ Single.greatest.isFinite = true ∧
      -Single.greatest < Single.greatest ∧
      Within (-Single.greatest) Single.greatest Single.greatest ∧
      ¬InSquare (fillAnchors (-Single.greatest) Single.greatest Single.greatest .leftToRight) := by
  refine ⟨by decide, by decide, by decide, by decide, ?_⟩
  rw [inSquare_fillAnchors_iff (by decide) (by decide)]
  decide

end Uiml
