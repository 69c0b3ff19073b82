import Mathlib.Algebra.Order.Field.Basic
import Projector.Proofs.Axes

/-!
# Fitting and covering

A size is scaled to fit into another one or to cover it by one rule. The
height is matched, and the width then is at most the other width, or it is at
least that; if it is not what was wanted, the width is matched instead. In
exact arithmetic the second try cannot fail: with the height matched the width
is too large exactly if with the width matched the height is too small.

So what is scaled to fit is nowhere larger than the bounds, and what is scaled
to cover is nowhere smaller, also where the bounds have no area, and where the
size has none and the bounds are the answer.
-/

namespace Projector

namespace Size

variable {s bounds : Size Rat}

theorem scaled_of_isEmpty (h : s.isEmpty = true) (accepts : Rat → Rat → Bool) :
    s.scaled bounds accepts = bounds := if_pos h

/-- **A size with an area is matched in its height or in its width.** -/
theorem scaled_eq (h : s.isEmpty = false) (accepts : Rat → Rat → Bool) :
    s.scaled bounds accepts =
      if accepts (bounds.height * s.width / s.height) bounds.width then
        ⟨bounds.height * s.width / s.height, bounds.height⟩
      else ⟨bounds.width, bounds.width * s.height / s.width⟩ := by
  unfold scaled
  rw [h]
  rfl

/-- With the height matched the width is small enough exactly if with the width
matched the height is large enough. -/
theorem matched_le_iff (h : s.isEmpty = false) :
    bounds.height * s.width / s.height ≤ bounds.width ↔
      bounds.height ≤ bounds.width * s.height / s.width := by
  obtain ⟨width, height⟩ := isEmpty_eq_false_iff.1 h
  rw [div_le_iff₀ height, le_div_iff₀ width]

theorem le_matched_iff (h : s.isEmpty = false) :
    bounds.width ≤ bounds.height * s.width / s.height ↔
      bounds.width * s.height / s.width ≤ bounds.height := by
  obtain ⟨width, height⟩ := isEmpty_eq_false_iff.1 h
  rw [le_div_iff₀ height, div_le_iff₀ width]

/-- **What is scaled to fit fits**, on each axis. -/
theorem length_scaledToFit_le (s bounds : Size Rat) (axis : Axis) :
    axis.length (s.scaledToFit bounds) ≤ axis.length bounds := by
  unfold scaledToFit
  cases empty : s.isEmpty with
  | true => rw [scaled_of_isEmpty empty]
  | false =>
    rw [scaled_eq empty]
    split
    · next fits =>
      cases axis with
      | across => exact of_decide_eq_true fits
      | down => exact le_refl _
    · next wide =>
      have wide : ¬ bounds.height * s.width / s.height ≤ bounds.width :=
        fun fits => wide (decide_eq_true fits)
      cases axis with
      | across => exact le_refl _
      | down => exact (le_matched_iff empty).1 (le_of_not_ge wide)

/-- **What is scaled to cover covers**, on each axis. -/
theorem le_length_scaledToCover (s bounds : Size Rat) (axis : Axis) :
    axis.length bounds ≤ axis.length (s.scaledToCover bounds) := by
  unfold scaledToCover
  cases empty : s.isEmpty with
  | true => rw [scaled_of_isEmpty empty]
  | false =>
    rw [scaled_eq empty]
    split
    · next covers =>
      cases axis with
      | across => exact of_decide_eq_true covers
      | down => exact le_refl _
    · next narrow =>
      have narrow : ¬ bounds.width ≤ bounds.height * s.width / s.height :=
        fun covers => narrow (decide_eq_true covers)
      cases axis with
      | across => exact le_refl _
      | down => exact (matched_le_iff empty).1 (le_of_not_ge narrow)

theorem ofAspect_rat (aspect : Rat) : (ofAspect aspect : Size Rat) = ⟨aspect, 1⟩ :=
  congrArg (Size.mk aspect) (by decide +kernel)

theorem aspect_rat (area : s.isEmpty = false) : (s.aspect : Rat) = s.width / s.height :=
  if_neg (Bool.eq_false_iff.1 area)

/-- **A box fills its bounds exactly if it has their aspect.** -/
theorem scaledToFit_ofAspect_eq_iff {aspect : Rat} (h : 0 < aspect)
    (area : bounds.isEmpty = false) :
    (ofAspect aspect).scaledToFit bounds = bounds ↔ aspect = bounds.aspect := by
  obtain ⟨width, height⟩ := isEmpty_eq_false_iff.1 area
  have shape : (⟨aspect, 1⟩ : Size Rat).isEmpty = false :=
    isEmpty_eq_false_iff.2 ⟨h, zero_lt_one⟩
  unfold scaledToFit
  rw [ofAspect_rat, scaled_eq shape, aspect_rat area, eq_div_iff height.ne', mul_comm aspect]
  dsimp only
  rw [div_one, mul_one]
  split
  · exact ⟨fun same => congrArg Size.width same, fun same => by rw [same]⟩
  · next wide =>
    have wide : ¬ bounds.height * aspect ≤ bounds.width := fun fits => wide (decide_eq_true fits)
    refine ⟨fun same => ?_, fun same => absurd same.le wide⟩
    have matched : bounds.width / aspect = bounds.height := congrArg Size.height same
    exact absurd ((div_eq_iff h.ne').1 matched).ge wide

end Size

end Projector
