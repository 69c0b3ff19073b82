import Mathlib.Order.Bounds.Defs
import Projector.Proofs.Anchoring

/-!
# The largest box and the smallest one

Of the sizes of one aspect each two can be compared: the one that is longer on
one axis is longer on the other axis as well. So what is scaled to fit is the
largest size of its aspect that fits, and what is scaled to cover is the smallest
one that covers, for one reason: either has the length of the bounds on one of
the axes.

A picture is placed by both rules. The box of the wanted crop is the largest one
in the area, and the picture is the smallest one of its own aspect that covers
this box. Both lie about the middle of the area, so the picture covers the box
point by point, and if both have one aspect the picture is the box.
-/

namespace Projector

namespace Size

/-- **A size is at most another one** if it is so on both axes. -/
instance instLE : LE (Size Rat) := ⟨fun s t => ∀ axis : Axis, axis.length s ≤ axis.length t⟩

/-- **A size of an aspect** has an area, and its width over its height is that
number. -/
structure HasAspect (ratio : Rat) (s : Size Rat) : Prop where
  /-- There is an area. -/
  area : s.isEmpty = false
  /-- The width over the height is the number. -/
  aspect : s.aspect = ratio

namespace HasAspect

variable {ratio : Rat} {s t : Size Rat}

theorem width_eq (h : HasAspect ratio s) : s.width = ratio * s.height := by
  obtain ⟨-, height⟩ := isEmpty_eq_false_iff.1 h.area
  rw [← h.aspect, aspect_rat h.area, div_mul_cancel₀ _ height.ne']

theorem pos (h : HasAspect ratio s) : 0 < ratio := by
  obtain ⟨width, height⟩ := isEmpty_eq_false_iff.1 h.area
  rw [← h.aspect, aspect_rat h.area]
  exact div_pos width height

/-- **Two sizes of one aspect are compared on one axis.** -/
theorem le_of_length_le (hs : HasAspect ratio s) (ht : HasAspect ratio t) {axis : Axis}
    (shorter : axis.length s ≤ axis.length t) : s ≤ t := by
  have across : s.width ≤ t.width ↔ s.height ≤ t.height := by
    rw [hs.width_eq, ht.width_eq, mul_le_mul_iff_of_pos_left hs.pos]
  cases axis with
  | across =>
    rintro (_ | _)
    · exact shorter
    · exact across.1 shorter
  | down =>
    rintro (_ | _)
    · exact across.2 shorter
    · exact shorter

end HasAspect

/-! ## Scaling -/

variable {s bounds : Size Rat}

/-- **What is scaled has the length of the bounds on one of the axes.** -/
theorem scaled_touches (s bounds : Size Rat) (accepts : Rat → Rat → Bool) :
    ∃ axis : Axis, axis.length (s.scaled bounds accepts) = axis.length bounds := by
  cases empty : s.isEmpty with
  | true => exact ⟨.across, congrArg width (scaled_of_isEmpty empty accepts)⟩
  | false =>
    rw [scaled_eq empty]
    split
    · exact ⟨.down, rfl⟩
    · exact ⟨.across, rfl⟩

/-- **What is scaled keeps its aspect.** -/
theorem hasAspect_scaled {ratio : Rat} (shape : HasAspect ratio s) (area : bounds.isEmpty = false)
    (accepts : Rat → Rat → Bool) : HasAspect ratio (s.scaled bounds accepts) := by
  obtain ⟨width, height⟩ := isEmpty_eq_false_iff.1 shape.area
  obtain ⟨boundsWidth, boundsHeight⟩ := isEmpty_eq_false_iff.1 area
  have of_eq {t : Size Rat} (ht : t.isEmpty = false)
      (same : t.width / t.height = s.width / s.height) : HasAspect ratio t :=
    ⟨ht, by rw [aspect_rat ht, same, ← aspect_rat shape.area, shape.aspect]⟩
  rw [scaled_eq shape.area]
  split
  · refine of_eq (isEmpty_eq_false_iff.2
      ⟨div_pos (mul_pos boundsHeight width) height, boundsHeight⟩) ?_
    rw [mul_div_assoc, mul_div_cancel_left₀ _ boundsHeight.ne']
  · refine of_eq (isEmpty_eq_false_iff.2
      ⟨boundsWidth, div_pos (mul_pos boundsWidth height) width⟩) ?_
    rw [div_div_eq_mul_div, mul_div_mul_left _ _ boundsWidth.ne']

/-- **What is scaled to fit is the largest size of its aspect that fits.** -/
theorem isGreatest_scaledToFit {ratio : Rat} (shape : HasAspect ratio s)
    (area : bounds.isEmpty = false) :
    IsGreatest {t | HasAspect ratio t ∧ t ≤ bounds} (s.scaledToFit bounds) := by
  have same : HasAspect ratio (s.scaledToFit bounds) := hasAspect_scaled shape area _
  obtain ⟨axis, touches⟩ := s.scaled_touches bounds fun width limit => width ≤ limit
  refine ⟨⟨same, s.length_scaledToFit_le bounds⟩, fun t ⟨ht, fits⟩ => ?_⟩
  exact ht.le_of_length_le same ((fits axis).trans touches.ge)

/-- **What is scaled to cover is the smallest size of its aspect that covers.** -/
theorem isLeast_scaledToCover {ratio : Rat} (shape : HasAspect ratio s)
    (area : bounds.isEmpty = false) :
    IsLeast {t | HasAspect ratio t ∧ bounds ≤ t} (s.scaledToCover bounds) := by
  have same : HasAspect ratio (s.scaledToCover bounds) := hasAspect_scaled shape area _
  obtain ⟨axis, touches⟩ := s.scaled_touches bounds fun width limit => limit ≤ width
  refine ⟨⟨same, s.le_length_scaledToCover bounds⟩, fun t ⟨ht, covers⟩ => ?_⟩
  exact same.le_of_length_le ht (touches.le.trans (covers axis))

theorem hasAspect_ofAspect {ratio : Rat} (positive : 0 < ratio) :
    HasAspect ratio (ofAspect ratio : Size Rat) := by
  rw [ofAspect_rat]
  have area : (⟨ratio, 1⟩ : Size Rat).isEmpty = false :=
    isEmpty_eq_false_iff.2 ⟨positive, zero_lt_one⟩
  exact ⟨area, by rw [aspect_rat area, div_one]⟩

/-- **A size so many times as large.** -/
def stretched (s : Size Rat) (factor : Rat) : Size Rat := ⟨factor * s.width, factor * s.height⟩

/-- What is scaled grows with the bounds, if the rule looks at the two widths as
they are to each other. -/
theorem scaled_stretched {factor : Rat} {accepts : Rat → Rat → Bool}
    (alike : ∀ a b, accepts (factor * a) (factor * b) = accepts a b) (shape : s.isEmpty = false) :
    s.scaled (bounds.stretched factor) accepts = (s.scaled bounds accepts).stretched factor := by
  rw [scaled_eq shape, scaled_eq shape]
  unfold stretched
  dsimp only
  rw [mul_assoc, mul_div_assoc, alike]
  split
  · rfl
  · rw [mul_assoc, mul_div_assoc]

/-- **What is scaled to fit grows with the bounds**, and so does what is scaled to
cover. -/
theorem scaledToFit_stretched {factor : Rat} (positive : 0 < factor) (shape : s.isEmpty = false) :
    s.scaledToFit (bounds.stretched factor) = (s.scaledToFit bounds).stretched factor := by
  unfold scaledToFit
  exact scaled_stretched (fun a b => decide_eq_decide.2 (mul_le_mul_iff_of_pos_left positive)) shape

theorem scaledToCover_stretched {factor : Rat} (positive : 0 < factor)
    (shape : s.isEmpty = false) :
    s.scaledToCover (bounds.stretched factor) = (s.scaledToCover bounds).stretched factor := by
  unfold scaledToCover
  exact scaled_stretched (fun a b => decide_eq_decide.2 (mul_le_mul_iff_of_pos_left positive)) shape

end Size

/-! ## Placing -/

/-- **A size in the middle of an area.** -/
def Rect.centred (area : Rect Rat) (s : Size Rat) : Rect Rat :=
  ⟨area.x + (area.width - s.width) / 2, area.y + (area.height - s.height) / 2, s.width, s.height⟩

/-- **A rectangle stretched away from a point**: everything is so many times as far
from the point, and so many times as long. -/
def Rect.stretched (r : Rect Rat) (origin : Point Rat) (factor : Rat) : Rect Rat :=
  ⟨origin.x + factor * (r.x - origin.x), origin.y + factor * (r.y - origin.y),
    factor * r.width, factor * r.height⟩

namespace Rect

variable {area : Rect Rat} {s t : Size Rat}

theorem start_centred (axis : Axis) (area : Rect Rat) (s : Size Rat) :
    axis.start (area.centred s) =
      axis.start area + (axis.length area.size - axis.length s) / 2 := by
  cases axis <;> rfl

theorem length_centred (axis : Axis) (area : Rect Rat) (s : Size Rat) :
    axis.length (area.centred s).size = axis.length s := by
  cases axis <;> rfl

theorem stop_centred (axis : Axis) (area : Rect Rat) (s : Size Rat) :
    axis.stop (area.centred s) =
      axis.start area + (axis.length area.size + axis.length s) / 2 := by
  rw [axis.stop_eq, start_centred, length_centred]
  ring

/-- What is of the size of the area is the area. -/
theorem centred_size (area : Rect Rat) : area.centred area.size = area :=
  eq_of_alikeOn fun axis =>
    ⟨by rw [start_centred, sub_self, zero_div, add_zero], length_centred axis area area.size⟩

/-- **Of two sizes in the middle of an area the larger one covers the other one.** -/
theorem mem_centred_of_le (smaller : s ≤ t) {p : Point Rat} (h : p ∈ area.centred s) :
    p ∈ area.centred t := by
  intro axis
  obtain ⟨after, before⟩ := h axis
  have shorter := smaller axis
  rw [start_centred] at after ⊢
  rw [stop_centred] at before ⊢
  exact ⟨by linarith, by linarith⟩

end Rect

/-- **A picture lies in the middle of its area.** -/
theorem frameRect_eq_centred (area : Rect Rat) (target crop : Rat) :
    frameRect area target crop = area.centred
      ((Size.ofAspect target).scaledToCover ((Size.ofAspect crop).scaledToFit area.size)) := by
  refine Rect.eq_of_alikeOn fun axis => ⟨?_, by cases axis <;> rfl⟩
  rw [start_frameRect, Rect.start_centred, half_rat, mul_one_div]
  rfl

/-- **A picture grows with its area.** -/
theorem frameRect_stretched (area : Rect Rat) {target crop factor : Rat} (ht : 0 < target)
    (hc : 0 < crop) (positive : 0 < factor) (origin : Point Rat) :
    frameRect (area.stretched origin factor) target crop =
      (frameRect area target crop).stretched origin factor := by
  have size : (area.stretched origin factor).size = area.size.stretched factor := rfl
  rw [frameRect_eq_centred, frameRect_eq_centred, size,
    Size.scaledToFit_stretched positive (Size.hasAspect_ofAspect hc).area,
    Size.scaledToCover_stretched positive (Size.hasAspect_ofAspect ht).area]
  unfold Rect.centred Rect.stretched Size.stretched
  dsimp only
  refine (Rect.mk.injEq ..).mpr ⟨?_, ?_, rfl, rfl⟩ <;> ring

/-- **How a picture is placed in an area**, with the box of the wanted crop. -/
structure Framed (area : Rect Rat) (target crop : Rat) (letter : Size Rat) (frame : Rect Rat) :
    Prop where
  /-- The box is the largest one of the wanted crop that fits into the area. -/
  greatest : IsGreatest {s | Size.HasAspect crop s ∧ s ≤ area.size} letter
  /-- It is as long as the area on one of the axes. -/
  touches : ∃ axis : Axis, axis.length letter = axis.length area.size
  /-- The picture is as far from one end of the area as from the other one. -/
  centred : ∀ axis : Axis, axis.start frame - axis.start area = axis.stop area - axis.stop frame
  /-- It covers the box in the middle of the area. -/
  covers : ∀ p ∈ area.centred letter, p ∈ frame
  /-- No size of its aspect that covers the box is smaller. -/
  least : IsLeast {s | Size.HasAspect target s ∧ letter ≤ s} frame.size
  /-- If both have one aspect, the picture lies inside the area. -/
  inside : target = crop → ∀ p ∈ frame, p ∈ area

/-- **A picture is placed with the least size**, and this does not depend on a
scale. Let an area and both ratios be positive. The box of the wanted crop is the
largest one that fits into the area, and touches it on one of the axes. The picture
has its aspect and lies about the middle of the area; it covers the box there, and
no size of its aspect that covers the box is smaller. If both ratios are one, the
picture lies inside the area. If the area is stretched away from any point, the
picture is stretched with it. -/
theorem frameRect_least {area : Rect Rat} {target crop : Rat} (positive : area.isEmpty = false)
    (ht : 0 < target) (hc : 0 < crop) :
    (∃ letter, Framed area target crop letter (frameRect area target crop)) ∧
      ∀ (origin : Point Rat) (factor : Rat), 0 < factor →
        frameRect (area.stretched origin factor) target crop =
          (frameRect area target crop).stretched origin factor := by
  refine ⟨⟨(Size.ofAspect crop).scaledToFit area.size, ?_⟩,
    fun origin factor large => frameRect_stretched area ht hc large origin⟩
  have letter := Size.isGreatest_scaledToFit (Size.hasAspect_ofAspect hc) positive
  have frame := Size.isLeast_scaledToCover (Size.hasAspect_ofAspect ht) letter.1.1.area
  rw [frameRect_eq_centred]
  refine ⟨letter, Size.scaled_touches _ _ _, fun axis => ?_,
    fun p => Rect.mem_centred_of_le frame.1.2, frame, fun same p inside => ?_⟩
  · rw [Rect.start_centred, Rect.stop_centred, axis.stop_eq]
    ring
  · -- the box is of the aspect of the picture, so the least size is not larger
    have fits : (Size.ofAspect target : Size Rat).scaledToCover
        ((Size.ofAspect crop).scaledToFit area.size) ≤ area.size := fun axis =>
      (frame.2 ⟨same ▸ letter.1.1, fun _ => le_rfl⟩ axis).trans (letter.1.2 axis)
    have inside := Rect.mem_centred_of_le fits inside
    rwa [Rect.centred_size] at inside

/-- A picture of two by one fills an upright area with the crop of a square. -/
theorem frameRect_least_square :
    (⟨3, 1, 4, 6⟩ : Rect Rat).isEmpty = false ∧
      (frameRect (⟨3, 1, 4, 6⟩ : Rect Rat) 2 1 == ⟨1, 2, 8, 4⟩) = true ∧
      ∃ letter, Framed ⟨3, 1, 4, 6⟩ 2 1 letter (frameRect ⟨3, 1, 4, 6⟩ 2 1) := by
  obtain ⟨framed, -⟩ := @frameRect_least ⟨3, 1, 4, 6⟩ 2 1 (by decide +kernel)
    (by decide +kernel) (by decide +kernel)
  exact ⟨by decide +kernel, by decide +kernel, framed⟩

end Projector
