import Mathlib.Tactic.Ring
import Projector.Proofs.Fitting

/-!
# Where the visible box is anchored

Two rectangles are worked out for a drawing. One is the picture's, which is
cached: it covers the visible box and lies about the middle of the item. The
other is the visible box itself, which fits into the item and is worked out
anew. Both are moved by the same displacement, so the picture goes on covering
the box wherever it is moved, and of the box that is visible which lies in the
item.

On each axis the box is anchored by two bits of the alignment, and is moved by
a percentage of its own length. Nothing of the other axis enters.
-/

namespace Projector

namespace Resolver

section

variable {S D : Type} [Scalar S] [Scalar D] [Precision S D] (r : Resolver S D)

/-- What is left of the item before a box in its middle. -/
def toMiddle (axis : Axis) : S := (axis.length r.item - axis.length r.letterSize) * half

/-- How far the picture and the visible box are moved. -/
def moved (axis : Axis) : S :=
  displacement (axis.coord r.offset) (axis.length r.letterSize) (r.toMiddle axis)
    (axis.atHead r.alignment) (axis.atTail r.alignment)

/-- **The visible box**, where it is anchored and moved to. -/
def box : Rect S :=
  .ofPosSize ⟨r.toMiddle .across + r.moved .across, r.toMiddle .down + r.moved .down⟩ r.letterSize

theorem letterbox_updateVertex (effects : Effects) :
    (r.updateVertex effects).2.letterbox = .of r.itemRect r.box := rfl

theorem screen_updateVertex (effects : Effects) :
    (r.updateVertex effects).1.screen = (Letterbox.of r.itemRect r.box).screen := rfl

theorem vertex_updateVertex (effects : Effects) :
    (r.updateVertex effects).1.vertex = r.cached.translated ⟨r.moved .across, r.moved .down⟩ := rfl

theorem start_box (axis : Axis) : axis.start r.box = r.toMiddle axis + r.moved axis := by
  cases axis <;> rfl

theorem length_box (axis : Axis) : axis.length r.box.size = axis.length r.letterSize := rfl

theorem stop_box (axis : Axis) :
    axis.stop r.box = axis.start r.box + axis.length r.letterSize := axis.stop_eq r.box

omit [Scalar D] [Precision S D] in
theorem length_itemRect (axis : Axis) : axis.length r.itemRect.size = axis.length r.item := by
  cases axis <;> rfl

theorem start_vertex (effects : Effects) (axis : Axis) :
    axis.start (r.updateVertex effects).1.vertex = axis.start r.cached + r.moved axis := by
  rw [vertex_updateVertex, axis.start_translated]
  cases axis <;> rfl

theorem length_vertex (effects : Effects) (axis : Axis) :
    axis.length (r.updateVertex effects).1.vertex.size = axis.length r.cached.size := rfl

variable {r} in
/-- **What is wished for on the other axis does not matter.** -/
theorem moved_congr {axis : Axis} {alignment : Alignment} {offset : Offset}
    (head : axis.atHead alignment = axis.atHead r.alignment)
    (tail : axis.atTail alignment = axis.atTail r.alignment)
    (same : axis.coord offset = axis.coord r.offset) :
    moved { r with alignment, offset } axis = r.moved axis := by
  show displacement (axis.coord offset) (axis.length r.letterSize) (r.toMiddle axis)
    (axis.atHead alignment) (axis.atTail alignment) = _
  rw [head, tail, same]
  rfl

end

end Resolver

/-- **A picture lies about the middle of the area**, on each axis. -/
theorem start_frameRect {S D : Type} [Scalar S] [Scalar D] [Precision S D] (area : Rect S)
    (target crop : D) (axis : Axis) :
    axis.start (frameRect area target crop) = axis.start area +
      (axis.length area.size - axis.length (frameRect area target crop).size) * half := by
  cases axis <;> rfl

/-! ## Exact arithmetic -/

theorem half_rat : (half : Rat) = 1 / 2 := by decide +kernel

namespace Resolver

theorem displacement_rat (percent : Int) (length toMiddle : Rat) (atHead atTail : Bool) :
    displacement percent length toMiddle atHead atTail =
      percent * length / 100 + if atHead then -toMiddle else if atTail then toMiddle else 0 := by
  unfold displacement
  cases atHead with
  | true => exact sub_eq_add_neg _ _
  | false =>
    cases atTail with
    | true => rfl
    | false => exact (add_zero _).symm

variable (r : Resolver Rat Rat)

theorem toMiddle_rat (axis : Axis) :
    r.toMiddle axis = (axis.length r.item - axis.length r.letterSize) / 2 := by
  show (axis.length r.item - axis.length r.letterSize) * half = _
  rw [half_rat]
  ring

theorem start_itemRect (axis : Axis) : axis.start r.itemRect = 0 := by
  cases axis <;> rfl

theorem stop_itemRect (axis : Axis) : axis.stop r.itemRect = axis.length r.item := by
  rw [axis.stop_eq, start_itemRect, zero_add, length_itemRect]

/-- The visible box fits into the item. -/
theorem length_letterSize_le (axis : Axis) : axis.length r.letterSize ≤ axis.length r.item :=
  Size.length_scaledToFit_le _ _ axis

/-- **Where the visible box starts**: at an end of the axis or in its middle,
and later by a percentage of its length. -/
theorem start_box_rat (axis : Axis) :
    axis.start r.box = axis.coord r.offset * axis.length r.letterSize / 100 +
      if axis.atHead r.alignment then 0
      else if axis.atTail r.alignment then axis.length r.item - axis.length r.letterSize
      else (axis.length r.item - axis.length r.letterSize) / 2 := by
  rw [start_box, moved, displacement_rat, toMiddle_rat]
  split
  · ring
  · split <;> ring

/-- **The rectangle that is cached covers the visible box** in the middle of the
item, if it is current. -/
theorem covers_of_current (current : r.cached = r.frameRectIn r.itemRect) (axis : Axis) :
    axis.start r.cached ≤ r.toMiddle axis ∧
      r.toMiddle axis + axis.length r.letterSize ≤ axis.stop r.cached := by
  have fits := r.length_letterSize_le axis
  rw [toMiddle_rat, axis.stop_eq, current]
  cases empty : r.format.isEmpty with
  | true =>
    -- without a picture the item is cached, which the box fits into
    have item : r.frameRectIn r.itemRect = r.itemRect := if_pos empty
    rw [item, ← axis.stop_eq, start_itemRect, stop_itemRect]
    exact ⟨by linarith, by linarith⟩
  | false =>
    have placed : r.frameRectIn r.itemRect =
        frameRect r.itemRect r.targetAspect (r.targetCrop r.targetAspect) :=
      if_neg (Bool.eq_false_iff.1 empty)
    have covers : axis.length r.letterSize ≤ axis.length (r.frameRectIn r.itemRect).size := by
      rw [placed]
      exact Size.le_length_scaledToCover _ _ axis
    have middle : axis.start (r.frameRectIn r.itemRect) =
        (axis.length r.item - axis.length (r.frameRectIn r.itemRect).size) / 2 := by
      rw [placed, start_frameRect, start_itemRect, zero_add, half_rat, mul_one_div]
      rfl
    rw [middle]
    exact ⟨by linarith, by linarith⟩

/-- **How much of the visible box is seen on an axis**, if anything is seen. -/
theorem screen_along {effects : Effects}
    (seen : (r.updateVertex effects).1.screen.isEmpty = false) (axis : Axis) :
    axis.start (r.updateVertex effects).1.screen = max 0 (axis.start r.box) ∧
      axis.length (r.updateVertex effects).1.screen.size =
        min (axis.length r.item) (axis.stop r.box) - max 0 (axis.start r.box) := by
  rw [screen_updateVertex] at seen ⊢
  have along := Letterbox.screen_along seen axis
  rwa [start_itemRect, stop_itemRect] at along

/-- **A rectangle that was just worked out is current.** -/
theorem current_update :
    r.update.2.cached = r.update.2.frameRectIn r.update.2.itemRect := by
  unfold update
  dsimp only
  split
  · rfl
  · next same =>
    have same : (r.frameRectIn r.itemRect == r.cached) = true := by
      rw [← Bool.not_eq_false]
      exact fun other => same (congrArg not other)
    exact (Rect.eq_of_beq_rat same).symm

/-! ## The visible box -/

/-- **How the visible box is anchored on an axis.** -/
structure Anchored (axis : Axis) : Prop where
  /-- It starts where the item does, if it is anchored there; -/
  head : axis.atHead r.alignment = true → axis.start r.box = axis.start r.itemRect
  /-- it stops where the item does, if it is anchored only there; -/
  tail : axis.atHead r.alignment = false → axis.atTail r.alignment = true →
    axis.stop r.box = axis.stop r.itemRect
  /-- it is as far from one end as from the other one, if it is not anchored. -/
  middle : axis.atHead r.alignment = false → axis.atTail r.alignment = false →
    axis.start r.box - axis.start r.itemRect = axis.stop r.itemRect - axis.stop r.box

/-- A box that is not moved is anchored. -/
theorem anchored_of_offset_eq_zero {axis : Axis} (h : axis.coord r.offset = 0) :
    r.Anchored axis := by
  have start := r.start_box_rat axis
  rw [h, Int.cast_zero, zero_mul, zero_div, zero_add] at start
  refine ⟨fun head => ?_, fun head tail => ?_, fun head tail => ?_⟩
  · rw [start, if_pos head, start_itemRect]
  · rw [stop_box, start, head, if_neg Bool.false_ne_true, if_pos tail, stop_itemRect]
    ring
  · rw [stop_box, start, head, tail, if_neg Bool.false_ne_true, if_neg Bool.false_ne_true,
      start_itemRect, stop_itemRect]
    ring

/-- A box that is not moved lies inside the item. -/
theorem inside_of_offset_eq_zero {axis : Axis} (h : axis.coord r.offset = 0) :
    0 ≤ axis.start r.box ∧ axis.stop r.box ≤ axis.length r.item := by
  have fits := r.length_letterSize_le axis
  have start := r.start_box_rat axis
  rw [h, Int.cast_zero, zero_mul, zero_div, zero_add] at start
  rw [stop_box, start]
  split
  · exact ⟨le_refl _, by linarith⟩
  · split
    · exact ⟨by linarith, by linarith⟩
    · exact ⟨by linarith, by linarith⟩

/-- **How the visible box and the picture lie on an axis.** -/
structure LiesOn (effects : Effects) (axis : Axis) : Prop where
  /-- The box is anchored if it is not moved. -/
  anchored : axis.coord r.offset = 0 → r.Anchored axis
  /-- It is seen in its whole length then, if anything is seen. -/
  whole : axis.coord r.offset = 0 → (r.updateVertex effects).1.screen.isEmpty = false →
    Rect.AlikeOn axis (r.updateVertex effects).1.screen r.box
  /-- It is moved by a percentage of its length. -/
  moved : axis.start r.box =
    axis.start (box { r with offset := ⟨0, 0⟩ }) + axis.coord r.offset / 100 * axis.length r.box.size
  /-- The picture lies where it does whatever is wished for on the other axis,
  and so does what is seen if anything is. -/
  apart : ∀ (alignment : Alignment) (offset : Offset) (effects' : Effects),
    axis.atHead alignment = axis.atHead r.alignment →
    axis.atTail alignment = axis.atTail r.alignment → axis.coord offset = axis.coord r.offset →
    let other := (updateVertex { r with alignment, offset } effects').1
    Rect.AlikeOn axis other.vertex (r.updateVertex effects).1.vertex ∧
      (other.screen.isEmpty = false → (r.updateVertex effects).1.screen.isEmpty = false →
        Rect.AlikeOn axis other.screen (r.updateVertex effects).1.screen)

/-- **Each axis is laid out on its own.** -/
theorem liesOn (effects : Effects) (axis : Axis) : r.LiesOn effects axis := by
  refine ⟨r.anchored_of_offset_eq_zero, fun unmoved seen => ?_, ?_, ?_⟩
  · obtain ⟨start, length⟩ := r.screen_along seen axis
    obtain ⟨after, before⟩ := r.inside_of_offset_eq_zero unmoved
    rw [max_eq_right after] at start length
    rw [min_eq_right before, stop_box, add_sub_cancel_left] at length
    exact ⟨start, length⟩
  · have unmoved := start_box_rat { r with offset := ⟨0, 0⟩ } axis
    have zero : axis.coord (⟨0, 0⟩ : Offset) = 0 := by cases axis <;> rfl
    dsimp only at unmoved
    rw [zero, Int.cast_zero, zero_mul, zero_div, zero_add] at unmoved
    rw [unmoved, start_box_rat, length_box, add_comm, div_mul_eq_mul_div]
    rfl
  · intro alignment offset effects' head tail same
    dsimp only
    have moved := moved_congr head tail same
    have start : axis.start (box { r with alignment, offset }) = axis.start r.box := by
      rw [start_box, start_box, moved]
      rfl
    have stop : axis.stop (box { r with alignment, offset }) = axis.stop r.box := by
      rw [stop_box, stop_box, start]
      rfl
    refine ⟨⟨?_, ?_⟩, fun seen seen' => ⟨?_, ?_⟩⟩
    · rw [start_vertex, start_vertex, moved]
    · rw [length_vertex, length_vertex]
    · rw [(screen_along _ seen axis).1, (r.screen_along seen' axis).1, start]
    · rw [(screen_along _ seen axis).2, (r.screen_along seen' axis).2, start, stop]

/-- **The picture covers what is visible, and each axis is anchored on its own.**
Let the rectangle that is cached be current; nothing is assumed of the item, the
format or the wishes. The points that are visible are those of the visible box
that lie in the item, and they all lie in the picture's rectangle.

On each axis, a box that is not moved by an offset starts where the item does if
it is anchored there, else stops where the item does if it is anchored there,
and else is in the middle; an offset moves it by so many hundredths of its
length. The anchors and the offset of the other axis do not matter, neither for
the picture's rectangle nor for what is visible, if anything is. -/
theorem quad_covers_screen (current : r.cached = r.frameRectIn r.itemRect) (effects : Effects) :
    (∀ p ∈ (r.updateVertex effects).1.screen,
      p ∈ r.itemRect ∧ p ∈ (r.updateVertex effects).1.vertex) ∧
    (∀ p, p ∈ (r.updateVertex effects).1.screen ↔ p ∈ r.itemRect ∧ p ∈ r.box) ∧
    ∀ axis, r.LiesOn effects axis := by
  have visible (p : Point Rat) :
      p ∈ (r.updateVertex effects).1.screen ↔ p ∈ r.itemRect ∧ p ∈ r.box := by
    rw [screen_updateVertex]
    exact Letterbox.mem_screen
  refine ⟨fun p seen => ?_, visible, r.liesOn effects⟩
  obtain ⟨item, box⟩ := (visible p).1 seen
  refine ⟨item, fun axis => ?_⟩
  -- both were moved by the same displacement
  obtain ⟨start, stop⟩ := r.covers_of_current current axis
  obtain ⟨after, before⟩ := box axis
  rw [start_box] at after
  rw [stop_box, start_box] at before
  rw [axis.stop_eq] at stop ⊢
  rw [start_vertex, length_vertex]
  exact ⟨by linarith, by linarith⟩

/-- A square cut out of a picture of two by one. It is anchored at both sides and
at the bottom of the item, and moved down by a half. -/
def anchoredSquare : Resolver Rat Rat :=
  let wished : Resolver Rat Rat := { initial with
    item := ⟨4, 2⟩
    format := ⟨.rgba, 2, 1, [⟨8, 1⟩]⟩
    crop := 1
    alignment := ⟨Alignment.left.bits ||| Alignment.right.bits ||| Alignment.bottom.bits⟩
    offset := ⟨0, 50⟩ }
  wished.update.2

/-- The upper half of the square is seen, at the left and at the bottom. -/
theorem quad_covers_screen_square :
    anchoredSquare.cached = anchoredSquare.frameRectIn anchoredSquare.itemRect ∧
      anchoredSquare.format.isEmpty = false ∧ anchoredSquare.item.isEmpty = false ∧
      ((anchoredSquare.updateVertex ⟨0⟩).1.screen == ⟨0, 1, 2, 1⟩) = true ∧
      (∀ p ∈ (anchoredSquare.updateVertex ⟨0⟩).1.screen, p ∈ anchoredSquare.itemRect ∧
        p ∈ (anchoredSquare.updateVertex ⟨0⟩).1.vertex) ∧
      ∀ axis, anchoredSquare.LiesOn ⟨0⟩ axis := by
  have current : anchoredSquare.cached = anchoredSquare.frameRectIn anchoredSquare.itemRect :=
    current_update _
  obtain ⟨inside, -, lies⟩ := anchoredSquare.quad_covers_screen current ⟨0⟩
  exact ⟨current, by decide +kernel, by decide +kernel, by decide +kernel, inside, lies⟩

end Resolver

end Projector
