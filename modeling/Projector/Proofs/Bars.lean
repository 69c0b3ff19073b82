import Projector.Proofs.Axes

/-!
# Bars

What is left of an item around the visible part of a picture is covered by bars.
Four of them are cut: above and below the visible part they reach from one side of
the item to the other, and beside it they are as high as the visible part is. Each
point of the item has a place on either axis, before the visible part, along it or
after it, and this says which bar it is in.

A bar without points is left out, and where nothing is visible there is one bar,
which is the item, or none if the item itself has no points.
-/

namespace Projector

/-! ## Rectangles as sets of points -/

namespace Rect

variable {r : Rect Rat} {p : Point Rat}

theorem mem_iff : p ∈ r ↔ (r.x ≤ p.x ∧ p.x < r.right) ∧ r.y ≤ p.y ∧ p.y < r.bottom :=
  ⟨fun h => ⟨h .across, h .down⟩, fun h axis => match axis with
    | .across => h.1
    | .down => h.2⟩

/-- **A rectangle is empty if it has no points.** -/
theorem isEmpty_eq_false_iff_exists_mem : r.isEmpty = false ↔ ∃ p, p ∈ r := by
  constructor
  · intro area
    have length := Size.length_pos (s := r.size) area
    refine ⟨r.min, fun axis => ⟨le_refl _, ?_⟩⟩
    rw [axis.stop_eq]
    exact lt_add_of_pos_right _ (length axis)
  · rintro ⟨p, inside⟩
    have length (axis : Axis) : 0 < axis.length r.size := by
      obtain ⟨after, before⟩ := inside axis
      rw [axis.stop_eq] at before
      exact pos_of_lt_add_right (lt_of_le_of_lt after before)
    exact Size.isEmpty_eq_false_iff.2 ⟨length .across, length .down⟩

/-- **Two rectangles without a common point.** -/
def Apart (a b : Rect Rat) : Prop := ∀ p, p ∈ a → p ∉ b

end Rect

namespace Letterbox

/-! ## What is around the visible part -/

section Margins

variable {l : Letterbox Rat} {p : Point Rat}

/-- The visible part lies in the item. -/
def Inside (l : Letterbox Rat) : Prop :=
  ∀ axis : Axis, axis.start l.bounds ≤ axis.start l.screen ∧ axis.stop l.screen ≤ axis.stop l.bounds

/-- What is visible stops after it starts. -/
theorem start_le_stop (area : l.screen.isEmpty = false) (axis : Axis) :
    axis.start l.screen ≤ axis.stop l.screen := by
  obtain ⟨p, inside⟩ := Rect.isEmpty_eq_false_iff_exists_mem.1 area
  exact (inside axis).1.trans (inside axis).2.le

/-- **Which points are in which margin.** -/
theorem mem_margins : (∃ m ∈ l.margins, p ∈ m) ↔
    ((l.bounds.x ≤ p.x ∧ p.x < l.bounds.right) ∧ l.bounds.y ≤ p.y ∧ p.y < l.screen.y) ∨
    ((l.bounds.x ≤ p.x ∧ p.x < l.bounds.right) ∧ l.screen.bottom ≤ p.y ∧ p.y < l.bounds.bottom) ∨
    ((l.bounds.x ≤ p.x ∧ p.x < l.screen.x) ∧ l.screen.y ≤ p.y ∧ p.y < l.screen.bottom) ∨
    ((l.screen.right ≤ p.x ∧ p.x < l.bounds.right) ∧ l.screen.y ≤ p.y ∧ p.y < l.screen.bottom) := by
  unfold margins
  simp only [List.mem_cons, List.not_mem_nil, or_false, exists_eq_or_imp, exists_eq_left,
    Rect.mem_iff, Rect.right, Rect.bottom, add_sub_cancel]

/-- **Margins have no point in common** with each other, or with the visible part. -/
theorem margins_apart (area : l.screen.isEmpty = false) :
    (l.screen :: l.margins).Pairwise Rect.Apart := by
  -- of two rectangles one stops before the other one starts, on one of the axes
  have before {a b : Rect Rat} (axis : Axis) (h : axis.stop a ≤ axis.start b) : a.Apart b :=
    fun p ha hb => absurd (lt_of_lt_of_le (ha axis).2 h) (not_lt.2 (hb axis).1)
  have after {a b : Rect Rat} (axis : Axis) (h : axis.stop b ≤ axis.start a) : a.Apart b :=
    fun p ha hb => before axis h p hb ha
  have top : l.bounds.y + (l.screen.y - l.bounds.y) ≤ l.screen.y := (add_sub_cancel _ _).le
  have left : l.bounds.x + (l.screen.x - l.bounds.x) ≤ l.screen.x := (add_sub_cancel _ _).le
  unfold margins
  simp only [List.pairwise_cons, List.forall_mem_cons]
  refine ⟨⟨?_, ?_, ?_, ?_, List.forall_mem_nil _⟩, ⟨?_, ?_, ?_, List.forall_mem_nil _⟩,
    ⟨?_, ?_, List.forall_mem_nil _⟩, ⟨?_, List.forall_mem_nil _⟩, List.forall_mem_nil _, .nil⟩
  · exact after .down top
  · exact before .down le_rfl
  · exact after .across left
  · exact before .across le_rfl
  · exact before .down (top.trans (start_le_stop area .down))
  · exact before .down top
  · exact before .down top
  · exact after .down le_rfl
  · exact after .down le_rfl
  · exact before .across (left.trans (start_le_stop area .across))

/-- **A point of the item is visible or in a margin.** -/
theorem mem_bounds_iff (inside : l.Inside) (area : l.screen.isEmpty = false) :
    p ∈ l.bounds ↔ p ∈ l.screen ∨ ∃ m ∈ l.margins, p ∈ m := by
  have left : l.bounds.x ≤ l.screen.x := (inside .across).1
  have right : l.screen.right ≤ l.bounds.right := (inside .across).2
  have top : l.bounds.y ≤ l.screen.y := (inside .down).1
  have bottom : l.screen.bottom ≤ l.bounds.bottom := (inside .down).2
  have wide : l.screen.x ≤ l.screen.right := start_le_stop area .across
  have high : l.screen.y ≤ l.screen.bottom := start_le_stop area .down
  rw [mem_margins, Rect.mem_iff, Rect.mem_iff]
  constructor
  · rintro ⟨across, down⟩
    -- first the place down the item, and beside the visible part the place across
    obtain above | below := lt_or_ge p.y l.screen.y
    · exact .inr (.inl ⟨across, down.1, above⟩)
    obtain beside | below' := lt_or_ge p.y l.screen.bottom
    · obtain before | from' := lt_or_ge p.x l.screen.x
      · exact .inr (.inr (.inr (.inl ⟨⟨across.1, before⟩, below, beside⟩)))
      obtain along | after := lt_or_ge p.x l.screen.right
      · exact .inl ⟨⟨from', along⟩, below, beside⟩
      · exact .inr (.inr (.inr (.inr ⟨⟨after, across.2⟩, below, beside⟩)))
    · exact .inr (.inr (.inl ⟨across, below', down.2⟩))
  · rintro (⟨across, down⟩ | ⟨across, down⟩ | ⟨across, down⟩ | ⟨across, down⟩ | ⟨across, down⟩)
    · exact ⟨⟨left.trans across.1, across.2.trans_le right⟩,
        top.trans down.1, down.2.trans_le bottom⟩
    · exact ⟨across, down.1, down.2.trans_le (high.trans bottom)⟩
    · exact ⟨across, (top.trans high).trans down.1, down.2⟩
    · exact ⟨⟨across.1, across.2.trans_le (wide.trans right)⟩,
        top.trans down.1, down.2.trans_le bottom⟩
    · exact ⟨⟨(left.trans wide).trans across.1, across.2⟩,
        top.trans down.1, down.2.trans_le bottom⟩

end Margins

/-! ## The bars -/

/-- The visible part of a picture lies in the item, if anything is visible. -/
theorem inside_of {bounds video : Rect Rat} (seen : (of bounds video).screen.isEmpty = false) :
    (of bounds video).Inside := by
  intro axis
  obtain ⟨start, length⟩ := screen_along seen axis
  rw [axis.stop_eq (of bounds video).screen, start, length, add_sub_cancel]
  exact ⟨le_max_left _ _, min_le_left _ _⟩

/-- **An item in parts**: what is visible, and bars around it. -/
structure Tiled (bounds screen : Rect Rat) (bars : List (Rect Rat)) : Prop where
  /-- Every bar has points. -/
  points : ∀ bar ∈ bars, ∃ p, p ∈ bar
  /-- No two bars have a point in common. -/
  apart : bars.Pairwise Rect.Apart
  /-- No point of a bar is visible. -/
  hidden : ∀ bar ∈ bars, bar.Apart screen
  /-- The points of the item are those that are visible and those of the bars. -/
  covers : ∀ p, p ∈ bounds ↔ p ∈ screen ∨ ∃ bar ∈ bars, p ∈ bar

/-- **The bars tile the item** around the visible part. -/
theorem tiled_of (bounds video : Rect Rat) :
    Tiled bounds (of bounds video).screen (of bounds video).bars := by
  have points : ∀ bar ∈ (of bounds video).bars, ∃ p, p ∈ bar := fun bar h =>
    Rect.isEmpty_eq_false_iff_exists_mem.1 (not_isEmpty_of_mem_bars h)
  have void {r : Rect Rat} (empty : r.isEmpty = true) (p : Point Rat) : p ∉ r := fun h =>
    absurd empty (Bool.eq_false_iff.1 (Rect.isEmpty_eq_false_iff_exists_mem.2 ⟨p, h⟩))
  cases seen : (of bounds video).screen.isEmpty with
  | true =>
    have bars : (of bounds video).bars = if bounds.isEmpty then [] else [bounds] := if_pos seen
    refine ⟨points, ?_, fun bar _ p _ => void seen p, fun p => ?_⟩
    · rw [bars]
      split
      · exact .nil
      · exact List.pairwise_singleton _ _
    · rw [bars]
      split
      · next empty => simp [void empty p, void seen p]
      · simp [void seen p]
  | false =>
    have bars : (of bounds video).bars =
      (of bounds video).margins.filter fun r => !r.isEmpty := if_neg (Bool.eq_false_iff.1 seen)
    obtain ⟨hidden, apart⟩ := List.pairwise_cons.1 (margins_apart seen)
    refine ⟨points, ?_, fun bar h p inside visible => ?_, fun p => ?_⟩
    · rw [bars]
      exact apart.filter _
    · rw [bars] at h
      exact hidden bar (List.mem_filter.1 h).1 p visible inside
    · rw [bars, show bounds = (of bounds video).bounds from rfl, mem_bounds_iff (inside_of seen)
        seen]
      refine or_congr_right ⟨?_, ?_⟩
      · rintro ⟨bar, among, inside⟩
        have area := Rect.isEmpty_eq_false_iff_exists_mem.2 ⟨p, inside⟩
        exact ⟨bar, List.mem_filter.2 ⟨among, congrArg not area⟩, inside⟩
      · rintro ⟨bar, among, inside⟩
        exact ⟨bar, (List.mem_filter.1 among).1, inside⟩

end Letterbox

end Projector
