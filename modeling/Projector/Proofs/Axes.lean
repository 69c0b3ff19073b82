import Mathlib.Algebra.Order.Field.Rat
import Mathlib.Tactic.Linarith
import Projector.Geometry.Resolver
import Projector.Proofs.Coordinates

/-!
# One axis at a time

What is said of a picture across is said of it down as well. A rectangle
starts and stops on each axis, a size has a length there, and the points of a
rectangle are those that lie between its start and its stop on both axes, the
start counted in and the stop not.

What two rectangles have in common starts where the second one of them starts
and stops where the first one stops, on each axis. It is there if this leaves
some length on both. In exact arithmetic its points are then the points of
both.
-/

namespace Projector

/-- **One of the two axes.** -/
inductive Axis where
  /-- From left to right. -/
  | across
  /-- From above to below. -/
  | down
  deriving DecidableEq, Repr

namespace Axis

variable {S : Type}

/-- Where a point is on an axis. -/
def coord : Axis → Point S → S
  | across, p => p.x
  | down, p => p.y

/-- How long a size is on an axis. -/
def length : Axis → Size S → S
  | across, s => s.width
  | down, s => s.height

variable [Scalar S]

/-- Where a rectangle starts. -/
def start (axis : Axis) (r : Rect S) : S := axis.coord r.min

/-- Where a rectangle stops. -/
def stop (axis : Axis) (r : Rect S) : S := axis.coord r.max

theorem stop_eq (axis : Axis) (r : Rect S) :
    axis.stop r = axis.start r + axis.length r.size := by
  cases axis <;> rfl

/-- A rectangle that is moved starts later by so much. -/
theorem start_translated (axis : Axis) (r : Rect S) (d : Point S) :
    axis.start (r.translated d) = axis.start r + axis.coord d := by
  cases axis <;> rfl

/-- The end of an axis where things start that are anchored there. -/
def head : Axis → Alignment
  | across => .left
  | down => .top

/-- The other end of an axis. -/
def tail : Axis → Alignment
  | across => .right
  | down => .bottom

/-- Whether things are anchored where the axis starts. -/
def atHead (axis : Axis) (alignment : Alignment) : Bool := alignment.contains axis.head

/-- Whether they are anchored where it stops. -/
def atTail (axis : Axis) (alignment : Alignment) : Bool := alignment.contains axis.tail

end Axis

/-! ## Points -/

section

variable {S : Type} [Scalar S]

/-- **The points of a rectangle**: on each axis, from its start on and before
its stop. -/
instance Rect.instMembership : Membership (Point S) (Rect S) :=
  ⟨fun r p => ∀ axis : Axis, axis.start r ≤ axis.coord p ∧ axis.coord p < axis.stop r⟩

/-- **The same stretch of an axis.** -/
def Rect.AlikeOn (axis : Axis) (a b : Rect S) : Prop :=
  axis.start a = axis.start b ∧ axis.length a.size = axis.length b.size

namespace Rect

omit [Scalar S] in
/-- Two rectangles that are the same on both axes are one. -/
theorem eq_of_alikeOn {a b : Rect S} (h : ∀ axis, AlikeOn axis a b) : a = b := by
  obtain ⟨x, width⟩ := h .across
  obtain ⟨y, height⟩ := h .down
  cases a
  cases b
  exact (Rect.mk.injEq ..).mpr ⟨x, y, width, height⟩

/-- Whether something is left of two rectangles on an axis. -/
def MeetOn (axis : Axis) (a b : Rect S) : Prop :=
  Scalar.larger (axis.start a) (axis.start b) < Scalar.smaller (axis.stop a) (axis.stop b)

/-- **What two rectangles have in common**: they meet on both axes, and it
reaches from the later start to the earlier stop. -/
theorem of_intersection_eq_some {a b c : Rect S} (h : a.intersection b = some c) (axis : Axis) :
    MeetOn axis a b ∧ axis.start c = Scalar.larger (axis.start a) (axis.start b) ∧
      axis.length c.size = Scalar.smaller (axis.stop a) (axis.stop b) -
        Scalar.larger (axis.start a) (axis.start b) := by
  unfold intersection at h
  dsimp only at h
  split at h
  · next meet =>
    cases h
    cases axis with
    | across => exact ⟨meet.1, rfl, rfl⟩
    | down => exact ⟨meet.2, rfl, rfl⟩
  · cases h

/-- Rectangles without a common part do not meet on one of the axes. -/
theorem of_intersection_eq_none {a b : Rect S} (h : a.intersection b = none) :
    ∃ axis, ¬ MeetOn axis a b := by
  unfold intersection at h
  dsimp only at h
  split at h
  · cases h
  · next apart =>
    by_cases across : MeetOn .across a b
    · exact ⟨.down, fun down => apart ⟨across, down⟩⟩
    · exact ⟨.across, across⟩

/-- **What a rectangle has in common with one around it is the rectangle.** -/
theorem intersection_eq_left {a b : Rect S}
    (start : ∀ axis : Axis, Scalar.larger (axis.start a) (axis.start b) = axis.start a)
    (stop : ∀ axis : Axis, Scalar.smaller (axis.stop a) (axis.stop b) = axis.stop a)
    (area : ∀ axis : Axis, axis.start a < axis.stop a)
    (length : ∀ axis : Axis, axis.stop a - axis.start a = axis.length a.size) :
    a.intersection b = some a := by
  have left : Scalar.larger a.x b.x = a.x := start .across
  have top : Scalar.larger a.y b.y = a.y := start .down
  have right : Scalar.smaller a.right b.right = a.right := stop .across
  have bottom : Scalar.smaller a.bottom b.bottom = a.bottom := stop .down
  have width : a.right - a.x = a.width := length .across
  have height : a.bottom - a.y = a.height := length .down
  unfold intersection
  dsimp only
  rw [left, top, right, bottom, if_pos ⟨area .across, area .down⟩, width, height]

theorem isEmpty_of_width_le {r : Rect S} (h : r.width ≤ 0) : r.isEmpty = true := by
  show (decide (r.width ≤ 0) || decide (r.height ≤ 0)) = true
  rw [decide_eq_true h, Bool.true_or]

theorem isEmpty_of_height_le {r : Rect S} (h : r.height ≤ 0) : r.isEmpty = true := by
  show (decide (r.width ≤ 0) || decide (r.height ≤ 0)) = true
  rw [decide_eq_true h, Bool.or_true]

end Rect

/-- **There are no bars where the whole item is visible**, if nothing is left of
its edges when they are taken from themselves. -/
theorem Letterbox.bars_eq_nil {l : Letterbox S} (whole : l.screen = l.bounds)
    (start : ∀ axis : Axis, axis.start l.bounds - axis.start l.bounds ≤ 0)
    (stop : ∀ axis : Axis, axis.stop l.bounds - axis.stop l.bounds ≤ 0) : l.bars = [] := by
  unfold bars
  rw [whole]
  split
  · rfl
  · rw [List.filter_eq_nil_iff]
    unfold margins
    rw [whole]
    simp only [List.forall_mem_cons, Bool.not_eq_true', Bool.not_eq_false]
    exact ⟨Rect.isEmpty_of_height_le (start .down), Rect.isEmpty_of_height_le (stop .down),
      Rect.isEmpty_of_width_le (start .across), Rect.isEmpty_of_width_le (stop .across),
      List.forall_mem_nil _⟩

end

/-! ## Exact arithmetic -/

namespace Scalar

theorem larger_rat (a b : Rat) : larger a b = max a b := by
  obtain ⟨left, right⟩ := le_larger_rat a b
  refine le_antisymm ?_ (max_le left right)
  simp only [larger]
  split
  · exact le_max_right a b
  · exact le_max_left a b

theorem smaller_rat (a b : Rat) : smaller a b = min a b := by
  obtain ⟨left, right⟩ := smaller_le_rat a b
  refine le_antisymm (le_min left right) ?_
  simp only [smaller]
  split
  · exact min_le_right a b
  · exact min_le_left a b

end Scalar

namespace Size

variable {s : Size Rat}

theorem isEmpty_eq_false_iff : s.isEmpty = false ↔ 0 < s.width ∧ 0 < s.height := by
  unfold isEmpty
  rw [Bool.or_eq_false_iff, decide_eq_false_iff_not, decide_eq_false_iff_not]
  exact and_congr Rat.not_le Rat.not_le

/-- A size with an area has a length on each axis. -/
theorem length_pos (h : s.isEmpty = false) (axis : Axis) : 0 < axis.length s := by
  obtain ⟨width, height⟩ := isEmpty_eq_false_iff.1 h
  cases axis with
  | across => exact width
  | down => exact height

end Size

/-- Rectangles that are found equal are one rectangle. -/
theorem Rect.eq_of_beq_rat {a b : Rect Rat} (h : (a == b) = true) : a = b := by
  obtain ⟨x, y, width, height⟩ := (beq_iff a b).1 h
  cases a
  cases b
  exact (Rect.mk.injEq ..).mpr
    ⟨eq_of_beq x, eq_of_beq y, eq_of_beq width, eq_of_beq height⟩

/-- The rectangle without a size has no points. -/
theorem Rect.not_mem_zero (p : Point Rat) : p ∉ (zero : Rect Rat) := by
  intro h
  obtain ⟨after, before⟩ := h .across
  have stop : Axis.across.stop (zero : Rect Rat) = Axis.across.start zero := by decide +kernel
  exact absurd (lt_of_le_of_lt after before) (stop ▸ lt_irrefl _)

namespace Letterbox

variable {bounds video : Rect Rat}

/-- **The points that are visible** are those of the picture that are in the
item. -/
theorem mem_screen {p : Point Rat} :
    p ∈ (of bounds video).screen ↔ p ∈ bounds ∧ p ∈ video := by
  show p ∈ (bounds.intersection video).getD Rect.zero ↔ _
  cases common : bounds.intersection video with
  | none =>
    -- a common point would lie on the axis where nothing is left
    obtain ⟨axis, apart⟩ := Rect.of_intersection_eq_none common
    refine ⟨fun h => absurd h (Rect.not_mem_zero p), fun ⟨hb, hv⟩ => absurd ?_ apart⟩
    unfold Rect.MeetOn
    rw [Scalar.larger_rat, Scalar.smaller_rat]
    exact lt_of_le_of_lt (max_le (hb axis).1 (hv axis).1) (lt_min (hb axis).2 (hv axis).2)
  | some screen =>
    have along (axis : Axis) : (axis.start screen ≤ axis.coord p ∧ axis.coord p < axis.stop screen) ↔
        (axis.start bounds ≤ axis.coord p ∧ axis.coord p < axis.stop bounds) ∧
          axis.start video ≤ axis.coord p ∧ axis.coord p < axis.stop video := by
      obtain ⟨-, start, length⟩ := Rect.of_intersection_eq_some common axis
      rw [axis.stop_eq screen, length, start, Scalar.larger_rat, Scalar.smaller_rat,
        add_sub_cancel, max_le_iff, lt_min_iff, and_and_and_comm]
    show (∀ axis : Axis, _) ↔ (∀ axis : Axis, _) ∧ ∀ axis : Axis, _
    rw [← forall_and]
    exact forall_congr' along

/-- **How far one can see on an axis**, if one can see at all. -/
theorem screen_along (seen : (of bounds video).screen.isEmpty = false) (axis : Axis) :
    axis.start (of bounds video).screen = max (axis.start bounds) (axis.start video) ∧
      axis.length (of bounds video).screen.size =
        min (axis.stop bounds) (axis.stop video) - max (axis.start bounds) (axis.start video) := by
  show axis.start ((bounds.intersection video).getD Rect.zero) = _ ∧
    axis.length ((bounds.intersection video).getD Rect.zero).size = _
  cases common : bounds.intersection video with
  | none =>
    have nothing : (of bounds video).screen = Rect.zero :=
      congrArg (fun screen => screen.getD Rect.zero) common
    rw [nothing] at seen
    cases seen
  | some screen =>
    obtain ⟨-, start, length⟩ := Rect.of_intersection_eq_some common axis
    rw [Scalar.larger_rat] at start length
    rw [Scalar.smaller_rat] at length
    exact ⟨start, length⟩

/-- **Without bars the whole item is visible**, if it has an area. -/
theorem screen_eq_of_bars_eq_nil (area : bounds.isEmpty = false)
    (none : (of bounds video).bars = []) : (of bounds video).screen = bounds := by
  unfold bars at none
  cases seen : (of bounds video).screen.isEmpty with
  | true =>
    rw [seen, if_pos rfl, show (of bounds video).bounds.isEmpty = false from area] at none
    cases none
  | false =>
    rw [seen, if_neg Bool.false_ne_true, List.filter_eq_nil_iff] at none
    have across := Size.length_pos (s := bounds.size) area .across
    have visible := Size.length_pos (s := (of bounds video).screen.size) seen .down
    -- a margin without points has no length on the axis that it lies on
    have thin {r : Rect Rat} (h : r ∈ (of bounds video).margins) : ¬ (0 < r.width ∧ 0 < r.height) :=
      fun both => none r h (congrArg not (Size.isEmpty_eq_false_iff.2 both))
    unfold margins at thin
    simp only [List.forall_mem_cons] at thin
    obtain ⟨above, below, left, right, -⟩ := thin
    have edges (axis : Axis) : axis.start (of bounds video).screen ≤ axis.start bounds ∧
        axis.stop bounds ≤ axis.stop (of bounds video).screen := by
      cases axis with
      | across =>
        exact ⟨sub_nonpos.1 (le_of_not_gt fun h => left ⟨h, visible⟩),
          sub_nonpos.1 (le_of_not_gt fun h => right ⟨h, visible⟩)⟩
      | down =>
        exact ⟨sub_nonpos.1 (le_of_not_gt fun h => above ⟨across, h⟩),
          sub_nonpos.1 (le_of_not_gt fun h => below ⟨across, h⟩)⟩
    refine Rect.eq_of_alikeOn fun axis => ?_
    obtain ⟨before, after⟩ := edges axis
    obtain ⟨start, length⟩ := screen_along seen axis
    rw [axis.stop_eq (of bounds video).screen, start, length] at after
    rw [start] at before
    have first : max (axis.start bounds) (axis.start video) = axis.start bounds :=
      le_antisymm before (le_max_left _ _)
    have last : min (axis.stop bounds) (axis.stop video) = axis.stop bounds :=
      le_antisymm (min_le_left _ _) (by linarith)
    rw [first] at start length
    rw [last, axis.stop_eq, add_sub_cancel_left] at length
    exact ⟨start, length⟩

end Letterbox

end Projector
