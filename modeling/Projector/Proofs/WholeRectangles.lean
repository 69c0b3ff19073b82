import Mathlib.Data.List.Forall2
import Projector.Proofs.Bars
import Projector.Proofs.WholeNumbers

/-!
# Rectangles of whole numbers

A rectangle in single precision whose coordinates and lengths are whole numbers of at
most 2²² stands for a rectangle in exact arithmetic. Where an edge of it is has one
more bit, and everything that is cut out of an item lies inside it and is no longer
than it is. So none of the coordinates of a letterbox is rounded: it stands for the
letterbox in exact arithmetic, and its bars tile the item as the bars there do.
-/

namespace Projector

/-! ## Standing for a rectangle -/

namespace Rect

/-- **The rectangle that one in single precision stands for.** -/
def exact (r : Rect Float32) : Rect Rat :=
  ⟨Float32.exact r.x, Float32.exact r.y, Float32.exact r.width, Float32.exact r.height⟩

/-- **A rectangle of whole numbers** of at most 2²². Its size may be negative. -/
def IsWhole (r : Rect Float32) : Prop :=
  ∀ v ∈ [r.x, r.y, r.width, r.height],
    v.isFinite = true ∧ ∃ n : Int, Float32.exact v = n ∧ |n| ≤ 2 ^ 22

/-- **A rectangle stands for another one** if it starts where that one starts on each
axis, and is as long. -/
def StandsFor (r : Rect Float32) (q : Rect Rat) : Prop :=
  ∀ axis : Axis, Float32.StandsFor (axis.start r) (axis.start q) ∧
    Float32.StandsFor (axis.length r.size) (axis.length q.size)

/-- A rectangle in exact arithmetic with no number in it above 2²². -/
def Bounded (q : Rect Rat) : Prop :=
  ∀ axis : Axis, |axis.start q| ≤ 2 ^ 22 ∧ |axis.length q.size| ≤ 2 ^ 22

/-- Of a rectangle of whole numbers every number is one. -/
theorem IsWhole.number {r : Rect Float32} (whole : r.IsWhole) {v : Float32}
    (h : v ∈ [r.x, r.y, r.width, r.height]) :
    Float32.StandsFor v (Float32.exact v) ∧ |Float32.exact v| ≤ 2 ^ 22 := by
  obtain ⟨finite, n, same, small⟩ := whole v h
  have small : |Float32.exact v| ≤ 2 ^ 22 := by
    rw [same, ← Int.cast_abs]
    exact_mod_cast small
  exact ⟨.of_exact finite same (small.trans_lt (by norm_num)), small⟩

theorem IsWhole.standsFor {r : Rect Float32} (whole : r.IsWhole) : r.StandsFor r.exact
  | .across => ⟨(whole.number (v := r.x) (by simp)).1, (whole.number (v := r.width) (by simp)).1⟩
  | .down => ⟨(whole.number (v := r.y) (by simp)).1, (whole.number (v := r.height) (by simp)).1⟩

theorem IsWhole.bounded {r : Rect Float32} (whole : r.IsWhole) : r.exact.Bounded
  | .across => ⟨(whole.number (v := r.x) (by simp)).2, (whole.number (v := r.width) (by simp)).2⟩
  | .down => ⟨(whole.number (v := r.y) (by simp)).2, (whole.number (v := r.height) (by simp)).2⟩

theorem standsFor_zero : (zero : Rect Float32).StandsFor zero
  | .across => ⟨Float32.standsFor_zero, Float32.standsFor_zero⟩
  | .down => ⟨Float32.standsFor_zero, Float32.standsFor_zero⟩

namespace StandsFor

variable {r : Rect Float32} {q : Rect Rat}

theorem exact_eq (h : r.StandsFor q) : r.exact = q := by
  obtain ⟨x, width⟩ := h .across
  obtain ⟨y, height⟩ := h .down
  exact (Rect.mk.injEq ..).mpr ⟨x.exact_eq, y.exact_eq, width.exact_eq, height.exact_eq⟩

/-- Where a rectangle stops is not rounded if it is small enough. -/
theorem stop (h : r.StandsFor q) (axis : Axis) (small : |axis.stop q| < 2 ^ 24) :
    Float32.StandsFor (axis.stop r) (axis.stop q) := by
  rw [axis.stop_eq] at small ⊢
  rw [axis.stop_eq]
  exact (h axis).1.add (h axis).2 small

/-- **A rectangle is as empty** as the one that it stands for. -/
theorem isEmpty_eq (h : r.StandsFor q) : r.isEmpty = q.isEmpty := by
  have length (axis : Axis) : axis.length r.size ≤ 0 ↔ axis.length q.size ≤ 0 :=
    (h axis).2.le_iff Float32.standsFor_zero
  exact congrArg₂ or (decide_eq_decide.2 (length .across)) (decide_eq_decide.2 (length .down))

end StandsFor

/-- Where a rectangle of such numbers stops has a bit more. -/
theorem Bounded.stop_le {q : Rect Rat} (h : q.Bounded) (axis : Axis) :
    |axis.stop q| ≤ 2 ^ 23 := by
  obtain ⟨start, length⟩ := h axis
  rw [axis.stop_eq]
  refine (abs_add_le _ _).trans ?_
  linarith

/-- **A rectangle stops** where the one that it stands for does. -/
theorem StandsFor.stop_of_bounded {r : Rect Float32} {q : Rect Rat} (h : r.StandsFor q)
    (small : q.Bounded) (axis : Axis) : Float32.StandsFor (axis.stop r) (axis.stop q) :=
  h.stop axis ((small.stop_le axis).trans_lt (by norm_num))

end Rect

/-! ## Letterboxes -/

namespace Letterbox

section

variable {bounds video : Rect Float32} {item picture : Rect Rat}

/-- **The edges of what is visible** are between those of the item, and in order. -/
theorem edges (small : item.Bounded) (seen : (of item picture).screen.isEmpty = false)
    (axis : Axis) :
    axis.start item ≤ axis.start (of item picture).screen ∧
      axis.start (of item picture).screen ≤ axis.stop (of item picture).screen ∧
      axis.stop (of item picture).screen ≤ axis.stop item ∧
      axis.stop item ≤ axis.start item + 2 ^ 22 := by
  obtain ⟨before, after⟩ := inside_of seen axis
  refine ⟨before, start_le_stop seen axis, after, ?_⟩
  rw [axis.stop_eq]
  exact add_le_add_right (le_of_abs_le (small axis).2) _

variable (hb : bounds.StandsFor item) (hv : video.StandsFor picture) (small : item.Bounded)
  (small' : picture.Bounded)

include hb hv small small'

/-- **Rectangles meet** if those that they stand for do. -/
theorem meetOn_iff (axis : Axis) :
    Rect.MeetOn axis bounds video ↔ Rect.MeetOn axis item picture := by
  have first := (hb axis).1.larger (hv axis).1
  exact first.lt_iff ((hb.stop_of_bounded small axis).smaller (hv.stop_of_bounded small' axis))

/-- **What is visible stands for what is visible** in exact arithmetic. -/
theorem standsFor_screen : (of bounds video).screen.StandsFor (of item picture).screen := by
  have meets := meetOn_iff hb hv small small'
  show ((bounds.intersection video).getD Rect.zero).StandsFor
    ((item.intersection picture).getD Rect.zero)
  cases common : bounds.intersection video with
  | none =>
    obtain ⟨axis, apart⟩ := Rect.of_intersection_eq_none common
    cases common' : item.intersection picture with
    | none => exact Rect.standsFor_zero
    | some _ =>
      exact absurd ((meets axis).2 (Rect.of_intersection_eq_some common' axis).1) apart
  | some screen =>
    cases common' : item.intersection picture with
    | none =>
      obtain ⟨axis, apart⟩ := Rect.of_intersection_eq_none common'
      exact absurd ((meets axis).1 (Rect.of_intersection_eq_some common axis).1) apart
    | some part =>
      intro axis
      obtain ⟨-, start, length⟩ := Rect.of_intersection_eq_some common axis
      obtain ⟨meet, start', length'⟩ := Rect.of_intersection_eq_some common' axis
      have first := (hb axis).1.larger (hv axis).1
      have last := (hb.stop_of_bounded small axis).smaller (hv.stop_of_bounded small' axis)
      show Float32.StandsFor (axis.start screen) (axis.start part) ∧
        Float32.StandsFor (axis.length screen.size) (axis.length part.size)
      rw [start, length, start', length']
      refine ⟨first, last.sub first (abs_lt.2 ?_)⟩
      -- the common part is no longer than the item
      have long := abs_le.1 (small axis).2
      have stops := axis.stop_eq item
      have low := (Scalar.le_larger_rat (axis.start item) (axis.start picture)).1
      have high := (Scalar.smaller_le_rat (axis.stop item) (axis.stop picture)).1
      unfold Rect.MeetOn at meet
      constructor <;> linarith

/-- **Margins stand for margins.** All of them lie in the item. -/
theorem standsFor_margins (seen : (of item picture).screen.isEmpty = false) :
    List.Forall₂ Rect.StandsFor (of bounds video).margins (of item picture).margins := by
  have visible := standsFor_screen hb hv small small'
  have stop (axis : Axis) : Float32.StandsFor (axis.stop (of bounds video).screen)
      (axis.stop (of item picture).screen) := by
    refine visible.stop axis (abs_lt.2 ?_)
    obtain ⟨before, ordered, after, -⟩ := edges small seen axis
    have start := abs_le.1 (small axis).1
    have stop := abs_le.1 (small.stop_le axis)
    constructor <;> linarith
  have head (axis : Axis) : Float32.StandsFor
      (axis.start (of bounds video).screen - axis.start bounds)
      (axis.start (of item picture).screen - axis.start item) := by
    refine (visible axis).1.sub (hb axis).1 (abs_lt.2 ?_)
    obtain ⟨before, ordered, after, near⟩ := edges small seen axis
    constructor <;> linarith
  have tail (axis : Axis) : Float32.StandsFor
      (axis.stop bounds - axis.stop (of bounds video).screen)
      (axis.stop item - axis.stop (of item picture).screen) := by
    refine (hb.stop_of_bounded small axis).sub (stop axis) (abs_lt.2 ?_)
    obtain ⟨before, ordered, after, near⟩ := edges small seen axis
    constructor <;> linarith
  unfold margins
  refine .cons (fun axis => ?_) (.cons (fun axis => ?_) (.cons (fun axis => ?_)
    (.cons (fun axis => ?_) .nil)))
  · cases axis with
    | across => exact hb .across
    | down => exact ⟨(hb .down).1, head .down⟩
  · cases axis with
    | across => exact hb .across
    | down => exact ⟨stop .down, tail .down⟩
  · cases axis with
    | across => exact ⟨(hb .across).1, head .across⟩
    | down => exact visible .down
  · cases axis with
    | across => exact ⟨stop .across, tail .across⟩
    | down => exact visible .down

/-- **Bars stand for bars.** -/
theorem standsFor_bars :
    List.Forall₂ Rect.StandsFor (of bounds video).bars (of item picture).bars := by
  have empty : (of bounds video).screen.isEmpty = (of item picture).screen.isEmpty :=
    (standsFor_screen hb hv small small').isEmpty_eq
  have none : (of bounds video).bounds.isEmpty = (of item picture).bounds.isEmpty := hb.isEmpty_eq
  unfold bars
  rw [empty, none]
  cases seen : (of item picture).screen.isEmpty with
  | true =>
    rw [if_pos rfl, if_pos rfl]
    split
    · exact .nil
    · exact .cons hb .nil
  | false =>
    rw [if_neg Bool.false_ne_true, if_neg Bool.false_ne_true]
    refine List.rel_filter (fun r q h => ?_) (standsFor_margins hb hv small small' seen)
    show (!r.isEmpty) = true ↔ (!q.isEmpty) = true
    rw [h.isEmpty_eq]

end

/-- **The bars tile the item around what is visible of the picture**, if the item and
the picture are in whole numbers: the points that are visible are those of the item and
the picture both, and nothing is left of the item but the points of the bars, which are
in one bar each. -/
theorem bars_tile (l : Letterbox Float32) {bounds video : Rect Float32} (item : bounds.IsWhole)
    (picture : video.IsWhole) :
    (∀ p, p ∈ (l.set bounds video).2.screen.exact ↔ p ∈ bounds.exact ∧ p ∈ video.exact) ∧
      (bounds.exact.Apart video.exact → (l.set bounds video).2.screen.isEmpty = true) ∧
      (∀ bar ∈ (l.set bounds video).2.bars, bar.isEmpty = false) ∧
      Tiled bounds.exact (l.set bounds video).2.screen.exact
        ((l.set bounds video).2.bars.map Rect.exact) := by
  show (∀ p, p ∈ (of bounds video).screen.exact ↔ _) ∧
    (_ → (of bounds video).screen.isEmpty = true) ∧ (∀ bar ∈ (of bounds video).bars, _) ∧
    Tiled _ (of bounds video).screen.exact ((of bounds video).bars.map Rect.exact)
  have screen := standsFor_screen item.standsFor picture.standsFor item.bounded picture.bounded
  have bars := standsFor_bars item.standsFor picture.standsFor item.bounded picture.bounded
  have same : (of bounds video).bars.map Rect.exact = (of bounds.exact video.exact).bars := by
    rw [← List.forall₂_eq_eq_eq, List.forall₂_map_left_iff]
    exact bars.imp fun _ _ h => h.exact_eq
  rw [screen.exact_eq, screen.isEmpty_eq, same]
  refine ⟨fun p => mem_screen, fun apart => ?_, fun bar h => not_isEmpty_of_mem_bars h,
    tiled_of bounds.exact video.exact⟩
  cases seen : (of bounds.exact video.exact).screen.isEmpty with
  | true => rfl
  | false =>
    obtain ⟨p, visible⟩ := Rect.isEmpty_eq_false_iff_exists_mem.1 seen
    obtain ⟨inside, shown⟩ := mem_screen.1 visible
    exact absurd shown (apart p inside)

/-- A picture over the lower left corner of an item: there is a bar above it and one
on its right. -/
theorem bars_tile_corner :
    let item : Rect Float32 := ⟨0, 0, 100, 50⟩
    let picture : Rect Float32 := ⟨-10, 10, 60, 80⟩
    let next := ((zero : Letterbox Float32).set item picture).2
    item.IsWhole ∧ picture.IsWhole ∧
      (next.bars.map Rect.exact == [⟨0, 0, 100, 10⟩, ⟨50, 10, 50, 40⟩]) = true ∧
      Tiled item.exact next.screen.exact (next.bars.map Rect.exact) := by
  intro item picture next
  have whole : item.IsWhole := by
    refine List.forall_mem_cons.2 ⟨?_, List.forall_mem_cons.2 ⟨?_, List.forall_mem_cons.2 ⟨?_,
      List.forall_mem_singleton.2 ?_⟩⟩⟩
    · exact ⟨by decide +kernel, 0, by decide +kernel, by decide⟩
    · exact ⟨by decide +kernel, 0, by decide +kernel, by decide⟩
    · exact ⟨by decide +kernel, 100, by decide +kernel, by decide⟩
    · exact ⟨by decide +kernel, 50, by decide +kernel, by decide⟩
  have whole' : picture.IsWhole := by
    refine List.forall_mem_cons.2 ⟨?_, List.forall_mem_cons.2 ⟨?_, List.forall_mem_cons.2 ⟨?_,
      List.forall_mem_singleton.2 ?_⟩⟩⟩
    · exact ⟨by decide +kernel, -10, by decide +kernel, by decide⟩
    · exact ⟨by decide +kernel, 10, by decide +kernel, by decide⟩
    · exact ⟨by decide +kernel, 60, by decide +kernel, by decide⟩
    · exact ⟨by decide +kernel, 80, by decide +kernel, by decide⟩
  obtain ⟨-, -, -, tiled⟩ := bars_tile zero whole whole'
  exact ⟨whole, whole', by decide +kernel, tiled⟩

end Letterbox

end Projector
