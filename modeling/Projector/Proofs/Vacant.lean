import Projector.Proofs.Anchoring
import Projector.Proofs.Naught
import Projector.Proofs.ScreenEvents

/-!
# The geometry without a picture

Without a picture there is nothing to fit into the item. The picture's rectangle
is the item then, by a case of its own. What is visible has no such case: it is
what the item and the visible box have in common, and the box is fitted with
whatever aspect the wishes and the stream leave. A format without a size leaves
a square.

So the whole item is visible only if it has that aspect. In exact arithmetic this
is what it comes to. In binary floating point the aspect of the item may not be a
number that there is, and what decides is whether the box that is fitted is the
item.
-/

namespace Projector

namespace Resolver

section

variable {S D : Type} [Scalar S] [Scalar D] [Precision S D]

/-- **No picture, and nothing is wished for** but an aspect. -/
structure Vacant (r : Resolver S D) : Prop where
  /-- There is no picture, -/
  format : r.format.isEmpty = true
  /-- no crop is wished for, -/
  crop : ¬ 0 < r.crop ∧ (r.crop == 0) = false
  /-- the visible box is not moved -/
  offset : r.offset = ⟨0, 0⟩
  /-- and not anchored, -/
  centred : ∀ axis : Axis, axis.atHead r.alignment = false ∧ axis.atTail r.alignment = false
  /-- and the item has an area. -/
  item : ∀ axis : Axis, 0 < axis.length r.item

variable {r : Resolver S D}

/-- **Without a picture its rectangle is the area.** -/
theorem frameRectIn_of_isEmpty (h : r.format.isEmpty = true) (area : Rect S) :
    r.frameRectIn area = area := if_pos h

namespace Vacant

/-- The visible box is fitted with the aspect that a picture would have. -/
theorem letterSize (h : r.Vacant) :
    r.letterSize = (Size.ofAspect r.targetAspect).scaledToFit r.item := by
  have open_ : r.targetCrop r.targetAspect = r.targetAspect := by
    unfold targetCrop resolve
    rw [if_neg h.crop.1, h.crop.2]
    rfl
  unfold Resolver.letterSize
  rw [open_]

omit [Precision S D] in
theorem coord_offset (h : r.Vacant) (axis : Axis) : axis.coord r.offset = 0 := by
  rw [h.offset]
  cases axis <;> rfl

end Vacant

variable (r) in
/-- **The whole item is visible**, and there are no bars. -/
structure ShowsItem (effects : Effects) : Prop where
  /-- What is visible is the item. -/
  screen : (r.updateVertex effects).1.screen = r.itemRect
  /-- There are no bars. -/
  bars : (r.updateVertex effects).2.letterbox.bars = []

theorem ShowsItem.of_intersection {effects : Effects}
    (common : r.itemRect.intersection r.box = some r.itemRect)
    (start : ∀ axis : Axis, axis.start r.itemRect - axis.start r.itemRect ≤ 0)
    (stop : ∀ axis : Axis, axis.stop r.itemRect - axis.stop r.itemRect ≤ 0) :
    r.ShowsItem effects := by
  have screen : (Letterbox.of r.itemRect r.box).screen = r.itemRect := by
    unfold Letterbox.of
    rw [common]
    rfl
  refine ⟨screen, ?_⟩
  rw [letterbox_updateVertex]
  exact Letterbox.bars_eq_nil screen start stop

end

/-! ## Single precision -/

section

variable {r : Resolver Float32 Float}

/-- **The whole item is visible exactly if the visible box leaves nothing of it
out**, on either axis. -/
theorem showsItem_iff_box (area : ∀ axis : Axis, 0 < axis.length r.item)
    (finite : ∀ axis : Axis, (axis.length r.item).isFinite = true) (effects : Effects) :
    r.ShowsItem effects ↔
      ∀ axis : Axis, ¬ 0 < axis.start r.box ∧ ¬ axis.stop r.box < axis.length r.item := by
  have start (axis : Axis) : axis.start r.itemRect = 0 := by cases axis <;> rfl
  have stop (axis : Axis) : axis.stop r.itemRect = axis.length r.item := by
    rw [axis.stop_eq, start, length_itemRect, Float32.zero_add (area axis)]
  constructor
  · rintro ⟨whole, -⟩ axis
    have whole : (r.itemRect.intersection r.box).getD Rect.zero = r.itemRect := whole
    cases common : r.itemRect.intersection r.box with
    | none =>
      rw [common] at whole
      have nothing := area .across
      rw [← length_itemRect, ← whole] at nothing
      exact absurd nothing (Float32.lt_irrefl _)
    | some c =>
      have same : c = r.itemRect := by
        rw [common] at whole
        exact whole
      obtain ⟨-, first, last⟩ := Rect.of_intersection_eq_some common axis
      rw [same, start] at first
      rw [same, start, ← first, stop, length_itemRect, Float32.sub_zero] at last
      exact ⟨Float32.larger_zero_eq_iff.1 first.symm,
        (Float32.smaller_eq_iff (area axis)).1 last.symm⟩
  · intro covers
    refine .of_intersection (Rect.intersection_eq_left ?_ ?_ ?_ ?_) ?_ ?_
    · intro axis
      rw [start]
      exact Float32.larger_zero_eq_iff.2 (covers axis).1
    · intro axis
      rw [stop]
      exact (Float32.smaller_eq_iff (area axis)).2 (covers axis).2
    · intro axis
      rw [start, stop]
      exact area axis
    · intro axis
      rw [start, stop, Float32.sub_zero, length_itemRect]
    · intro axis
      rw [start]
      exact Float32.sub_self_le (by decide +kernel)
    · intro axis
      rw [stop]
      exact Float32.sub_self_le (finite axis)

/-- **A box of the size of the item leaves nothing of it out**: it starts at zero,
or at no number. -/
theorem Vacant.covers (h : r.Vacant) (fits : (r.letterSize == r.item) = true) (axis : Axis) :
    ¬ 0 < axis.start r.box ∧ ¬ axis.stop r.box < axis.length r.item := by
  have fits : r.letterSize = r.item := by
    obtain ⟨width, height⟩ := (Bool.and_eq_true _ _).mp fits
    exact congrArg₂ Size.mk (Float32.eq_of_beq_of_pos width (h.item .across))
      (Float32.eq_of_beq_of_pos height (h.item .down))
  have start : Float32.Naught (axis.start r.box) := by
    rw [start_box]
    refine Float32.Naught.add ?_ ?_
    · unfold toMiddle
      rw [fits]
      exact (Float32.naught_sub_self _).mul _
    · unfold moved displacement
      rw [h.coord_offset, (h.centred axis).1, (h.centred axis).2]
      have zero : Float32.Naught (Scalar.ofInt 0) := Float32.naught_zero
      exact (zero.mul _).div _
  rw [stop_box, fits]
  exact ⟨start.not_pos, start.not_add_lt (h.item axis)⟩

end

/-! ## Exact arithmetic -/

namespace Vacant

variable {r : Resolver Rat Rat}

theorem area (h : r.Vacant) : r.item.isEmpty = false :=
  Size.isEmpty_eq_false_iff.2 ⟨h.item .across, h.item .down⟩

/-- **The visible box has the size of the item if it has its aspect.** -/
theorem letterSize_eq_iff (h : r.Vacant) :
    r.letterSize = r.item ↔ (0 < r.targetAspect → r.targetAspect = r.itemAspect) := by
  rw [h.letterSize]
  by_cases positive : 0 < r.targetAspect
  · rw [Size.scaledToFit_ofAspect_eq_iff positive h.area]
    exact ⟨fun same _ => same, fun same => same positive⟩
  · have empty : (Size.ofAspect r.targetAspect : Size Rat).isEmpty = true := by
      rw [Size.ofAspect_rat, ← Bool.not_eq_false, Size.isEmpty_eq_false_iff]
      exact fun both => positive both.1
    exact ⟨fun _ h => absurd h positive, fun _ => Size.scaled_of_isEmpty empty _⟩

/-- A box of the size of the item is where the item is. -/
theorem alikeOn_box (h : r.Vacant) (fits : r.letterSize = r.item) (axis : Axis) :
    axis.start r.box = 0 ∧ axis.stop r.box = axis.length r.item := by
  have start := r.start_box_rat axis
  rw [h.coord_offset, (h.centred axis).1, (h.centred axis).2, fits, Int.cast_zero, zero_mul,
    zero_div, zero_add, sub_self, zero_div, if_neg Bool.false_ne_true,
    if_neg Bool.false_ne_true] at start
  rw [stop_box, start, fits, zero_add]
  exact ⟨rfl, rfl⟩

theorem showsItem_rat (h : r.Vacant) (fits : r.letterSize = r.item) (effects : Effects) :
    r.ShowsItem effects := by
  refine .of_intersection (Rect.intersection_eq_left ?_ ?_ ?_ ?_) ?_ ?_
  · intro axis
    rw [start_itemRect, (h.alikeOn_box fits axis).1, Scalar.larger_rat, max_self]
  · intro axis
    rw [stop_itemRect, (h.alikeOn_box fits axis).2, Scalar.smaller_rat, min_self]
  · intro axis
    rw [start_itemRect, stop_itemRect]
    exact h.item axis
  · intro axis
    rw [axis.stop_eq, add_sub_cancel_left]
  · exact fun axis => (sub_self _).le
  · exact fun axis => (sub_self _).le

/-- **Where the whole item is visible, the box has its size.** -/
theorem letterSize_eq_of_screen_eq (h : r.Vacant) (effects : Effects)
    (whole : (r.updateVertex effects).1.screen = r.itemRect) : r.letterSize = r.item := by
  have seen : (r.updateVertex effects).1.screen.isEmpty = false := by
    rw [whole]
    exact h.area
  have length (axis : Axis) : axis.length r.letterSize = axis.length r.item := by
    refine le_antisymm (r.length_letterSize_le axis) ?_
    obtain ⟨-, length⟩ := r.screen_along seen axis
    have first := le_max_right 0 (axis.start r.box)
    have last := min_le_right (axis.length r.item) (axis.stop r.box)
    rw [whole, length_itemRect] at length
    rw [stop_box] at last length
    linarith
  exact congrArg₂ Size.mk (length .across) (length .down)

/-- **In exact arithmetic the whole item is visible exactly if the aspect is the
item's**, and there are no bars exactly then. -/
theorem showsItem_iff (h : r.Vacant) (effects : Effects) :
    ((r.updateVertex effects).1.screen = r.itemRect ↔
        (0 < r.targetAspect → r.targetAspect = r.itemAspect)) ∧
      ((r.updateVertex effects).2.letterbox.bars = [] ↔
        (0 < r.targetAspect → r.targetAspect = r.itemAspect)) := by
  rw [← h.letterSize_eq_iff]
  refine ⟨⟨h.letterSize_eq_of_screen_eq effects, fun fits => (h.showsItem_rat fits effects).screen⟩,
    fun none => ?_, fun fits => (h.showsItem_rat fits effects).bars⟩
  exact h.letterSize_eq_of_screen_eq effects (Letterbox.screen_eq_of_bars_eq_nil h.area none)

end Vacant

end Resolver

/-! ## Passes -/

namespace Renderer

variable {δ : Type} {r t : Renderer δ}

variable (r t) in
/-- **What layout code is told by a pass**: the visible part that the geometry
works out for it. -/
structure Reports : Prop where
  /-- It is kept, -/
  screen : t.geometry.screen = (r.geometry.updateVertex r.shader.effects).1.screen
  /-- with its bars, -/
  bars : t.geometry.letterbox.bars =
    (r.geometry.updateVertex r.shader.effects).2.letterbox.bars
  /-- and told of, unless it was so before. -/
  told : t.scene.screens = r.scene.screens ∨
    t.scene.screens = r.scene.screens ++ [(r.geometry.updateVertex r.shader.effects).1.screen]

/-- **A pass that is drawn tells of what the geometry works out.** -/
theorem reports [Device δ] (e : r.perform .render = .ok (.done, t)) : r.Reports t := by
  have laid : t.scene = r.scene.lay r.shader.effects := by
    obtain ⟨_, hm, -⟩ | ⟨_, -, failed⟩ := answered_eq_ok e
    · exact (render_ends_lay r).of_ok hm
    · cases failed
  have geometry : t.geometry = (r.geometry.updateVertex r.shader.effects).2 :=
    congrArg Scene.geometry laid
  refine ⟨?_, ?_, ?_⟩
  · rw [geometry]
    rfl
  · rw [geometry]
  · rw [laid]
    unfold Scene.lay
    dsimp only
    split
    · exact .inr (Scene.screens_push r.scene _ _)
    · exact .inl rfl

end Renderer

/-- **What is visible without a picture.** The picture's rectangle is the area
that it is asked for. What is visible is the whole item, without bars, exactly if
the visible box leaves nothing of the item out, and it does so if it has the size
of the item. In exact arithmetic this is so exactly if the aspect that a picture
would have is not positive, or is the item's.

A pass that is drawn tells of what is visible by the geometry, and this knows the
item and the format of the renderer, on any device and after any requests. -/
theorem vacant_geometry_shows_item (effects : Effects) :
    (∀ r : Resolver Float32 Float, r.Vacant →
      (∀ axis : Axis, (axis.length r.item).isFinite = true) →
      (∀ area, r.frameRectIn area = area) ∧
      (r.ShowsItem effects ↔
        ∀ axis : Axis, ¬ 0 < axis.start r.box ∧ ¬ axis.stop r.box < axis.length r.item) ∧
      ((r.letterSize == r.item) = true → r.ShowsItem effects)) ∧
    (∀ r : Resolver Rat Rat, r.Vacant →
      (∀ area, r.frameRectIn area = area) ∧
      ((r.updateVertex effects).1.screen = r.itemRect ↔
        (0 < r.targetAspect → r.targetAspect = r.itemAspect)) ∧
      ((r.updateVertex effects).2.letterbox.bars = [] ↔
        (0 < r.targetAspect → r.targetAspect = r.itemAspect))) ∧
    ∀ (δ : Type) [Device δ] (device : δ) (config : RendererConfig) (past : List (Transition δ))
      (r : Renderer δ), Run (.withConfig device config) past r →
      r.scene.Agrees ∧ ∀ t, r.perform .render = .ok (.done, t) → r.Reports t := by
  refine ⟨fun r vacant finite => ⟨Resolver.frameRectIn_of_isEmpty vacant.format, ?_⟩,
    fun r vacant => ⟨Resolver.frameRectIn_of_isEmpty vacant.format, vacant.showsItem_iff effects⟩,
    ?_⟩
  · have whole := Resolver.showsItem_iff_box vacant.item finite effects
    exact ⟨whole, fun fits => whole.2 (vacant.covers fits)⟩
  · intro δ _ device config past r run
    exact ⟨run.agrees, fun t e => Renderer.reports e⟩

/-- The geometry before anything is known but the size of an item. -/
def Resolver.unwished (item : Size Float32) : Resolver Float32 Float := { initial with item }

theorem Resolver.vacant_unwished {item : Size Float32} (area : ∀ axis : Axis, 0 < axis.length item) :
    (unwished item).Vacant where
  format := rfl
  crop := by
    show ¬ (0 : Float) < 0 - 1 ∧ ((0 - 1 : Float) == 0) = false
    decide +kernel
  offset := rfl
  centred axis := by
    show axis.atHead .center = false ∧ axis.atTail .center = false
    cases axis <;> decide
  item := area

/-- A square item is visible. -/
theorem vacant_geometry_shows_square :
    (Resolver.unwished ⟨2, 2⟩).Vacant ∧ (Resolver.unwished ⟨2, 2⟩).ShowsItem ⟨0⟩ := by
  have vacant : (Resolver.unwished ⟨2, 2⟩).Vacant :=
    Resolver.vacant_unwished fun axis => by cases axis <;> decide +kernel
  have finite (axis : Axis) :
      (axis.length (Resolver.unwished ⟨2, 2⟩).item).isFinite = true := by
    cases axis <;> decide +kernel
  obtain ⟨-, -, shows⟩ := (vacant_geometry_shows_item ⟨0⟩).1 _ vacant finite
  exact ⟨vacant, shows (by decide +kernel)⟩

/-- **Of a wider item a square is visible**, with a bar on each side of it, and
layout code is told so, though the picture's rectangle is the item. -/
theorem vacant_geometry_hides_item :
    ((Resolver.unwished ⟨2, 1⟩).Vacant ∧
      (Resolver.unwished ⟨2, 1⟩).frameRectIn ⟨0, 0, 2, 1⟩ = ⟨0, 0, 2, 1⟩ ∧
      (((Resolver.unwished ⟨2, 1⟩).updateVertex ⟨0⟩).1.screen == ⟨1 / 2, 0, 1, 1⟩) = true ∧
      (((Resolver.unwished ⟨2, 1⟩).updateVertex ⟨0⟩).2.letterbox.bars ==
        [⟨0, 0, 1 / 2, 1⟩, ⟨3 / 2, 0, 1 / 2, 1⟩]) = true ∧
      ¬ (Resolver.unwished ⟨2, 1⟩).ShowsItem ⟨0⟩) ∧
    ∃ past r, Run (.withConfig Recorder.initial .standard) past r ∧
      past.map Transition.move = [.ask .render, .ask (.resize ⟨0, 0, 2, 1⟩)] ∧
      r.format.isEmpty = true ∧ (r.scene.screens == [⟨1 / 2, 0, 1, 1⟩]) = true := by
  have vacant : (Resolver.unwished ⟨2, 1⟩).Vacant :=
    Resolver.vacant_unwished fun axis => by cases axis <;> decide +kernel
  have bars : (((Resolver.unwished ⟨2, 1⟩).updateVertex ⟨0⟩).2.letterbox.bars ==
      [⟨0, 0, 1 / 2, 1⟩, ⟨3 / 2, 0, 1 / 2, 1⟩]) = true := by decide +kernel
  have hides : ¬ (Resolver.unwished ⟨2, 1⟩).ShowsItem ⟨0⟩ := by
    intro shows
    rw [shows.bars] at bars
    cases bars
  refine ⟨⟨vacant, rfl, by decide +kernel, bars, hides⟩, ?_⟩
  have made : ∀ request ∈ [.resize ⟨0, 0, 2, 1⟩, .render], Request.Proper request := by
    simp only [List.forall_mem_cons]
    exact ⟨trivial, trivial, List.forall_mem_nil _⟩
  obtain ⟨past, r, run, -, moves, found⟩ := Run.exists_carried (.withConfig .initial .standard) made
    (fun r => r.format.isEmpty && (r.scene.screens == [⟨1 / 2, 0, 1, 1⟩])) (by decide +kernel)
  obtain ⟨empty, told⟩ := (Bool.and_eq_true _ _).mp found
  exact ⟨past, r, run, moves, empty, told⟩

end Projector
