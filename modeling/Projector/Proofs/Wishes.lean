import Projector.Geometry.Resolver
import Projector.Proofs.Arithmetic

/-!
# Wanted ratios

A wanted ratio has three meanings, by its sign, and a new one that is close to the
one before is not taken. So there are two notions of sameness, and they do not fit
together at zero: a ratio on the one side of zero may be the same as one on the other
side, or as zero, though the wishes are not. Then the old wish stays in force. Such a
change is blurred, `Blurs`, and it is the only kind that is not honoured.

That a positive ratio is resolved to itself is meant up to the tolerance, and the
tolerance is one for numbers. The difference that is compared with it is rounded, but
rounding keeps the order, so nothing is lost: what is found to be the same is closer
than one part in a hundred thousand.
-/

namespace Projector

/-! ## Three wishes -/

/-- **What a wanted ratio asks for.** -/
inductive Wish where
  /-- The ratio itself. -/
  | own
  /-- The ratio of the item. -/
  | item
  /-- Nothing: it is left open. -/
  | free
  deriving DecidableEq

/-- The wish that a ratio stands for. -/
def Wish.of (ratio : Float) : Wish :=
  if 0 < ratio then .own else if ratio == 0 then .item else .free

/-- **A change of the wish that is too small to be taken.** -/
def Blurs (current ratio : Float) : Prop :=
  sameRatio current ratio = true ∧ Wish.of current ≠ Wish.of ratio

instance (current ratio : Float) : Decidable (Blurs current ratio) :=
  inferInstanceAs (Decidable (_ ∧ _))

/-- **A ratio is resolved as it asks for.** -/
structure Honours (ratio item otherwise resolved : Float) : Prop where
  /-- A positive ratio is resolved to itself, up to the tolerance. -/
  own : 0 < ratio →
    resolved.isFinite = true ∧ |Float.exact resolved - Float.exact ratio| < 1 / 100000
  /-- Zero is resolved to the ratio of the item. -/
  item : (ratio == 0) = true → resolved = item
  /-- A negative ratio leaves it open. -/
  free : ratio < 0 → resolved = otherwise

/-- The ratio that is in force when another one was wanted. -/
def inForce (current ratio : Float) : Float := if sameRatio current ratio then current else ratio

namespace Resolver

variable (g : Resolver Float32 Float)

/-- The aspect for a wish that leaves it open. -/
def streamAspect : Float := if g.reportsAspect then g.displayAspect else g.format.pixelAspect

/-- The aspect of the picture is what a ratio asks for. -/
def HonoursAspect (ratio : Float) : Prop := Honours ratio g.itemAspect g.streamAspect g.targetAspect

/-- The aspect of the visible box is what a ratio asks for. -/
def HonoursCrop (ratio otherwise : Float) : Prop :=
  Honours ratio g.itemAspect otherwise (g.targetCrop otherwise)

theorem setAspect_snd (ratio : Float) :
    (g.setAspect ratio).2 = { g with aspect := inForce g.aspect ratio } := by
  unfold setAspect inForce
  split <;> rfl

theorem setCrop_snd (ratio : Float) :
    (g.setCrop ratio).2 = { g with crop := inForce g.crop ratio } := by
  unfold setCrop inForce
  split <;> rfl

end Resolver

/-! ## The sign of a ratio -/

namespace Float

variable {x : Float}

theorem zero_finite : (0 : Float).isFinite = true ∧ exact 0 = 0 := by decide +kernel

theorem pos_iff (finite : x.isFinite = true) : 0 < x ↔ 0 < exact x := by
  rw [lt_iff zero_finite.1 finite, zero_finite.2]

theorem neg_iff (finite : x.isFinite = true) : x < 0 ↔ exact x < 0 := by
  rw [lt_iff finite zero_finite.1, zero_finite.2]

theorem beq_zero_iff (finite : x.isFinite = true) : (x == 0) = true ↔ exact x = 0 := by
  rw [beq_iff finite zero_finite.1, zero_finite.2]

end Float

/-! ## The tolerance -/

section

variable {current ratio : Float}

/-- The tolerance is the number nearest to one part in a hundred thousand. -/
theorem exact_ratioTolerance : (ratioTolerance : Float).isFinite = true ∧
    Float.exact ratioTolerance = Value.nearest .binary64 (1 / 100000) ∧
    (0 - ratioTolerance : Float).isFinite = true ∧
    Float.exact (0 - ratioTolerance) = -Value.nearest .binary64 (1 / 100000) := by
  decide +kernel

/-- **What is found to be the same is closer than the tolerance**, as numbers. -/
theorem abs_sub_lt_of_sameRatio (hc : current.isFinite = true) (hr : ratio.isFinite = true)
    (same : sameRatio current ratio = true) :
    |Float.exact current - Float.exact ratio| < 1 / 100000 := by
  obtain ⟨finite, value, finite', value'⟩ := exact_ratioTolerance
  unfold sameRatio at same
  rw [Bool.and_eq_true, decide_eq_true_eq, decide_eq_true_eq] at same
  obtain ⟨below, above⟩ := same
  have between : (current - ratio).isFinite = true :=
    Float.isFinite_of_lt finite' finite above below
  rw [Float.lt_iff between finite, value, Float.exact_sub hc hr between] at below
  rw [Float.lt_iff finite' between, value', Float.exact_sub hc hr between,
    ← Value.nearest_neg] at above
  -- rounding keeps the order
  refine abs_lt.2 ⟨?_, ?_⟩
  · exact not_le.1 fun far => above.not_ge (Value.nearest_mono far)
  · exact not_le.1 fun far => below.not_ge (Value.nearest_mono far)

/-- What is in force is the ratio that was wanted last, up to the tolerance. -/
theorem inForce_close (hc : current.isFinite = true) (hr : ratio.isFinite = true) :
    (inForce current ratio).isFinite = true ∧
      |Float.exact (inForce current ratio) - Float.exact ratio| < 1 / 100000 := by
  unfold inForce
  split
  · next same => exact ⟨hc, abs_sub_lt_of_sameRatio hc hr same⟩
  · refine ⟨hr, ?_⟩
    rw [sub_self, abs_zero]
    norm_num

/-! ## Wishes that are honoured -/

theorem Wish.of_eq_own (h : 0 < ratio) : Wish.of ratio = .own := if_pos h

theorem Wish.of_eq_item (finite : ratio.isFinite = true) (h : (ratio == 0) = true) :
    Wish.of ratio = .item := by
  have none : ¬ 0 < ratio := by
    rw [Float.pos_iff finite, (Float.beq_zero_iff finite).1 h]
    exact lt_irrefl 0
  exact (if_neg none).trans (if_pos h)

theorem Wish.of_eq_free (finite : ratio.isFinite = true) (h : ratio < 0) :
    Wish.of ratio = .free := by
  have neg := (Float.neg_iff finite).1 h
  have none : ¬ 0 < ratio := fun pos => neg.not_gt ((Float.pos_iff finite).1 pos)
  have other : ¬ (ratio == 0) = true := fun zero => neg.ne ((Float.beq_zero_iff finite).1 zero)
  exact (if_neg none).trans (if_neg other)

/-- **A ratio is resolved by its wish.** -/
theorem Resolver.resolve_eq (g : Resolver Float32 Float) (wanted otherwise : Float) :
    g.resolve wanted otherwise =
      match Wish.of wanted with
      | .own => wanted
      | .item => g.itemAspect
      | .free => otherwise := by
  unfold resolve Wish.of
  split
  · rfl
  · split <;> rfl

/-- **A change that is not blurred is honoured**, in whatever state. -/
theorem Resolver.honours_resolve (hc : current.isFinite = true) (hr : ratio.isFinite = true)
    (sharp : ¬ Blurs current ratio) (g : Resolver Float32 Float) (otherwise : Float) :
    Honours ratio g.itemAspect otherwise (g.resolve (inForce current ratio) otherwise) := by
  have wish : Wish.of (inForce current ratio) = Wish.of ratio := by
    unfold inForce
    split
    · next same => exact not_not.1 fun other => sharp ⟨same, other⟩
    · rfl
  rw [resolve_eq, wish]
  refine ⟨fun pos => ?_, fun zero => ?_, fun neg => ?_⟩
  · rw [Wish.of_eq_own pos]
    exact inForce_close hc hr
  · rw [Wish.of_eq_item hr zero]
  · rw [Wish.of_eq_free hr neg]

/-- A wish is the sign of the number. -/
theorem Wish.of_eq_of_sign (hc : current.isFinite = true) (hr : ratio.isFinite = true)
    (sign : 0 < Float.exact current ∧ 0 < Float.exact ratio ∨
      Float.exact current = 0 ∧ Float.exact ratio = 0 ∨
      Float.exact current < 0 ∧ Float.exact ratio < 0) : Wish.of current = Wish.of ratio := by
  obtain ⟨pos, pos'⟩ | ⟨zero, zero'⟩ | ⟨neg, neg'⟩ := sign
  · rw [of_eq_own ((Float.pos_iff hc).2 pos), of_eq_own ((Float.pos_iff hr).2 pos')]
  · rw [of_eq_item hc ((Float.beq_zero_iff hc).2 zero),
      of_eq_item hr ((Float.beq_zero_iff hr).2 zero')]
  · rw [of_eq_free hc ((Float.neg_iff hc).2 neg), of_eq_free hr ((Float.neg_iff hr).2 neg')]

/-- **What is blurred is close to zero**, before and after. -/
theorem Blurs.near_zero (h : Blurs current ratio) (hc : current.isFinite = true)
    (hr : ratio.isFinite = true) :
    |Float.exact current| < 1 / 100000 ∧ |Float.exact ratio| < 1 / 100000 := by
  have close := abs_lt.1 (abs_sub_lt_of_sameRatio hc hr h.1)
  have apart : ¬ _ := fun sign => h.2 (Wish.of_eq_of_sign hc hr sign)
  rw [abs_lt, abs_lt]
  -- zero is between the two numbers
  obtain low | zero | high := lt_trichotomy (Float.exact current) 0
  · have nonneg : 0 ≤ Float.exact ratio :=
      not_lt.1 fun neg => apart (.inr (.inr ⟨low, neg⟩))
    refine ⟨⟨?_, ?_⟩, ?_, ?_⟩ <;> linarith
  · rw [zero, zero_sub] at close
    refine ⟨⟨?_, ?_⟩, ?_, ?_⟩ <;> linarith
  · have nonpos : Float.exact ratio ≤ 0 :=
      not_lt.1 fun pos => apart (.inl ⟨high, pos⟩)
    refine ⟨⟨?_, ?_⟩, ?_, ?_⟩ <;> linarith

/-- **Close to zero, what a wish is resolved to gives it away**, if the item asks for one
and whatever is taken otherwise is two. -/
theorem Honours.wish_eq {resolved : Float} (h : Honours ratio 1 2 resolved)
    (hr : ratio.isFinite = true) (small : |Float.exact ratio| < 1 / 100000) :
    Wish.of ratio = if Float.exact resolved < 1 / 2 then .own
      else if Float.exact resolved = 1 then .item else .free := by
  have one : Float.exact 1 = 1 := by decide +kernel
  have two : Float.exact 2 = 2 := by decide +kernel
  obtain neg | zero | pos := lt_trichotomy (Float.exact ratio) 0
  · have neg := (Float.neg_iff hr).2 neg
    rw [Wish.of_eq_free hr neg, h.free neg, two]
    norm_num
  · have zero := (Float.beq_zero_iff hr).2 zero
    rw [Wish.of_eq_item hr zero, h.item zero, one]
    norm_num
  · have pos := (Float.pos_iff hr).2 pos
    have close := abs_lt.1 (h.own pos).2
    have small := abs_lt.1 small
    rw [Wish.of_eq_own pos, if_pos (by linarith)]

/-- **So a blurred change is not honoured.** -/
theorem Resolver.not_honours_resolve (h : Blurs current ratio) (hc : current.isFinite = true)
    (hr : ratio.isFinite = true) (g : Resolver Float32 Float) (item : g.itemAspect = 1) :
    ¬ Honours ratio g.itemAspect 2 (g.resolve (inForce current ratio) 2) := by
  have kept : inForce current ratio = inForce current current :=
    (if_pos h.1).trans (ite_self _).symm
  have before := honours_resolve hc hc (fun blurs => blurs.2 rfl) g 2
  obtain ⟨small, small'⟩ := h.near_zero hc hr
  rw [kept, item]
  rw [item] at before
  exact fun after => h.2 ((before.wish_eq hc small).trans (after.wish_eq hr small').symm)

end

/-! ## The setters -/

namespace Resolver

/-- An item as wide as it is high, and a stream that is twice as wide. -/
def square : Resolver Float32 Float := { initial with item := ⟨1, 1⟩, displayAspect := 2 }

theorem square_aspects : square.itemAspect = 1 ∧ square.streamAspect = 2 := by
  decide +kernel

end Resolver

/-- **A wanted ratio is honoured unless the change is blurred**, for the picture and for
the visible box. A blurred change is not taken, and both ratios are close to zero then. -/
theorem ratio_honoured_unless_blurred {current ratio : Float} (hc : current.isFinite = true)
    (hr : ratio.isFinite = true) :
    ((∀ g : Resolver Float32 Float, g.aspect = current →
        (g.setAspect ratio).2.HonoursAspect ratio) ↔ ¬ Blurs current ratio) ∧
      ((∀ (g : Resolver Float32 Float) (otherwise : Float), g.crop = current →
        (g.setCrop ratio).2.HonoursCrop ratio otherwise) ↔ ¬ Blurs current ratio) ∧
      (Blurs current ratio →
        |Float.exact current| < 1 / 100000 ∧ |Float.exact ratio| < 1 / 100000 ∧
        (∀ g : Resolver Float32 Float, g.aspect = current → g.setAspect ratio = (false, g)) ∧
        ∀ g : Resolver Float32 Float, g.crop = current → g.setCrop ratio = (false, g)) := by
  obtain ⟨item, stream⟩ := Resolver.square_aspects
  refine ⟨⟨fun honours blurs => ?_, fun sharp g before => ?_⟩,
    ⟨fun honours blurs => ?_, fun sharp g otherwise before => ?_⟩, fun blurs => ?_⟩
  · have honours := honours { Resolver.square with aspect := current } rfl
    have apart := Resolver.not_honours_resolve blurs hc hr Resolver.square item
    rw [Resolver.setAspect_snd] at honours
    rw [← stream] at apart
    exact apart honours
  · subst before
    rw [Resolver.setAspect_snd]
    exact g.honours_resolve hc hr sharp _
  · have honours := honours { Resolver.square with crop := current } 2 rfl
    rw [Resolver.setCrop_snd] at honours
    exact Resolver.not_honours_resolve blurs hc hr Resolver.square item honours
  · subst before
    rw [Resolver.setCrop_snd]
    exact g.honours_resolve hc hr sharp otherwise
  · obtain ⟨small, small'⟩ := blurs.near_zero hc hr
    refine ⟨small, small', ?_, ?_⟩
    · rintro g rfl
      exact if_pos blurs.1
    · rintro g rfl
      exact if_pos blurs.1

/-- After nothing was wanted, a wide picture is. -/
theorem ratio_honoured_unless_blurred_wide :
    ¬ Blurs (-1) 2 ∧ ((Resolver.initial : Resolver Float32 Float).setAspect 2).2.HonoursAspect 2 ∧
      ((Resolver.initial : Resolver Float32 Float).setCrop 2).2.HonoursCrop 2 1 := by
  have sharp : ¬ Blurs (-1) 2 := by decide +kernel
  have unset : (Resolver.initial : Resolver Float32 Float).aspect = -1 ∧
      (Resolver.initial : Resolver Float32 Float).crop = -1 := by decide +kernel
  obtain ⟨aspect, crop, -⟩ := @ratio_honoured_unless_blurred (-1) 2 (by decide +kernel)
    (by decide +kernel)
  exact ⟨sharp, aspect.2 sharp _ unset.1, crop.2 sharp _ 1 unset.2⟩

/-- An item twice as wide as it is high, for which a tiny ratio was wanted. -/
def Resolver.sliver : Resolver Float32 Float :=
  { initial with item := ⟨2, 1⟩, aspect := 0.000005, crop := 0.000005 }

/-- **The ratio of the item is not taken after a tiny one**: the aspect of the picture
and of the visible box stay tiny. -/
theorem item_ratio_blurred :
    Resolver.sliver.aspect.isFinite = true ∧ Resolver.sliver.itemAspect = 2 ∧
      Resolver.sliver.setAspect 0 = (false, Resolver.sliver) ∧
      (Resolver.sliver.setAspect 0).2.targetAspect = 0.000005 ∧
      ¬ (Resolver.sliver.setAspect 0).2.HonoursAspect 0 ∧
      Resolver.sliver.setCrop 0 = (false, Resolver.sliver) ∧
      (Resolver.sliver.setCrop 0).2.targetCrop 1 = 0.000005 ∧
      ¬ (Resolver.sliver.setCrop 0).2.HonoursCrop 0 1 := by
  have zero : ((0 : Float) == 0) = true := by decide +kernel
  have same : sameRatio (0.000005 : Float) 0 = true := by decide +kernel
  have kept : Resolver.sliver.setAspect 0 = (false, Resolver.sliver) := if_pos same
  have kept' : Resolver.sliver.setCrop 0 = (false, Resolver.sliver) := if_pos same
  have wide : Resolver.sliver.itemAspect = 2 := by decide +kernel
  have aspect : Resolver.sliver.targetAspect = 0.000005 := by decide +kernel
  have crop : Resolver.sliver.targetCrop 1 = 0.000005 := by decide +kernel
  have apart : (0.000005 : Float) ≠ 2 := by decide +kernel
  refine ⟨by decide +kernel, wide, kept, ?_, ?_, kept', ?_, ?_⟩
  · rw [kept, aspect]
  · rw [kept]
    exact fun honours => apart (aspect.symm.trans ((honours.item zero).trans wide))
  · rw [kept', crop]
  · rw [kept']
    exact fun honours => apart (crop.symm.trans ((honours.item zero).trans wide))

end Projector
