import Projector.Geometry.Quad
import Projector.Proofs.Admission
import Projector.Proofs.Arithmetic

/-!
# The table of pixel types and the planes

What a frame of a type looks like is written down four times: the sizes of its planes,
the planes and shifts that a slot is made of, the bytes of a texel, and the bytes of
plane 0 that a column of the picture takes. They fit together. The rows of a plane are
cut into whole texels, so a slot has as many as its source plane has room for, and no
texel of a tight row is left over. The first slot has a texel for every column that is
drawn, and there are at least as many as the picture has.

So the picture ends within its texture. Where it ends is worked out in single precision,
and both numbers are rounded before they are divided; rounding keeps the order, and so
the quotient is not above one.
-/

namespace Projector

/-! ## The table -/

namespace PixelType

variable {t : PixelType} {width height : Nat} {sizes : List PlaneSize}

/-- **A tight row is cut into whole texels**, whatever slot it is cut for. -/
theorem texel_dvd_rowBytes (e : t.planeSizes width height = .ok sizes) :
    ∀ slot ∈ t.layout.slots, ∀ size, sizes[slot.sourcePlane]? = some size →
      slot.texel.bytes ∣ size.rowBytes := by
  obtain rfl := tightSizes_of_planeSizes e
  cases t <;>
    simp [layout, tightSizes, planarSlots, semiPlanarSlots, packedSlots, rgbSlots,
      TexelFormat.bytes] <;> omega

/-- **A tight row of the first plane has the bytes of every column.** -/
theorem columns_le_rowBytes (e : t.planeSizes width height = .ok sizes) (picture : t ≠ empty) :
    ∃ size, sizes[0]? = some size ∧ width * t.layout.plane0BytesPerPixel ≤ size.rowBytes := by
  obtain rfl := tightSizes_of_planeSizes e
  cases t with
  | empty => exact absurd rfl picture
  | i420 | nv12 | nv21 | rgba | bgra => exact ⟨_, rfl, by simp [layout]⟩
  | yuy2 | uyvy =>
    refine ⟨_, rfl, ?_⟩
    show width * 2 ≤ (width + 1) / 2 * 4
    omega

end PixelType

namespace VideoFormat

/-- **A slot is what its source plane has room for.** -/
structure SlotFits (f : VideoFormat) (i : Nat) (slot : SlotLayout) (width height : Nat) : Prop where
  /-- There is such a plane. -/
  source : slot.sourcePlane < f.planeCount
  /-- This is the size of the slot. -/
  size : f.slotSize? i = some (width, height)
  /-- There is a texel in every row. -/
  width_pos : 0 < width
  /-- There is a row. -/
  height_pos : 0 < height
  /-- The slot has a row for every row of the plane. -/
  rows : height = f.byteHeight slot.sourcePlane
  /-- A row of the slot is not longer than a row of the plane. -/
  room : width * slot.texel.bytes ≤ f.byteWidth slot.sourcePlane
  /-- There is no room for another texel. -/
  filled : f.byteWidth slot.sourcePlane < width * slot.texel.bytes + slot.texel.bytes

/-- **A format fits its row of the table.** -/
structure Tabled (f : VideoFormat) : Prop where
  /-- There are as many planes as the table says. -/
  planes : f.planeCount = f.layout.planeCount
  /-- Every slot is what its source plane has room for. -/
  slots : ∀ i slot, f.layout.slots[i]? = some slot → ∃ width height, f.SlotFits i slot width height
  /-- No column of the picture is left out. -/
  columns : f.width ≤ f.drawWidth
  /-- The first slot has a texel for every column that is drawn. -/
  first : ∃ height, f.slotSize? 0 = some (f.drawWidth, height)

variable {f : VideoFormat}

/-- **Slots are what their planes have room for**, whatever the padding. -/
theorem Formed.slotFits (h : f.Formed) {i : Nat} {slot : SlotLayout}
    (hi : f.layout.slots[i]? = some slot) :
    f.SlotFits i slot (f.byteWidth slot.sourcePlane / slot.texel.bytes)
      (f.byteHeight slot.sourcePlane) := by
  obtain ⟨size, room, rows, source⟩ := h.slot hi
  have pos : 0 < slot.texel.bytes := by cases slot.texel <;> decide
  exact {
    source
    size
    width_pos := Nat.div_pos room pos
    height_pos := rows
    rows := rfl
    room := Nat.div_mul_le_self _ _
    filled := Nat.lt_div_mul_add pos }

theorem Formed.tabled (h : f.Formed) (picture : f.isEmpty = false) : f.Tabled := by
  have type_ne : f.pixelType ≠ .empty := fun none => by
    rw [h.isEmpty_iff.2 none] at picture
    cases picture
  obtain ⟨slot, first⟩ := PixelType.exists_first_slot type_ne
  obtain ⟨plane, bytes⟩ := PixelType.first_slot _ slot first
  obtain ⟨-, sizes, hs, covers⟩ := h.covers picture
  obtain ⟨size, tight, columns⟩ := PixelType.columns_le_rowBytes hs type_ne
  have width := (covers 0 size.rowBytes size.rows tight).1
  have fits := h.slotFits first
  have pos : 0 < f.layout.plane0BytesPerPixel := by
    rw [← show slot.texel.bytes = f.layout.plane0BytesPerPixel from bytes]
    cases slot.texel <;> decide
  refine ⟨h.length_planes, fun i slot hi => ⟨_, _, h.slotFits hi⟩, ?_, f.byteHeight 0, ?_⟩
  · exact (Nat.le_div_iff_mul_le pos).2 (columns.trans width)
  · have size := fits.size
    rw [plane, bytes] at size
    exact size

/-- **No texel of a tight row is left over.** -/
theorem mul_texel_of_tight {type : PixelType} {width height : Nat}
    (e : withStrides type width height [] = .ok f) {i w h : Nat} {slot : SlotLayout}
    (hi : f.layout.slots[i]? = some slot) (size : f.slotSize? i = some (w, h)) :
    w * slot.texel.bytes = f.byteWidth slot.sourcePlane := by
  have formed : f.Formed := ⟨type, width, height, [], e⟩
  obtain ⟨-, rfl⟩ | ⟨width0, height0, sizes, hs, rfl⟩ := withStrides_eq_ok e
  · cases hi
  have among : slot ∈ type.layout.slots := List.mem_of_getElem? hi
  obtain ⟨tight, plane, -⟩ := (PixelType.planeSizes_holds_slot hs width0 height0).2 slot among
  have row := byteWidth_eq (f := ⟨type, width, height, widen sizes []⟩)
    ((congrArg (·[slot.sourcePlane]?) (widen_nil sizes)).trans plane)
  have fits := (formed.slotFits hi).size
  obtain ⟨rfl, -⟩ := Prod.mk.inj (Option.some.inj (size.symm.trans fits))
  rw [row]
  exact Nat.div_mul_cancel (PixelType.texel_dvd_rowBytes hs slot among tight plane)

end VideoFormat

/-! ## The edge of the picture -/

/-- **A part of a whole is more than nothing and not more than all**, rounded as it is. -/
theorem Float32.share_bounds {n m : Nat} (pos : 0 < n) (le : n ≤ m) (small : m < 2 ^ 64) :
    0 < Float32.ofNat n / Float32.ofNat m ∧ Float32.ofNat n / Float32.ofNat m ≤ 1 := by
  have ends : (0 : Float32).isFinite = true ∧ exact 0 = 0 ∧
      (1 : Float32).isFinite = true ∧ exact 1 = 1 := by decide +kernel
  obtain ⟨zero, zero', one, one'⟩ := ends
  obtain ⟨hn, en⟩ := exact_ofNat (le.trans_lt small)
  obtain ⟨hm, em⟩ := exact_ofNat small
  have power (k : Int) (least : -149 ≤ k) : Value.nearest .binary32 (2 ^ k) = 2 ^ k :=
    Value.nearest_two_zpow least
  -- the two numbers, rounded
  have least : 1 ≤ exact (.ofNat n) := by
    have mono : Value.nearest .binary32 (2 ^ (0 : Int)) ≤ Value.nearest .binary32 n :=
      Value.nearest_mono (by exact_mod_cast pos)
    rwa [power 0 (by decide), zpow_zero, ← en] at mono
  have order : exact (.ofNat n) ≤ exact (.ofNat m) := by
    rw [en, em]
    exact Value.nearest_mono (Nat.cast_le.2 le)
  have most : exact (.ofNat m) ≤ 2 ^ (64 : Int) := by
    have mono : Value.nearest .binary32 m ≤ Value.nearest .binary32 (2 ^ (64 : Int)) :=
      Value.nearest_mono (by exact_mod_cast small.le)
    rwa [power 64 (by decide), ← em] at mono
  have above : 0 < exact (.ofNat n) := zero_lt_one.trans_le least
  have above' : 0 < exact (.ofNat m) := above.trans_le order
  -- their quotient
  have low : (2 : Rat) ^ (-64 : Int) ≤ exact (.ofNat n) / exact (.ofNat m) := by
    rw [le_div_iff₀ above']
    calc (2 : Rat) ^ (-64 : Int) * exact (.ofNat m)
        ≤ 2 ^ (-64 : Int) * 2 ^ (64 : Int) :=
          mul_le_mul_of_nonneg_left most (Value.two_zpow_pos (-64)).le
      _ = 1 := by rw [← Value.two_zpow_add]; exact zpow_zero 2
      _ ≤ exact (.ofNat n) := least
  have high : exact (.ofNat n) / exact (.ofNat m) ≤ 2 ^ (0 : Int) := (div_le_one above').2 order
  have low' : _ ≤ Value.nearest .binary32 _ := Value.nearest_mono low
  have high' : Value.nearest .binary32 _ ≤ _ := Value.nearest_mono high
  rw [power (-64) (by decide)] at low'
  rw [power 0 (by decide), zpow_zero] at high'
  have nonneg := (Value.two_zpow_pos (-64)).le.trans low'
  obtain ⟨finite, value⟩ := exact_div hn hm above above'
    ((Value.two_zpow_le (by decide)).trans low)
    (by rw [abs_of_nonneg nonneg]; exact high'.trans_lt (by norm_num))
  rw [lt_iff zero finite, le_iff finite one, zero', one', value]
  exact ⟨(Value.two_zpow_pos (-64)).trans_le low', high'⟩

/-- **Where the picture ends in its texture**: at the right, or at the left of one that is
turned. -/
def TexCoords.edge {S : Type} (effects : Effects) (t : TexCoords S) : S :=
  if effects.active.contains .flipHorizontally then t.left else t.right

theorem TexCoords.edge_ofFormat {S : Type} [Scalar S] {f : VideoFormat}
    (picture : f.isEmpty = false) (columns : f.drawWidth ≠ 0) (effects : Effects) :
    (ofFormat f effects : TexCoords S).edge effects =
      Scalar.ofNat f.width / Scalar.ofNat f.drawWidth := by
  have covered : (f.isEmpty || f.drawWidth == 0) = false := by
    rw [picture, Bool.false_or]
    exact beq_eq_false_iff_ne.2 columns
  unfold ofFormat edge
  rw [if_neg (Bool.eq_false_iff.1 covered)]
  dsimp only
  by_cases turned : effects.active.contains .flipHorizontally
  · rw [if_pos turned, if_pos turned]
    cases effects.active.contains .flipVertically <;> rfl
  · rw [if_neg turned, if_neg turned]
    cases effects.active.contains .flipVertically <;> rfl

/-- **The picture ends within its texture.** -/
structure VideoFormat.EndsWithin (f : VideoFormat) : Prop where
  /-- As a number. -/
  exact : ∀ effects, let edge : Rat := (TexCoords.ofFormat f effects).edge effects
    edge = f.width / f.drawWidth ∧ 0 < edge ∧ edge ≤ 1
  /-- And as a coordinate. -/
  rounded : ∀ effects, let edge : Float32 := (TexCoords.ofFormat f effects).edge effects
    0 < edge ∧ edge ≤ 1

theorem VideoFormat.Tabled.endsWithin {f : VideoFormat} (h : f.Tabled)
    (picture : f.isEmpty = false) (pos : 0 < f.width) (small : f.drawWidth < 2 ^ 64) :
    f.EndsWithin := by
  have columns := pos.trans_le h.columns
  refine ⟨fun effects => ?_, fun effects => ?_⟩
  · have positive : (0 : Rat) < f.drawWidth := Nat.cast_pos.2 columns
    rw [TexCoords.edge_ofFormat picture columns.ne']
    refine ⟨rfl, div_pos (Nat.cast_pos.2 pos) positive, ?_⟩
    exact (div_le_one positive).2 (Nat.cast_le.2 h.columns)
  · rw [TexCoords.edge_ofFormat picture columns.ne']
    exact Float32.share_bounds pos h.columns small

/-- **The table of pixel types fits the planes** of every picture whose rows can be counted,
however they are padded. -/
theorem layout_table_fits_planes {type : PixelType} {width height : Nat} {strides : List Nat}
    {sizes : List PlaneSize} (picture : type ∈ PixelType.supported) (width_pos : 0 < width)
    (height_pos : 0 < height) (word : width < UInt32.size)
    (words : ∀ stride ∈ strides, stride < UInt32.size)
    (counted : type.planeSizes width height = .ok sizes) :
    ∃ f, VideoFormat.withStrides type width height strides = .ok f ∧
      f.pixelType = type ∧ f.size = (width, height) ∧
      f.planes.map PlaneSize.rows = sizes.map PlaneSize.rows ∧ f.Tabled ∧ f.EndsWithin ∧
      (strides = [] → ∀ i slot w h, f.layout.slots[i]? = some slot → f.slotSize? i = some (w, h) →
        w * slot.texel.bytes = f.byteWidth slot.sourcePlane) := by
  have ne : type ≠ .empty := (PixelType.mem_supported_iff type).1 picture
  have made : VideoFormat.withStrides type width height strides =
      .ok ⟨type, width, height, VideoFormat.widen sizes strides⟩ := by
    have pixels : ¬ (width = 0 ∨ height = 0) := by omega
    unfold VideoFormat.withStrides VideoFormat.tight
    rw [if_neg pixels, counted]
    rfl
  have formed : VideoFormat.Formed ⟨type, width, height, VideoFormat.widen sizes strides⟩ :=
    ⟨type, width, height, strides, made⟩
  have worded : VideoFormat.Worded ⟨type, width, height, VideoFormat.widen sizes strides⟩ :=
    ⟨type, width, height, strides, word, words, made⟩
  have planes := Bool.eq_false_iff.2 fun none => ne (formed.isEmpty_iff.1 none)
  have tabled := formed.tabled planes
  refine ⟨_, made, rfl, rfl, VideoFormat.widen_rows sizes strides, tabled, ?_, ?_⟩
  · refine tabled.endsWithin planes width_pos ?_
    exact (Nat.div_le_self _ _).trans_lt ((worded.byteWidth_lt 0).trans (by decide))
  · rintro rfl i slot w h hi size
    exact VideoFormat.mul_texel_of_tight made hi size

/-- A picture of odd size in a padded plane. -/
theorem layout_table_fits_planes_odd :
    ∃ f, VideoFormat.withStrides .yuy2 3 1 [13] = .ok f ∧ f.planes = [⟨13, 1⟩] ∧ f.Tabled ∧
      f.EndsWithin := by
  obtain ⟨f, made, -, -, -, tabled, ends, -⟩ := @layout_table_fits_planes .yuy2 3 1 [13] [⟨8, 1⟩]
    (by decide) (by decide) (by decide) (by decide) (by decide) rfl
  cases made
  exact ⟨_, rfl, rfl, tabled, ends⟩

end Projector
