import Mathlib.Data.Rat.Floor
import Mathlib.Tactic.FieldSimp
import Projector.Proofs.Frame
import Projector.Shader.Program

/-!
# Where chroma is read

A fragment program has one horizontal position for all slots, a part of
the luma row. Chroma covers two columns, so the texel that belongs to
column `x` is the one numbered `x / 2`. Whether the program reads this one
is a matter of three widths: of the luma texture, of the chroma texture,
and of the row that the stride correction is computed from.

Over the rational numbers nothing rounds, and the position comes out at
`((2x + 1) / 2) * (span / 2) / span`, where `span` is how many luma columns
the chroma row stands for. If `span` is even, the factor is one half and
the texel is the right one. If it is odd, the texture has half a texel less
than the correction believes, the picture is drawn towards the left, and
an even column past the middle of the span reads the texel before its own.
-/

namespace Projector

namespace VideoFormat

variable (f : VideoFormat)

/-- How many texels wide slot `i` is; 0 past the last slot. -/
def slotWidth (i : Nat) : Nat := ((f.slotSize? i).map Prod.fst).getD 0

/-- **The factor that the fragment program applies** to a luma position
before it reads slot `i`: `fetch` has the slot's stride correction in the
planar and semi-planar types, and no factor in the others. -/
def appliedCorrection (i : Nat) : Rat :=
  match f.layout.sampling with
  | .planar | .semiPlanar _ => f.slotCorrection (S := Rat) i
  | .packed _ | .rgb => 1

/-- **The texel of slot `i` that is read at the centre of luma column
`x`**, in exact arithmetic. -/
def texelColumn (i x : Nat) : Int :=
  ⌊((x : Rat) + 1 / 2) / f.slotWidth 0 * f.appliedCorrection i * f.slotWidth i⌋

/-- **How many luma columns a row of slot `i` stands for**: its bytes times
the divisor, where there is one, and as many as the luma texture has where
there is none. -/
def lumaSpan (i : Nat) : Nat :=
  match f.layout.slots[i]? with
  | none => f.slotWidth 0
  | some slot =>
    match slot.strideDivisor with
    | none => f.slotWidth 0
    | some divisor => f.byteWidth slot.sourcePlane * divisor

end VideoFormat

/-! ## The arithmetic -/

/-- **Half of an odd number of columns is too little.** The centre of
column `x` of `span` falls into texel `x / 2` of `span / 2`, unless the span
is odd and the column is an even one past the middle. -/
theorem centre_div_eq_iff {x span : Nat} (hx : x < span) :
    (2 * x + 1) * (span / 2) / (2 * span) = x / 2 ↔
      span % 2 = 0 ∨ x % 2 = 1 ∨ x ≤ span / 2 := by
  have hspan : 0 < 2 * span := by omega
  rw [Nat.div_eq_iff hspan]
  obtain ⟨half, rfl | rfl⟩ := Nat.even_or_odd' span
  · -- an even span is twice the texels, and these cancel
    have hhalf : 2 * half / 2 = half := by omega
    have hlow : x / 2 * (2 * (2 * half)) = (4 * (x / 2)) * half := by ring
    have hle : (4 * (x / 2)) * half ≤ (2 * x + 1) * half := Nat.mul_le_mul_right _ (by omega)
    have hlt : (2 * x + 1) * half < (4 * (x / 2) + 4) * half :=
      Nat.mul_lt_mul_of_pos_right (by omega) (by omega)
    have hhigh : (4 * (x / 2) + 4) * half = 4 * (x / 2) * half + 4 * half := by ring
    rw [hhalf, hlow]
    omega
  · have hhalf : (2 * half + 1) / 2 = half := by omega
    rw [hhalf]
    obtain ⟨y, rfl | rfl⟩ := Nat.even_or_odd' x
    · have hy : 2 * y / 2 = y := by omega
      have hcentre : (2 * (2 * y) + 1) * half = 4 * (y * half) + half := by ring
      have htexel : y * (2 * (2 * half + 1)) = 4 * (y * half) + 2 * y := by ring
      rw [hy, hcentre, htexel]
      omega
    · have hy : (2 * y + 1) / 2 = y := by omega
      have hcentre : (2 * (2 * y + 1) + 1) * half = 4 * (y * half) + 3 * half := by ring
      have htexel : y * (2 * (2 * half + 1)) = 4 * (y * half) + 2 * y := by ring
      rw [hy, hcentre, htexel]
      omega

namespace VideoFormat

variable {f : VideoFormat}

/-! ## The widths -/

/-- **A chroma slot against its span**: it has a texel for every two
columns, the picture is within the span, and the correction is the luma
texture's width over it. -/
structure Halves (f : VideoFormat) (i : Nat) : Prop where
  /-- A texel for every two columns. -/
  width : f.slotWidth i = f.lumaSpan i / 2
  /-- The picture is within the span. -/
  covers : f.width ≤ f.lumaSpan i
  /-- The luma texture is there. -/
  luma : 0 < f.slotWidth 0
  /-- The correction. -/
  correction : f.appliedCorrection i = f.slotWidth 0 / f.lumaSpan i

theorem slotWidth_eq {i : Nat} {slot : SlotLayout} (hi : f.layout.slots[i]? = some slot) :
    f.slotWidth i = f.byteWidth slot.width.plane / 2 ^ slot.width.shift := by
  unfold slotWidth slotSize?
  rw [hi, ← Nat.shiftRight_eq_div_pow]
  rfl

/-- In exact arithmetic a stride correction is the quotient that it stands
for. -/
theorem slotCorrection_rat {i divisor : Nat} {slot : SlotLayout}
    (hi : f.layout.slots[i]? = some slot) (hd : slot.strideDivisor = some divisor)
    (hpos : 0 < f.byteWidth slot.sourcePlane * divisor) :
    f.slotCorrection (S := Rat) i =
      f.byteWidth 0 / (f.byteWidth slot.sourcePlane * divisor : Nat) := by
  have hpos' : (0 : Rat) < f.byteWidth slot.sourcePlane * divisor := by exact_mod_cast hpos
  unfold slotCorrection
  simp only [hi, hd]
  rw [Nat.cast_mul]
  exact if_pos hpos'

/-- A slot with a divisor, beside a luma slot as wide as its row. -/
theorem halves_of_divisor {i divisor : Nat} {luma slot : SlotLayout}
    (hluma : f.layout.slots[0]? = some luma) (hrow : luma.width = ⟨0, 0⟩)
    (hi : f.layout.slots[i]? = some slot) (hd : slot.strideDivisor = some divisor)
    (hplane : slot.width.plane = slot.sourcePlane)
    (hhalf : 2 ^ slot.width.shift * divisor = 2)
    (happlied : f.appliedCorrection i = f.slotCorrection (S := Rat) i)
    (hwidth : 0 < f.width) (hcolumns : f.width ≤ f.byteWidth 0)
    (hspan : f.width ≤ f.byteWidth slot.sourcePlane * divisor) : f.Halves i := by
  have hlumaSpan : f.lumaSpan i = f.byteWidth slot.sourcePlane * divisor := by
    unfold lumaSpan
    rw [hi]
    simp only [hd]
  have hluma0 : f.slotWidth 0 = f.byteWidth 0 := by
    rw [slotWidth_eq hluma, hrow]
    exact Nat.div_one _
  refine ⟨?_, ?_, ?_, ?_⟩
  · have hpos : 0 < divisor := Nat.pos_of_mul_pos_left (hhalf ▸ Nat.two_pos)
    rw [slotWidth_eq hi, hplane, hlumaSpan]
    calc f.byteWidth slot.sourcePlane / 2 ^ slot.width.shift
        = f.byteWidth slot.sourcePlane * divisor / (2 ^ slot.width.shift * divisor) :=
          (Nat.mul_div_mul_right _ _ hpos).symm
      _ = f.byteWidth slot.sourcePlane * divisor / 2 := by rw [hhalf]
  · rw [hlumaSpan]
    exact hspan
  · omega
  · rw [happlied, slotCorrection_rat hi hd (by omega), hluma0, hlumaSpan]

/-- A slot without a divisor that reads the luma row again, in texels twice
as long. -/
theorem halves_of_aliased {i : Nat} {luma slot : SlotLayout}
    (hluma : f.layout.slots[0]? = some luma) (hrow : luma.width = ⟨0, 1⟩)
    (hi : f.layout.slots[i]? = some slot) (hd : slot.strideDivisor = none)
    (hwide : slot.width = ⟨0, 2⟩) (happlied : f.appliedCorrection i = 1)
    (hwidth : 0 < f.width) (hcolumns : f.width ≤ f.byteWidth 0 / 2) : f.Halves i := by
  have hluma0 : f.slotWidth 0 = f.byteWidth 0 / 2 := by
    rw [slotWidth_eq hluma, hrow, Nat.pow_one]
  have hlumaSpan : f.lumaSpan i = f.slotWidth 0 := by
    unfold lumaSpan
    rw [hi]
    simp only [hd]
  have hpos : (f.slotWidth 0 : Rat) ≠ 0 := by
    exact_mod_cast (by omega : f.slotWidth 0 ≠ 0)
  refine ⟨?_, ?_, ?_, ?_⟩
  · rw [hlumaSpan, hluma0, slotWidth_eq hi, hwide, Nat.div_div_eq_div_mul]
    rfl
  · rw [hlumaSpan, hluma0]
    exact hcolumns
  · omega
  · rw [happlied, hlumaSpan, div_self hpos]

/-- **Every chroma slot of a picture halves its span.** -/
theorem Formed.halves (h : f.Formed) (yuv : f.pixelType.isYuv = true) {i : Nat} (hi : 0 < i)
    (hslot : i < f.layout.slots.length) : f.Halves i := by
  have picture : f.isEmpty = false := by
    rw [← Bool.not_eq_true, h.isEmpty_iff]
    rintro empty
    rw [empty] at yuv
    cases yuv
  obtain ⟨width0, sizes, hs, wide⟩ := h.covers picture
  obtain ⟨type, width, height, planes⟩ := f
  dsimp only at yuv width0 hs
  cases type <;> simp only [PixelType.planeSizes, Checked.bind_eq_ok, Checked.fit32_eq_ok] at hs
  case empty | rgba | bgra => cases yuv
  case i420 =>
    cases hs
    obtain ⟨luma, -⟩ := wide 0 _ _ rfl
    obtain rfl | rfl : i = 1 ∨ i = 2 := by
      change i < 3 at hslot
      omega
    · obtain ⟨chroma, -⟩ := wide 1 _ _ rfl
      refine halves_of_divisor rfl rfl rfl rfl rfl rfl rfl width0 luma ?_
      change width ≤ byteWidth _ 1 * 2
      omega
    · obtain ⟨chroma, -⟩ := wide 2 _ _ rfl
      refine halves_of_divisor rfl rfl rfl rfl rfl rfl rfl width0 luma ?_
      change width ≤ byteWidth _ 2 * 2
      omega
  case nv12 | nv21 =>
    obtain ⟨row, ⟨-, rfl⟩, hs⟩ := hs
    cases hs
    obtain ⟨luma, -⟩ := wide 0 _ _ rfl
    obtain ⟨chroma, -⟩ := wide 1 _ _ rfl
    obtain rfl : i = 1 := by
      change i < 2 at hslot
      omega
    refine halves_of_divisor rfl rfl rfl rfl rfl rfl rfl width0 luma ?_
    change width ≤ byteWidth _ 1 * 1
    omega
  case yuy2 | uyvy =>
    obtain ⟨row, ⟨-, rfl⟩, hs⟩ := hs
    cases hs
    obtain ⟨pairs, -⟩ := wide 0 _ _ rfl
    obtain rfl : i = 1 := by
      change i < 2 at hslot
      omega
    refine halves_of_aliased rfl rfl rfl rfl rfl rfl width0 ?_
    change width ≤ byteWidth _ 0 / 2
    omega

/-! ## The texel -/

/-- The position is a quotient of natural numbers, half of the span over
the span. -/
theorem Halves.texelColumn_eq {i : Nat} (h : f.Halves i) (hwidth : 0 < f.width) (x : Nat) :
    f.texelColumn i x = ((2 * x + 1) * (f.lumaSpan i / 2) / (2 * f.lumaSpan i) : Nat) := by
  have hluma : (f.slotWidth 0 : Rat) ≠ 0 := by exact_mod_cast h.luma.ne'
  have hspan : (f.lumaSpan i : Rat) ≠ 0 := by
    have := h.covers
    exact_mod_cast (by omega : f.lumaSpan i ≠ 0)
  have hposition : ((x : Rat) + 1 / 2) / f.slotWidth 0 * f.appliedCorrection i * f.slotWidth i =
      ((2 * x + 1) * (f.lumaSpan i / 2) : Nat) / (2 * f.lumaSpan i : Nat) := by
    rw [h.correction, h.width]
    push_cast
    field_simp
  unfold texelColumn
  rw [hposition, Rat.floor_natCast_div_natCast]
  exact (Int.natCast_div _ _).symm

/-- **Where chroma is read, exactly.** At a column of the picture a chroma
slot is read at the texel of that column if and only if the slot's span is
even, or the column is odd, or it is not past the middle of the span. -/
theorem texelColumn_eq_iff (formed : f.Formed) (yuv : f.pixelType.isYuv = true) {i x : Nat}
    (hi : 0 < i) (hslot : i < f.layout.slots.length) (hx : x < f.width) :
    f.texelColumn i x = (x / 2 : Nat) ↔
      f.lumaSpan i % 2 = 0 ∨ x % 2 = 1 ∨ x ≤ f.lumaSpan i / 2 := by
  have h := formed.halves yuv hi hslot
  rw [h.texelColumn_eq (by omega), Nat.cast_inj]
  exact centre_div_eq_iff (Nat.lt_of_lt_of_le hx h.covers)

/-- Rows padded alike: the last pair of columns of a picture of 1918 in rows
of 1920 bytes. -/
theorem texelColumn_padded_alike : ∃ f, withStrides .nv12 1918 1080 [1920, 1920] = .ok f ∧
    f.pixelType.isYuv = true ∧ 1 < f.layout.slots.length ∧ 1916 < f.width ∧
    f.texelColumn 1 1916 = 958 :=
  ⟨⟨.nv12, 1918, 1080, [⟨1920, 1080⟩, ⟨1920, 540⟩]⟩, by decide, rfl, by decide, by decide,
    (texelColumn_eq_iff ⟨.nv12, 1918, 1080, [1920, 1920], by decide⟩ rfl (by decide) (by decide)
      (by decide)).2 (.inl rfl)⟩

/-- **A row of seven bytes of chroma is read one texel too early**: its
texture has three texels, the correction counts three and a half. -/
theorem texelColumn_odd_row : ∃ f, withStrides .nv12 6 2 [6, 7] = .ok f ∧
    f.pixelType.isYuv = true ∧ 1 < f.layout.slots.length ∧ 4 < f.width ∧
    f.texelColumn 1 4 = 1 ∧ f.texelColumn 1 4 ≠ (4 / 2 : Nat) := by
  have e : withStrides .nv12 6 2 [6, 7] = .ok ⟨.nv12, 6, 2, [⟨6, 2⟩, ⟨7, 1⟩]⟩ := by decide
  have formed : Formed ⟨.nv12, 6, 2, [⟨6, 2⟩, ⟨7, 1⟩]⟩ := ⟨_, _, _, _, e⟩
  have read := (formed.halves rfl (i := 1) (by decide) (by decide)).texelColumn_eq (by decide) 4
  refine ⟨_, e, rfl, by decide, by decide, read, ?_⟩
  rw [read]
  decide

end VideoFormat

end Projector
