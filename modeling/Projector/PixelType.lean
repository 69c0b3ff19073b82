/-!
# Pixel types

A decoded frame arrives as one to three planes of bytes, and the pixel
type says how the bytes stand for a picture. Everything that depends on
the type reads one row of one table, `PixelType.layout`: which plane
feeds which texture slot, what a texel of the slot is, how large the slot
is in terms of the plane's bytes, and how luma and chroma are picked out
of the texels. Allocation, upload and the fragment program therefore
cannot disagree about a type.

The tight size of each plane for a given picture is the other half,
`PixelType.planeSizes`. Chroma that is subsampled covers two columns, and
for the planar and semi-planar types two rows as well, so odd sizes round
up.
-/

namespace Projector

/-- **How the bytes of a frame stand for a picture.** -/
inductive PixelType where
  /-- No picture. -/
  | empty
  /-- Luma and the two chroma components in three planes. -/
  | i420
  /-- Luma in one plane, blue and red chroma alternating in another. -/
  | nv12
  /-- Luma in one plane, red and blue chroma alternating in another. -/
  | nv21
  /-- One plane of luma, blue, luma, red. -/
  | yuy2
  /-- One plane of blue, luma, red, luma. -/
  | uyvy
  /-- One plane of red, green, blue, alpha. -/
  | rgba
  /-- One plane of blue, green, red, alpha. -/
  | bgra
  deriving DecidableEq, Repr, Inhabited

/-- **What one texel of a texture holds.** -/
inductive TexelFormat where
  /-- One component. -/
  | r8
  /-- Two components. -/
  | rg8
  /-- Four components, red first. -/
  | rgba8
  /-- Four components, blue first. -/
  | bgra8
  deriving DecidableEq, Repr

namespace TexelFormat

/-- Bytes of one texel. -/
def bytes : TexelFormat → Nat
  | r8 => 1
  | rg8 => 2
  | rgba8 => 4
  | bgra8 => 4

/-- The name a texel format has in messages. -/
def name : TexelFormat → String
  | r8 => "R8"
  | rg8 => "Rg8"
  | rgba8 => "Rgba8"
  | bgra8 => "Bgra8"

end TexelFormat

/-- **One dimension of a texture slot**: a dimension of a plane in bytes,
shifted right. -/
structure SlotExtent where
  /-- The plane the dimension is read from. -/
  plane : Nat
  /-- By how many bits it is shifted. -/
  shift : Nat
  deriving DecidableEq, Repr

/-- **How the fragment program finds a sample in the slots.** -/
inductive Sampling where
  /-- Luma, blue and red chroma from the first component of three slots. -/
  | planar
  /-- Luma from the first slot, a chroma pair from the second one. -/
  | semiPlanar (redFirst : Bool)
  /-- Luma from a slot of pairs, chroma from a slot of quadruples. -/
  | packed (lumaFirst : Bool)
  /-- Red, green and blue from the first slot. -/
  | rgb
  deriving DecidableEq, Repr

/-- **One texture slot of a pixel type.** -/
structure SlotLayout where
  /-- The plane whose bytes go into the slot. -/
  sourcePlane : Nat
  /-- What the slot's texels hold. -/
  texel : TexelFormat
  /-- The width of the slot in texels. -/
  width : SlotExtent
  /-- The height of the slot in texels. -/
  height : SlotExtent
  /-- The divisor of the slot's stride correction; `none` for a slot
  whose rows are those of the luma plane. -/
  strideDivisor : Option Nat
  deriving DecidableEq, Repr

/-- **The table row of a pixel type.** -/
structure FormatLayout where
  /-- How many planes a frame of the type has. -/
  planeCount : Nat
  /-- Bytes of plane 0 that one column of the picture takes. -/
  plane0BytesPerPixel : Nat
  /-- The texture slots. -/
  slots : List SlotLayout
  /-- How samples are found in them. -/
  sampling : Sampling
  deriving DecidableEq, Repr

/-- **The size of a plane**: the bytes of a row, and the rows. -/
structure PlaneSize where
  /-- Bytes of one row. -/
  rowBytes : Nat
  /-- How many rows. -/
  rows : Nat
  deriving DecidableEq, Repr

namespace PixelType

/-- The types that carry a picture. -/
def supported : List PixelType := [i420, nv12, nv21, yuy2, uyvy, rgba, bgra]

/-- The name a type is asked for by. -/
def name : PixelType → String
  | empty => "empty"
  | i420 => "i420"
  | nv12 => "nv12"
  | nv21 => "nv21"
  | yuy2 => "yuy2"
  | uyvy => "uyvy"
  | rgba => "rgba"
  | bgra => "bgra"

/-- The name a type has in messages. -/
def longName : PixelType → String
  | empty => "Empty"
  | i420 => "PlanarYuv420"
  | nv12 => "SemiPlanarNv12"
  | nv21 => "SemiPlanarNv21"
  | yuy2 => "PackedYuy2"
  | uyvy => "PackedUyvy"
  | rgba => "PackedRgba"
  | bgra => "PackedBgra"

/-- Whether the samples are luma and chroma. -/
def isYuv : PixelType → Bool
  | empty => false
  | rgba => false
  | bgra => false
  | _ => true

/-! ## The table -/

/-- Three slots of single bytes; a row of chroma is half a row of luma. -/
def planarSlots : List SlotLayout :=
  [⟨0, .r8, ⟨0, 0⟩, ⟨0, 0⟩, none⟩,
   ⟨1, .r8, ⟨1, 0⟩, ⟨1, 0⟩, some 2⟩,
   ⟨2, .r8, ⟨2, 0⟩, ⟨2, 0⟩, some 2⟩]

/-- Single bytes of luma, and pairs of chroma. -/
def semiPlanarSlots : List SlotLayout :=
  [⟨0, .r8, ⟨0, 0⟩, ⟨0, 0⟩, none⟩,
   ⟨1, .rg8, ⟨1, 1⟩, ⟨1, 0⟩, some 1⟩]

/-- One plane read twice: as pairs of luma and chroma, and as quadruples
that hold two lumas and both chromas. -/
def packedSlots : List SlotLayout :=
  [⟨0, .rg8, ⟨0, 1⟩, ⟨0, 0⟩, none⟩,
   ⟨0, .rgba8, ⟨0, 2⟩, ⟨0, 0⟩, none⟩]

/-- One slot of four-byte texels. -/
def rgbSlots (texel : TexelFormat) : List SlotLayout :=
  [⟨0, texel, ⟨0, 2⟩, ⟨0, 0⟩, none⟩]

/-- **The table row of a type.** -/
def layout : PixelType → FormatLayout
  | empty => ⟨0, 1, [], .rgb⟩
  | i420 => ⟨3, 1, planarSlots, .planar⟩
  | nv12 => ⟨2, 1, semiPlanarSlots, .semiPlanar false⟩
  | nv21 => ⟨2, 1, semiPlanarSlots, .semiPlanar true⟩
  | yuy2 => ⟨1, 2, packedSlots, .packed true⟩
  | uyvy => ⟨1, 2, packedSlots, .packed false⟩
  | rgba => ⟨1, 4, rgbSlots .rgba8, .rgb⟩
  | bgra => ⟨1, 4, rgbSlots .bgra8, .rgb⟩

/-- No type has more than three slots. -/
theorem layout_slots_length_le (t : PixelType) : t.layout.slots.length ≤ 3 := by
  cases t <;> decide

/-- A type without planes is the empty one. -/
theorem layout_planeCount_eq_zero_iff (t : PixelType) : t.layout.planeCount = 0 ↔ t = empty := by
  cases t <;> decide

/-- The supported types are those other than the empty one. -/
theorem mem_supported_iff (t : PixelType) : t ∈ supported ↔ t ≠ empty := by
  cases t <;> decide

end PixelType

end Projector
