import Projector.Bytes
import Projector.Raster

/-!
# Images

An image is a raster of pixels of four bytes: red, green, blue and alpha,
with colours not multiplied by alpha. As bytes it is its rows, pixel after
pixel.
-/

namespace Projector

/-- **A pixel.** -/
structure Pixel where
  /-- Intensity of red. -/
  red : UInt8
  /-- Intensity of green. -/
  green : UInt8
  /-- Intensity of blue. -/
  blue : UInt8
  /-- Opacity. -/
  alpha : UInt8
  deriving DecidableEq, Repr, Inhabited

/-- **A picture.** -/
abbrev Image := Raster Pixel

namespace Pixel

/-- Nothing to be seen. -/
def transparent : Pixel := ⟨0, 0, 0, 0⟩

/-- The bytes of a pixel. -/
def bytes (p : Pixel) : Bytes := #[p.red, p.green, p.blue, p.alpha]

end Pixel

namespace Image

/-- An image of transparent pixels. All its bytes must be addressable. -/
def transparent (width height : Nat) : Checked Image := do
  let _ ← Checked.addressable (width * height * 4)
  return Raster.ofFn width height fun _ _ => .transparent

/-- **The bytes of an image.** -/
def bytes (image : Image) : Bytes := image.cells.flatMap Pixel.bytes

/-- The pixel whose bytes begin at position `start`. -/
def pixelAt (data : Bytes) (start : Nat) : Pixel :=
  let byte (i : Nat) : UInt8 := data[start + i]?.getD 0
  ⟨byte 0, byte 1, byte 2, byte 3⟩

/-- **The image of a run of bytes**: one pixel after the other. Missing
bytes are zero. -/
def ofBytes (width height : Nat) (data : Bytes) : Image :=
  Raster.ofFn width height fun x y => pixelAt data ((y * width + x) * 4)

end Image

end Projector
