import Projector.Color.Matrix
import Projector.Frame
import Projector.Image.Basic

/-!
# Snapshots

A snapshot is the picture of a frame, worked out from its planes without a
device. What is read for a pixel is a *sample*: luma and chroma for the
types that store them, and otherwise the pixel itself. Where the bytes of
a sample are is written out per type here, apart from the table that the
textures are made from.
-/

namespace Projector

/-- **What a frame stores for a pixel.** -/
inductive Sample where
  /-- Luma, and the blue and red differences. -/
  | yuv (y u v : UInt8)
  /-- The pixel. -/
  | rgb (pixel : Pixel)
  deriving DecidableEq, Repr

/-- The pixel of a sample. Luma and chroma make an opaque one. -/
def Sample.pixel (m : YuvToRgb) : Sample → Pixel
  | yuv y u v =>
    let (r, g, b) := m.apply y u v
    ⟨r, g, b, 255⟩
  | rgb p => p

/-- Four bytes of a row from byte `x` on. -/
def FramePlane.quadAt (p : FramePlane) (y x : Nat) : Checked (UInt8 × UInt8 × UInt8 × UInt8) := do
  return (← p.byteAt y x, ← p.byteAt y (x + 1), ← p.byteAt y (x + 2), ← p.byteAt y (x + 3))

namespace VideoFrame

/-- Plane `i`. -/
def plane (f : VideoFrame) (i : Nat) : Checked FramePlane :=
  match f.planes[i]? with
  | some p => .ok p
  | none => .error .outOfRange

/-- **The sample of the pixel in column `x` of row `y`.** -/
def sampleAt (f : VideoFrame) (x y : Nat) : Checked Sample := do
  match f.pixelType with
  | .i420 =>
    let luma ← (← f.plane 0).byteAt y x
    let u ← (← f.plane 1).byteAt (y / 2) (x / 2)
    let v ← (← f.plane 2).byteAt (y / 2) (x / 2)
    return .yuv luma u v
  | .nv12 =>
    let luma ← (← f.plane 0).byteAt y x
    let chroma ← f.plane 1
    return .yuv luma (← chroma.byteAt (y / 2) (x / 2 * 2)) (← chroma.byteAt (y / 2) (x / 2 * 2 + 1))
  | .nv21 =>
    let luma ← (← f.plane 0).byteAt y x
    let chroma ← f.plane 1
    return .yuv luma (← chroma.byteAt (y / 2) (x / 2 * 2 + 1)) (← chroma.byteAt (y / 2) (x / 2 * 2))
  | .yuy2 =>
    let (y0, u, y1, v) ← (← f.plane 0).quadAt y (x / 2 * 4)
    return .yuv (if x % 2 = 0 then y0 else y1) u v
  | .uyvy =>
    let (u, y0, v, y1) ← (← f.plane 0).quadAt y (x / 2 * 4)
    return .yuv (if x % 2 = 0 then y0 else y1) u v
  | .rgba =>
    let (r, g, b, a) ← (← f.plane 0).quadAt y (x * 4)
    return .rgb ⟨r, g, b, a⟩
  | .bgra =>
    let (b, g, r, a) ← (← f.plane 0).quadAt y (x * 4)
    return .rgb ⟨r, g, b, a⟩
  | .empty => return .rgb .transparent

/-- **The picture of a frame**, if it has one. The size of the picture is not
checked: no type stores less than one byte for a pixel, so a picture that
cannot be addressed is one of a frame of 2^61 bytes or more, and no memory
holds such a frame. -/
def toImageWith (f : VideoFrame) (m : YuvToRgb) : Checked (Option Image) := do
  if f.isEmpty then return none
  let image ← Raster.build f.format.width f.format.height fun x y =>
    (Sample.pixel m) <$> f.sampleAt x y
  return some image

/-- The picture of a frame with the usual colours. -/
def toImage (f : VideoFrame) : Checked (Option Image) := f.toImageWith .standard

end VideoFrame

end Projector
