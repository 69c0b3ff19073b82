import Projector.Color.Matrix
import Projector.Frame
import Projector.Image.Basic

/-!
# Synthetic frames

A frame can be made from a picture. Luma is that of each pixel. Chroma
belongs to a block of pixels, two columns and for some types two rows,
and is the average over the block, rounded; a block that reaches over the
edge takes the pixels at the edge again.
-/

namespace Projector

namespace Synthetic

/-- How pixels become samples. -/
structure Encoding where
  /-- The weights of luma. -/
  space : ColorSpace
  /-- The part of a byte that samples take. -/
  range : ColorRange

variable (e : Encoding) (image : Image)

/-- The sample of a pixel; beyond an edge, of the pixel at the edge. -/
def sampleAt (x y : Nat) : UInt8 × UInt8 × UInt8 :=
  let p := image.nearest x y .transparent
  rgbToYuv e.space e.range p.red p.green p.blue

/-- The luma of a pixel. -/
def lumaAt (x y : Nat) : UInt8 := (sampleAt e image x y).1

/-- The average of bytes, a half rounded up. -/
def average (bs : List UInt8) : UInt8 :=
  UInt8.ofNat ((bs.foldl (fun n b => n + b.toNat) 0 + bs.length / 2) / bs.length)

/-- **The chroma of the block at `(x, y)`** that is two columns wide and
`rows` rows high. -/
def chromaAt (rows x y : Nat) : UInt8 × UInt8 :=
  let samples := (List.range rows).flatMap fun dy =>
    [sampleAt e image x (y + dy), sampleAt e image (x + 1) (y + dy)]
  (average (samples.map fun s => s.2.1), average (samples.map fun s => s.2.2))

/-- A tight plane, by what its rows hold. -/
def planeOf (rowBytes rows : Nat) (f : Nat → Nat → UInt8) : FramePlane :=
  ⟨Array.ofFn (n := rowBytes * rows) fun i => f (i.val % rowBytes) (i.val / rowBytes), rowBytes⟩

/-- Luma, one byte a pixel. -/
def lumaPlane : FramePlane := planeOf image.width image.height (lumaAt e image)

/-- One chroma difference, one byte a block of two rows. -/
def chromaPlane (pick : UInt8 × UInt8 → UInt8) : FramePlane :=
  planeOf ((image.width + 1) / 2) ((image.height + 1) / 2) fun x y =>
    pick (chromaAt e image 2 (x * 2) (y * 2))

/-- Both chroma differences, alternating. -/
def pairPlane (first second : UInt8 × UInt8 → UInt8) : FramePlane :=
  planeOf ((image.width + 1) / 2 * 2) ((image.height + 1) / 2) fun i y =>
    let pair := chromaAt e image 2 (i / 2 * 2) (y * 2)
    if i % 2 = 0 then first pair else second pair

/-- Two lumas and both chroma differences of a block of one row; `luma`
says at which bytes of four luma stands. -/
def packedPlane (lumaFirst : Bool) : FramePlane :=
  planeOf ((image.width + 1) / 2 * 4) image.height fun i y =>
    let x := i / 4 * 2
    let k := i % 4
    if decide (k % 2 = 0) == lumaFirst then lumaAt e image (x + k / 2) y
    else
      let pair := chromaAt e image 1 x y
      if k / 2 = 0 then pair.1 else pair.2

/-- The pixels, by the order of their bytes. -/
def pixelPlane (order : Pixel → Bytes) : FramePlane :=
  ⟨image.cells.flatMap order, image.width * 4⟩

/-- **The planes of a picture**; none for the type without a picture. -/
def planes? (type : PixelType) : Option (List FramePlane) :=
  match type with
  | .i420 => some [lumaPlane e image, chromaPlane e image Prod.fst, chromaPlane e image Prod.snd]
  | .nv12 => some [lumaPlane e image, pairPlane e image Prod.fst Prod.snd]
  | .nv21 => some [lumaPlane e image, pairPlane e image Prod.snd Prod.fst]
  | .yuy2 => some [packedPlane e image true]
  | .uyvy => some [packedPlane e image false]
  | .rgba => some [pixelPlane image Pixel.bytes]
  | .bgra => some [pixelPlane image fun p => #[p.blue, p.green, p.red, p.alpha]]
  | .empty => none

end Synthetic

namespace VideoFrame

/-- **The frame of a picture** given by its bytes. -/
def ofRgba (type : PixelType) (width height : Nat) (rgba : Bytes) (space : ColorSpace)
    (range : ColorRange) : Checked (Except Error VideoFrame) := do
  let needed ← Checked.fit64 (width * height * 4)
  if rgba.size ≠ needed then
    return .error (.pixelCount rgba.size width height needed)
  match Synthetic.planes? ⟨space, range⟩ (Image.ofBytes width height rgba) type with
  | none => return .error (.unsupportedFormat "cannot convert into an empty format")
  | some planes => ofPlanes type width height planes

/-- The colours of the test pattern, from left to right. -/
def bars : List Pixel :=
  [⟨255, 255, 255, 255⟩, ⟨255, 255, 0, 255⟩, ⟨0, 255, 255, 255⟩, ⟨0, 255, 0, 255⟩,
   ⟨255, 0, 255, 255⟩, ⟨255, 0, 0, 255⟩, ⟨0, 0, 255, 255⟩, ⟨0, 0, 0, 255⟩]

/-- The colour of column `x` of a test pattern. -/
def barAt (width x : Nat) : Pixel := bars[min (x * 8 / max width 1) 7]?.getD .transparent

/-- **Eight upright bars** as a frame. -/
def testPattern (type : PixelType) (width height : Nat) : Checked (Except Error VideoFrame) := do
  let _ ← Checked.addressable (width * height * 4)
  let image : Image := Raster.ofFn width height fun x _ => barAt width x
  ofRgba type width height image.bytes .bt601 .limited

end VideoFrame

end Projector
