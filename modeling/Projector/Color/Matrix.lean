import Projector.Scalar

/-!
# Luma, chroma and colour

Samples are luma and two chroma differences, in one of two colour spaces
and in the limited or the full range of a byte. `YuvToRgb` is the affine
map from samples to colours, which the fragment program and the snapshots
use; `rgbToYuv` goes back, for synthetic frames.

All arithmetic is in single precision, one operation after the other, and
bytes are reached by rounding halves away from zero.
-/

namespace Projector

/-- **Which weights luma is made with.** -/
inductive ColorSpace where
  /-- Standard definition. -/
  | bt601
  /-- High definition. -/
  | bt709
  deriving DecidableEq, Repr, Inhabited

/-- **Which part of a byte samples take.** -/
inductive ColorRange where
  /-- Luma from 16 to 235, chroma from 16 to 240. -/
  | limited
  /-- All of a byte. -/
  | full
  deriving DecidableEq, Repr, Inhabited

/-- The name of a colour space in files. -/
def ColorSpace.name : ColorSpace → String
  | bt601 => "Bt601"
  | bt709 => "Bt709"

/-- The name of a range in files. -/
def ColorRange.name : ColorRange → String
  | limited => "Limited"
  | full => "Full"

/-- The weight of red in luma. -/
def ColorSpace.redWeight : ColorSpace → Float32
  | bt601 => 0.299
  | bt709 => 0.2126

/-- The weight of blue in luma. -/
def ColorSpace.blueWeight : ColorSpace → Float32
  | bt601 => 0.114
  | bt709 => 0.0722

/-- The weight of green in luma: what red and blue leave. -/
def ColorSpace.greenWeight (s : ColorSpace) : Float32 := 1 - s.redWeight - s.blueWeight

/-- Luma of black, as a share of a byte. -/
def ColorRange.lumaOffset : ColorRange → Float32
  | limited => 16 / 255
  | full => 0

/-- By how much luma is stretched. -/
def ColorRange.lumaScale : ColorRange → Float32
  | limited => 255 / 219
  | full => 1

/-- By how much chroma is stretched. -/
def ColorRange.chromaScale : ColorRange → Float32
  | limited => 255 / 224
  | full => 1

/-- Chroma of every grey, as a share of a byte. -/
def chromaZero : Float32 := 128 / 255

/-- **A triple**: a colour, a sample, or a column of a matrix. -/
structure Triple where
  /-- The first component. -/
  x : Float32
  /-- The second component. -/
  y : Float32
  /-- The third component. -/
  z : Float32

namespace Triple

/-- Sum by components. -/
def add (a b : Triple) : Triple := ⟨a.x + b.x, a.y + b.y, a.z + b.z⟩

/-- Multiple by components. -/
def scale (a : Triple) (s : Float32) : Triple := ⟨a.x * s, a.y * s, a.z * s⟩

/-- Opposite by components. -/
def neg (a : Triple) : Triple := ⟨-a.x, -a.y, -a.z⟩

end Triple

/-- A share of full intensity as a byte. -/
def byteOfShare (share : Float32) : UInt8 := (share * 255).round.toUInt8

/-- A byte as a share of full intensity. -/
def shareOfByte (b : UInt8) : Float32 := b.toFloat32 / 255

/-- **An affine map from samples to colours**, each a share of full
intensity. -/
structure YuvToRgb where
  /-- What luma contributes. -/
  luma : Triple
  /-- What the blue difference contributes. -/
  blue : Triple
  /-- What the red difference contributes. -/
  red : Triple
  /-- What is added. -/
  offset : Triple

namespace YuvToRgb

/-- The linear part of a map. -/
def linear (m : YuvToRgb) (v : Triple) : Triple :=
  ((m.luma.scale v.x).add (m.blue.scale v.y)).add (m.red.scale v.z)

/-- **The map of a colour space and a range**: black and grey go to black
and grey. -/
def of (space : ColorSpace) (range : ColorRange) : YuvToRgb :=
  let kr := space.redWeight
  let kb := space.blueWeight
  let kg := space.greenWeight
  let ys := range.lumaScale
  let cs := range.chromaScale
  let map : YuvToRgb :=
    { luma := ⟨ys, ys, ys⟩
      blue := ⟨0, -cs * 2 * kb * (1 - kb) / kg, cs * 2 * (1 - kb)⟩
      red := ⟨cs * 2 * (1 - kr), -cs * 2 * kr * (1 - kr) / kg, 0⟩
      offset := ⟨0, 0, 0⟩ }
  { map with offset := (map.linear ⟨range.lumaOffset, chromaZero, chromaZero⟩).neg }

/-- The map that is meant when nothing is said. -/
def standard : YuvToRgb := of .bt601 .limited

/-- A share cut down to the range from 0 to 1. -/
def cut (share : Float32) : Float32 := Scalar.smaller (Scalar.larger share 0) 1

/-- **The colour of one sample**, in bytes. -/
def apply (m : YuvToRgb) (y u v : UInt8) : UInt8 × UInt8 × UInt8 :=
  let c := (m.linear ⟨shareOfByte y, shareOfByte u, shareOfByte v⟩).add m.offset
  (byteOfShare (cut c.x), byteOfShare (cut c.y), byteOfShare (cut c.z))

end YuvToRgb

/-- **The sample of one colour**, in bytes. -/
def rgbToYuv (space : ColorSpace) (range : ColorRange) (red green blue : UInt8) :
    UInt8 × UInt8 × UInt8 :=
  let r := shareOfByte red
  let g := shareOfByte green
  let b := shareOfByte blue
  let luma := space.redWeight * r + space.greenWeight * g + space.blueWeight * b
  let cb := (b - luma) / (2 * (1 - space.blueWeight))
  let cr := (r - luma) / (2 * (1 - space.redWeight))
  let y := luma / range.lumaScale + range.lumaOffset
  let u := cb / range.chromaScale + chromaZero
  let v := cr / range.chromaScale + chromaZero
  (byteOfShare (Scalar.clamp y 0 1), byteOfShare (Scalar.clamp u 0 1),
    byteOfShare (Scalar.clamp v 0 1))

end Projector
