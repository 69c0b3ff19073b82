import Projector.Bytes
import Projector.Error
import Projector.VideoFormat

/-!
# Frames

A decoded frame is a format and the planes that go with it. It is made
once, by whoever decodes, and never changed: the next frame replaces it.

There are three ways to make one. `VideoFrame.ofPlanes` takes planes from
outside and refuses those that do not fit; `VideoFrame.blank` makes a
black picture; `VideoFrame.empty` has no picture.
-/

namespace Projector

/-- **A plane of a frame**: its bytes, and how many of them a row takes. -/
structure FramePlane where
  /-- The rows, one after the other; there may be more bytes than rows. -/
  data : Bytes
  /-- Bytes of a row, padding included. -/
  stride : Nat
  deriving DecidableEq, Repr

namespace FramePlane

/-- A plane of `rows` rows of `b`. -/
def filled (stride rows : Nat) (b : UInt8) : Checked FramePlane := do
  return ⟨← Bytes.replicate (stride * rows) b, stride⟩

/-- A plane of zeros. -/
def zeroed (stride rows : Nat) : Checked FramePlane := filled stride rows 0

/-- Row `y`, padding included. -/
def row (p : FramePlane) (y : Nat) : Checked Bytes := do
  let start ← Checked.fit64 (y * p.stride)
  p.data.stretch start p.stride

/-- **Byte `x` of row `y`.** The whole row has to be there. -/
def byteAt (p : FramePlane) (y x : Nat) : Checked UInt8 := do
  let start ← Checked.fit64 (y * p.stride)
  let stop ← Checked.fit64 (start + p.stride)
  if p.data.size < stop then throw .outOfRange
  if p.stride ≤ x then throw .outOfRange
  p.data.at? (start + x)

end FramePlane

/-- **A decoded frame.** -/
structure VideoFrame where
  /-- Its shape. -/
  format : VideoFormat
  /-- Its planes, as many as the format has. -/
  planes : List FramePlane
  deriving DecidableEq, Repr

namespace VideoFrame

/-- A frame without a picture. -/
def empty : VideoFrame := ⟨.empty, []⟩

instance : Inhabited VideoFrame := ⟨empty⟩

/-- The type of the frame's pixels. -/
def pixelType (f : VideoFrame) : PixelType := f.format.pixelType

/-- Whether the frame has no picture. -/
def isEmpty (f : VideoFrame) : Bool := f.format.isEmpty

/-- The bytes of plane `i`; past the last plane there are none. -/
def data (f : VideoFrame) (i : Nat) : Bytes := (f.planes[i]?.map FramePlane.data).getD #[]

/-- Bytes of all planes. -/
def memorySize (f : VideoFrame) : Nat := f.planes.foldl (fun n p => n + p.data.size) 0

/-- Whether plane `i` fits a format: its rows are long enough, and it has
enough of them. A stride counts by the word of 32 bits that a device will
be told. -/
def checkPlane (format : VideoFormat) (i : Nat) (plane : FramePlane) :
    Checked (Except FrameError Unit) := do
  if plane.stride % UInt32.size < format.byteWidth i then
    return .error (.narrowStride i plane.stride (format.byteWidth i))
  let needed ← Checked.fit64 (plane.stride * format.byteHeight i)
  if plane.data.size < needed then
    return .error (.shortPlane i plane.data.size needed)
  return .ok ()

/-- The planes from the `i`-th on, checked in order up to the first that
does not fit. -/
def checkPlanes (format : VideoFormat) : Nat → List FramePlane → Checked (Except FrameError Unit)
  | _, [] => return .ok ()
  | i, plane :: planes => do
    match ← checkPlane format i plane with
    | .error e => return .error e
    | .ok () => checkPlanes format (i + 1) planes

/-- **The frame of given planes.** Their count has to be that of the type,
their rows must be wide enough for the picture, and there must be enough
rows. -/
def ofPlanes (type : PixelType) (width height : Nat) (planes : List FramePlane) :
    Checked (Except Error VideoFrame) := do
  if type = .empty ∨ width = 0 ∨ height = 0 then
    return .error (.invalidFrame (.noPicture type width height))
  let expected := type.layout.planeCount
  if planes.length ≠ expected then
    return .error (.invalidFrame (.planeCount type expected planes.length))
  let strides := planes.map fun p => p.stride % UInt32.size
  let format ← VideoFormat.withStrides type width height strides
  match ← checkPlanes format 0 planes with
  | .error e => return .error (.invalidFrame e)
  | .ok () => return .ok ⟨format, planes⟩

/-! ## Blank frames -/

/-- Luma of black in the limited range. -/
def blackLuma : UInt8 := 16

/-- Chroma of every grey. -/
def greyChroma : UInt8 := 128

/-- Runs of a pattern over `length` bytes; a rest shorter than the pattern
stays zero. -/
def tile (pattern : List UInt8) (length : Nat) : Bytes :=
  Array.ofFn (n := length) fun i =>
    if i.val < length / pattern.length * pattern.length then
      pattern[i.val % pattern.length]?.getD 0
    else 0

/-- **The bytes of a black picture**, plane by plane. -/
def blackPlane (type : PixelType) (plane length : Nat) : Bytes :=
  match type with
  | .empty => tile [] length
  | .i420 | .nv12 | .nv21 => tile [if plane = 0 then blackLuma else greyChroma] length
  | .yuy2 => tile [blackLuma, greyChroma] length
  | .uyvy => tile [greyChroma, blackLuma] length
  | .rgba | .bgra => tile [0, 0, 0, 255] length

/-- **A black frame with tight rows.** A type that has planes needs a
picture with pixels. -/
def blank (type : PixelType) (width height : Nat) : Checked VideoFrame := do
  let format ← VideoFormat.tight type width height
  let planes ← format.planes.zipIdx.mapM fun (size, i) => do
    let length ← Checked.addressable (size.rowBytes * size.rows)
    return FramePlane.mk (blackPlane type i length) size.rowBytes
  if type ≠ .empty ∧ planes = [] then throw .outOfRange
  return ⟨format, planes⟩

end VideoFrame

end Projector
