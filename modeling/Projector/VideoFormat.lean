import Projector.Fault
import Projector.PixelType
import Projector.Scalar

/-!
# Video formats

A video format is a pixel type, a size in pixels and, per plane, how many
bytes a row takes and how many rows there are. Rows may be padded: a
format made with strides takes the wider of the stride and the tight row.

Two formats are the same format when type and size agree. Padding does
not count. Whoever compares formats asks whether the picture has another
shape, and a change of padding alone is found later, when a plane does
not fit the texture made for it.

The padding is what the rest is about. The texture of a slot is as wide
as the padded row, so the picture covers its left part only, and a chroma
slot may be padded by another share than luma. `strideCorrection` is the
factor between the two, computed from bytes.
-/

namespace Projector

/-- The tight size of each plane of a picture of this width and height. A
width whose row in bytes exceeds 32 bits is a fault. -/
def PixelType.planeSizes (type : PixelType) (width height : Nat) : Checked (List PlaneSize) := do
  let chromaWidth := (width + 1) / 2
  let chromaHeight := (height + 1) / 2
  match type with
  | .empty => return []
  | .i420 =>
    return [⟨width, height⟩, ⟨chromaWidth, chromaHeight⟩, ⟨chromaWidth, chromaHeight⟩]
  | .nv12 | .nv21 =>
    return [⟨width, height⟩, ⟨← Checked.fit32 (chromaWidth * 2), chromaHeight⟩]
  | .yuy2 | .uyvy => return [⟨← Checked.fit32 (chromaWidth * 4), height⟩]
  | .rgba | .bgra => return [⟨← Checked.fit32 (width * 4), height⟩]

/-- **The shape of a decoded frame.** -/
structure VideoFormat where
  /-- How bytes stand for pixels. -/
  pixelType : PixelType
  /-- Width in pixels. -/
  width : Nat
  /-- Height in pixels. -/
  height : Nat
  /-- The padded size of each plane. -/
  planes : List PlaneSize
  deriving Repr, DecidableEq

namespace VideoFormat

/-- No picture. -/
def empty : VideoFormat := ⟨.empty, 0, 0, []⟩

instance : Inhabited VideoFormat := ⟨empty⟩

/-- **Whether two formats are the same**: of one type and one size,
whatever their padding. -/
def same (a b : VideoFormat) : Bool :=
  a.pixelType == b.pixelType && a.width == b.width && a.height == b.height

/-- The format of a picture with tight rows; of a picture without pixels,
the empty one. -/
def tight (type : PixelType) (width height : Nat) : Checked VideoFormat := do
  if width = 0 ∨ height = 0 then return empty
  return ⟨type, width, height, ← type.planeSizes width height⟩

/-- Each plane's rows widened to the stride given for it, if there is one. -/
def widen : List PlaneSize → List Nat → List PlaneSize
  | p :: planes, s :: strides => ⟨max p.rowBytes s, p.rows⟩ :: widen planes strides
  | planes, _ => planes

/-- **The format of a picture whose rows are padded to strides.** A stride
narrower than the tight row counts as that row. -/
def withStrides (type : PixelType) (width height : Nat) (strides : List Nat) :
    Checked VideoFormat := do
  let format ← tight type width height
  return { format with planes := widen format.planes strides }

/-- Width and height in pixels. -/
def size (f : VideoFormat) : Nat × Nat := (f.width, f.height)

/-- Whether a frame of the format has no planes. -/
def isEmpty (f : VideoFormat) : Bool := f.planes.isEmpty

/-- How many planes a frame of the format has. -/
def planeCount (f : VideoFormat) : Nat := f.planes.length

/-- Bytes of a row of plane `i`, padding included; 0 past the last plane. -/
def byteWidth (f : VideoFormat) (i : Nat) : Nat := (f.planes[i]?.map PlaneSize.rowBytes).getD 0

/-- Rows of plane `i`; 0 past the last plane. -/
def byteHeight (f : VideoFormat) (i : Nat) : Nat := (f.planes[i]?.map PlaneSize.rows).getD 0

/-- The table row of the format's type. -/
def layout (f : VideoFormat) : FormatLayout := f.pixelType.layout

/-- Columns of a padded row of the first plane. -/
def drawWidth (f : VideoFormat) : Nat := f.byteWidth 0 / f.layout.plane0BytesPerPixel

/-- Rows of the first plane. -/
def drawHeight (f : VideoFormat) : Nat := f.byteHeight 0

/-- The size of texture slot `i` in texels. -/
def slotSize? (f : VideoFormat) (i : Nat) : Option (Nat × Nat) :=
  f.layout.slots[i]?.map fun slot =>
    (f.byteWidth slot.width.plane >>> slot.width.shift,
      f.byteHeight slot.height.plane >>> slot.height.shift)

section Ratios

variable {S D : Type} [Scalar S] [Scalar D] [Precision S D]

/-- Width over height of the picture, in pixels; 1 without a picture. -/
def pixelAspect (f : VideoFormat) : D :=
  if f.height = 0 then 1 else Scalar.ofNat f.width / Scalar.ofNat f.height

/-- **The stride correction of slot `i`**: by which factor a horizontal
position in the luma texture is to be multiplied before the slot is read
there. It is the quotient of the luma row and of the slot's row times its
divisor, both in bytes, and 1 where the slot has no divisor or no bytes. -/
def slotCorrection (f : VideoFormat) (i : Nat) : S :=
  match f.layout.slots[i]? with
  | none => 1
  | some slot =>
    match slot.strideDivisor with
    | none => 1
    | some divisor =>
      let chroma : D := Scalar.ofNat (f.byteWidth slot.sourcePlane) * Scalar.ofNat divisor
      if (0 : D) < chroma then
        Precision.narrow (Scalar.ofNat (f.byteWidth 0) / chroma)
      else 1

/-- The corrections of slots 1 and 2. -/
def strideCorrection (f : VideoFormat) : S × S := (f.slotCorrection 1, f.slotCorrection 2)

end Ratios

/-! ## Small facts -/

@[simp] theorem isEmpty_empty : empty.isEmpty = true := rfl

@[simp] theorem size_empty : empty.size = (0, 0) := rfl

/-- A stride list changes rows only: as many planes, of as many rows. -/
theorem widen_rows (planes : List PlaneSize) (strides : List Nat) :
    (widen planes strides).map PlaneSize.rows = planes.map PlaneSize.rows := by
  induction planes generalizing strides with
  | nil => cases strides <;> rfl
  | cons p planes ih => cases strides <;> simp [widen, ih]

theorem length_widen (planes : List PlaneSize) (strides : List Nat) :
    (widen planes strides).length = planes.length := by
  have h := congrArg List.length (widen_rows planes strides)
  simpa using h

end VideoFormat

end Projector
