import Projector.Image.Basic

/-!
# Subtitle bitmaps

Subtitles arrive as small pictures with a place in the frame. Their rows
may be padded, and the last one may end with its last pixel. A bitmap that
does not hold its rows is malformed: it has no picture.
-/

namespace Projector

/-- **A picture placed in a frame.** -/
structure SubtitleBitmap where
  /-- The column of its left edge. -/
  x : Int
  /-- The row of its upper edge. -/
  y : Int
  /-- Pixels of a row. -/
  width : Nat
  /-- How many rows. -/
  height : Nat
  /-- Bytes of a row, padding included. -/
  stride : Nat
  /-- The rows, four bytes a pixel. -/
  rgba : Bytes
  deriving DecidableEq

namespace SubtitleBitmap

/-- A bitmap with tight rows. -/
def tight (x y : Int) (width height : Nat) (rgba : Bytes) : SubtitleBitmap :=
  ⟨x, y, width, height, width * 4, rgba⟩

/-- The bytes that a bitmap with pixels must hold. -/
def neededBytes (b : SubtitleBitmap) : Checked Nat := do
  let rows ← Checked.fit64 (b.stride * (b.height - 1))
  Checked.fit64 (rows + b.width * 4)

/-- **The picture of a bitmap**; none if it is malformed. -/
def toImage? (b : SubtitleBitmap) : Checked (Option Image) := do
  if b.width = 0 ∨ b.height = 0 ∨ b.stride < b.width * 4 then return none
  if b.rgba.size < (← b.neededBytes) then return none
  return some (Raster.ofFn b.width b.height fun x y => Image.pixelAt b.rgba (y * b.stride + x * 4))

end SubtitleBitmap

end Projector
