import Projector.Image.Blend

/-!
# Stretching

A picture is brought to another size one axis at a time. Each new row is a
weighted sum of old rows around the place where it comes from, with
weights that fall off linearly; shrinking widens the stretch of rows that
counts. The columns follow in the same way. Between the two steps
intensities are kept as they are, and only at the end they become bytes.
-/

namespace Projector

/-- **The intensities of a pixel**, not rounded. -/
structure Intensity where
  /-- Red. -/
  red : Float32
  /-- Green. -/
  green : Float32
  /-- Blue. -/
  blue : Float32
  /-- Opacity. -/
  alpha : Float32

namespace Intensity

/-- No intensity at all. -/
def zero : Intensity := ⟨0, 0, 0, 0⟩

/-- The intensities of a pixel. -/
def ofPixel (p : Pixel) : Intensity :=
  ⟨p.red.toFloat32, p.green.toFloat32, p.blue.toFloat32, p.alpha.toFloat32⟩

/-- A weighted share added to a sum. -/
def addScaled (sum p : Intensity) (w : Float32) : Intensity :=
  ⟨sum.red + p.red * w, sum.green + p.green * w, sum.blue + p.blue * w, sum.alpha + p.alpha * w⟩

/-- The nearest byte; of two the larger one. -/
def byte (x : Float32) : UInt8 :=
  let inside : Float32 := Scalar.clamp x 0 255
  let whole := inside.toUInt8
  -- the fraction of a number up to 255 is found without rounding
  if 0.5 ≤ inside - whole.toFloat32 then whole + 1 else whole

/-- The nearest pixel. -/
def pixel (p : Intensity) : Pixel := ⟨byte p.red, byte p.green, byte p.blue, byte p.alpha⟩

end Intensity

namespace Resize

/-- The weight of a cell at a distance, in units of the support. -/
def triangle (x : Float32) : Float32 := if x.abs < 1 then 1 - x.abs else 0

/-- **Where cell `i` of `new` comes from among `old` cells**: the first
cell that counts, and the weights from there on. -/
def weights (old new i : Nat) : Nat × List Float32 :=
  let ratio := Float32.ofNat old / Float32.ofNat new
  let support := Scalar.larger ratio 1
  let center := (Float32.ofNat i + 0.5) * ratio
  let left := min (center - support).floor.toUInt64.toNat (old - 1)
  let right := min (max (center + support).ceil.toUInt64.toNat (left + 1)) old
  let raw := (List.range (right - left)).map fun j =>
    triangle ((Float32.ofNat (left + j) - (center - 0.5)) / support)
  let total := raw.foldl (· + ·) 0
  (left, raw.map (· / total))

/-- The sum of cells by their weights, from the first cell on. -/
def weightedSum (cell : Nat → Intensity) (first : Nat) (ws : List Float32) : Intensity :=
  (ws.foldl (fun (sum, j) w => (sum.addScaled (cell j) w, j + 1)) (Intensity.zero, first)).1

/-- A raster with another number of rows. -/
def rows (r : Raster Intensity) (height : Nat) : Raster Intensity :=
  let plan := Array.ofFn (n := height) fun y => weights r.height height y.val
  Raster.ofFn r.width height fun x y =>
    let (first, ws) := plan[y]?.getD (0, [])
    weightedSum (fun j => r.getD x j .zero) first ws

/-- A raster with another number of columns. -/
def columns (r : Raster Intensity) (width : Nat) : Raster Intensity :=
  let plan := Array.ofFn (n := width) fun x => weights r.width width x.val
  Raster.ofFn width r.height fun x y =>
    let (first, ws) := plan[x]?.getD (0, [])
    weightedSum (fun j => r.getD j y .zero) first ws

end Resize

/-- **A picture stretched to another size.** A picture without pixels
becomes a transparent one. -/
def Image.resize (image : Image) (width height : Nat) : Image :=
  if image.width = 0 ∨ image.height = 0 then
    Raster.ofFn width height fun _ _ => .transparent
  else
    (Resize.columns (Resize.rows (image.map Intensity.ofPixel) height) width).map Intensity.pixel

end Projector
