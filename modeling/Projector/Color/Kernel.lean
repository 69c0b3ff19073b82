import Projector.Effects

/-!
# Convolutions

A blur or a sharpening replaces a pixel by a weighted sum over the pixels
around it. The weights are symmetric, so three of them say everything: of
the pixel, of the four beside it, and of the four across its corners.
-/

namespace Projector

/-- **A symmetric convolution over nine pixels.** -/
structure Kernel where
  /-- The weight of the pixel. -/
  center : Float32
  /-- The weight of each pixel beside it. -/
  neighbor : Float32
  /-- The weight of each pixel across a corner. -/
  diagonal : Float32

namespace Kernel

/-- The pixel alone. -/
def identity : Kernel := ⟨1, 0, 0⟩

/-- An average that falls off with the distance. -/
def blur : Kernel := ⟨4 / 16, 2 / 16, 1 / 16⟩

/-- Twice the pixel, less the blur. -/
def sharpen : Kernel := ⟨2 - 4 / 16, -2 / 16, -1 / 16⟩

/-- One kernel added to another, divided by `n`. -/
def addShare (n : Float32) (sum k : Kernel) : Kernel :=
  ⟨sum.center + k.center / n, sum.neighbor + k.neighbor / n, sum.diagonal + k.diagonal / n⟩

/-- The kernels that the active effects ask for. -/
def selected (effects : Effects) : List Kernel :=
  (if effects.active.contains .blur then [blur] else []) ++
    if effects.active.contains .sharpen then [sharpen] else []

/-- **The average of the kernels that the active effects ask for**; the
pixel alone if they ask for none. -/
def ofEffects (effects : Effects) : Kernel :=
  match selected effects with
  | [] => identity
  | ks => ks.foldl (addShare (Float32.ofNat ks.length)) ⟨0, 0, 0⟩

/-- The sum of the nine weights. -/
def sum (k : Kernel) : Float32 := k.center + 4 * k.neighbor + 4 * k.diagonal

end Kernel

end Projector
