import Projector.Color.Matrix
import Projector.Image.Basic

/-!
# Blending

One picture is laid over another. Where they overlap, each pixel becomes a
mixture by the opacities of the two; elsewhere the lower picture stays. An
opaque pixel replaces what is below it, and a transparent one leaves it.

Mixtures are computed with shares of full intensity, and a byte is what
remains when the fraction is dropped.
-/

namespace Projector

namespace Pixel

/-- A share of full intensity as a byte, its fraction dropped. -/
def truncated (share : Float32) : UInt8 := (255 * share).toUInt8

/-- One colour of a mixture: the upper one by its opacity, the lower one by
what is left of its own, divided by the opacity of the whole. -/
def mix (upper upperAlpha lower lowerAlpha alpha : Float32) : UInt8 :=
  truncated ((upper * upperAlpha + lower * lowerAlpha * (1 - upperAlpha)) / alpha)

/-- **A pixel over another one.** -/
def blendOver (upper lower : Pixel) : Pixel :=
  if upper.alpha = 0 then lower
  else if upper.alpha = 255 then upper
  else
    let lowerAlpha := shareOfByte lower.alpha
    let upperAlpha := shareOfByte upper.alpha
    let alpha := lowerAlpha + upperAlpha - lowerAlpha * upperAlpha
    if alpha == 0 then lower
    else
      let channel (u l : UInt8) : UInt8 :=
        mix (shareOfByte u) upperAlpha (shareOfByte l) lowerAlpha alpha
      ⟨channel upper.red lower.red, channel upper.green lower.green,
        channel upper.blue lower.blue, truncated alpha⟩

/-- A transparent pixel leaves what is below it. -/
theorem blendOver_of_alpha_eq_zero {upper : Pixel} (lower : Pixel) (h : upper.alpha = 0) :
    upper.blendOver lower = lower := if_pos h

end Pixel

namespace Image

/-- The pixel at a position that may lie outside. -/
def atInt? (image : Image) (x y : Int) : Option Pixel :=
  if 0 ≤ x ∧ 0 ≤ y then image.get? x.toNat y.toNat else none

/-- **A picture laid over another one**, its upper left corner at `(x, y)`. -/
def overlay (lower upper : Image) (x y : Int) : Image :=
  Raster.ofFn lower.width lower.height fun px py =>
    let below := lower.getD px py .transparent
    match upper.atInt? (px - x) (py - y) with
    | some p => p.blendOver below
    | none => below

end Image

end Projector
