import Projector.Color.Matrix
import Projector.Color.Property
import Projector.Device.Basic
import Projector.Effects
import Projector.Error
import Projector.Geometry.Alignment

/-!
# Configurations

The settings that a renderer starts with, or takes all at once. Every
setting has a default. A configuration is valid when its colours lie in
their ranges and its ratios are finite numbers.
-/

namespace Projector

/-- **The settings of a renderer.** -/
structure RendererConfig where
  /-- The wanted aspect of the picture. -/
  aspectRatio : Float
  /-- The wanted aspect of the visible box. -/
  cropRatio : Float
  /-- Where the visible box is anchored. -/
  alignment : Alignment
  /-- By how many percent it is moved across. -/
  offsetX : Int
  /-- By how many percent it is moved down. -/
  offsetY : Int
  /-- The effects. -/
  effects : Effects
  /-- The colour properties. -/
  color : ColorProperty
  /-- The weights of luma. -/
  colorSpace : ColorSpace
  /-- The part of a byte that samples take. -/
  colorRange : ColorRange
  /-- Whether the overlay is to be seen. -/
  osd : Bool
  /-- The colour around the picture. -/
  clearColor : ClearColor

namespace RendererConfig

/-- The settings when nothing is said. -/
def standard : RendererConfig where
  aspectRatio := -1
  cropRatio := -1
  alignment := .center
  offsetX := 0
  offsetY := 0
  effects := .none
  color := .neutral
  colorSpace := .bt601
  colorRange := .limited
  osd := true
  clearColor := .black

instance : Inhabited RendererConfig := ⟨standard⟩

/-- Whether two configurations agree in every setting. -/
instance : BEq RendererConfig where
  beq a b := a.aspectRatio == b.aspectRatio && a.cropRatio == b.cropRatio &&
    a.alignment == b.alignment && a.offsetX == b.offsetX && a.offsetY == b.offsetY &&
    a.effects == b.effects && a.color == b.color && a.colorSpace == b.colorSpace &&
    a.colorRange == b.colorRange && a.osd == b.osd && a.clearColor == b.clearColor

/-- Whether a number is a share. -/
def isShare (x : Float32) : Bool := decide (0 ≤ x) && decide (x ≤ 1)

/-- **Refuse a configuration that is not valid.** Colour properties are
looked at first, then the clear colour, then the ratios. -/
def validate (c : RendererConfig) : Except ConfigError Unit := do
  match c.color.validate with
  | .error e => throw (.color e)
  | .ok () => pure ()
  if !c.clearColor.components.all isShare then throw (.clearColor c.clearColor.components)
  if !(c.aspectRatio.isFinite && c.cropRatio.isFinite) then throw .infiniteRatio

end RendererConfig

end Projector
