import Projector.Color.Kernel
import Projector.Color.Matrix
import Projector.Color.Property
import Projector.VideoFormat

/-!
# Shader parameters

What a fragment program computes with besides the textures: the colour
matrix, the colour properties, the filters and convolution weights of the
active effects, the size of a texel, and the stride corrections. They
travel in one block, `VideoUniforms`, so a change of any of them leaves
the program as it is.

Only two things make another program: the pixel type, and the effects in
`Effects.programKey`. Together they are the `ProgramKey`.
-/

namespace Projector

/-- **Four numbers.** -/
structure Vec4 where
  /-- The first. -/
  x : Float32
  /-- The second. -/
  y : Float32
  /-- The third. -/
  z : Float32
  /-- The fourth. -/
  w : Float32
  deriving BEq

/-- Three numbers with a fourth one. -/
def Triple.extend (t : Triple) (w : Float32) : Vec4 := ⟨t.x, t.y, t.z, w⟩

/-- **The block of numbers that a program reads.** -/
structure VideoUniforms where
  /-- The matrix column of luma. -/
  luma : Vec4
  /-- The matrix column of the blue difference. -/
  blue : Vec4
  /-- The matrix column of the red difference. -/
  red : Vec4
  /-- What the matrix adds. -/
  offset : Vec4
  /-- Brightness, contrast, and the chroma rotation. -/
  adjust : Vec4
  /-- The factor of each colour. -/
  factor : Vec4
  /-- What is added to each colour, then the slope and the shift that
  stretch luma. -/
  filter : Vec4
  /-- The convolution weights. -/
  kernel : Vec4
  /-- The size of a texel, and its width the other way. -/
  texel : Vec4
  /-- The stride corrections of slots 1 and 2. -/
  correction : Vec4

/-- **What one fragment program is made for.** -/
structure ProgramKey where
  /-- How samples are found. -/
  pixelType : PixelType
  /-- Which effects it has. -/
  effects : Effects
  deriving DecidableEq, Repr

/-- **The effects and colours that a picture is shown with.** -/
structure ShaderParams where
  /-- The effects. -/
  effects : Effects
  /-- The colour properties. -/
  color : ColorProperty
  /-- The weights of luma. -/
  space : ColorSpace
  /-- The part of a byte that samples take. -/
  range : ColorRange

namespace ShaderParams

/-- Luma of black. -/
def lumaMin : Float32 := 16 / 255

/-- Luma of white in the limited range. -/
def lumaMax : Float32 := 235 / 255

/-- No effect, and colours as they are. -/
def initial : ShaderParams := ⟨.none, .neutral, .bt601, .limited⟩

/-- The key of the program for a pixel type. -/
def programKey (p : ShaderParams) (type : PixelType) : ProgramKey := ⟨type, p.effects.programKey⟩

/-- Take effects. The answer says whether they are others. -/
def setEffects (p : ShaderParams) (effects : Effects) : Bool × ShaderParams :=
  if p.effects = effects then (false, p) else (true, { p with effects })

/-- Take colour properties, cut down to their ranges. The answer says
whether they are others. -/
def setColor (p : ShaderParams) (color : ColorProperty) : Bool × ShaderParams :=
  if p.color == color.clamped then (false, p) else (true, { p with color := color.clamped })

/-- Take a colour space and a range. The answer says whether they are
others. -/
def setColorSpace (p : ShaderParams) (space : ColorSpace) (range : ColorRange) :
    Bool × ShaderParams :=
  if p.space = space ∧ p.range = range then (false, p) else (true, { p with space, range })

/-- **The numbers for drawing a format**, with these stride corrections. -/
def uniforms (p : ShaderParams) (format : VideoFormat) (correction : Float32 × Float32) :
    VideoUniforms :=
  let m := YuvToRgb.of p.space p.range
  let c := p.color.coefficients
  let active := p.effects.active
  let (factor, summand) : Float32 × Float32 :=
    if active.contains .invertColor then (-1, 1) else (1, 0)
  let slope := 1 / (lumaMax - lumaMin)
  let k := Kernel.ofEffects active
  let dx := 1 / Float32.ofNat (max format.drawWidth 1)
  let dy := 1 / Float32.ofNat (max format.drawHeight 1)
  { luma := m.luma.extend 0
    blue := m.blue.extend 0
    red := m.red.extend 0
    offset := m.offset.extend 0
    adjust := ⟨c.brightness, c.contrast, c.satCos, c.satSin⟩
    factor := ⟨factor, factor, factor, 0⟩
    filter := ⟨summand, slope, -lumaMin * slope, 0⟩
    kernel := ⟨k.center, k.neighbor, k.diagonal, 0⟩
    texel := ⟨dx, dy, -dx, 0⟩
    correction := ⟨correction.1, correction.2, 0, 0⟩ }

end ShaderParams

/-- The numbers for a picture as it is, of no format. -/
def VideoUniforms.standard : VideoUniforms := ShaderParams.initial.uniforms .empty (1, 1)

end Projector
