import Projector.Bytes
import Projector.Geometry.Quad
import Projector.Shader.Params
import Projector.Step

/-!
# Graphics devices

What the presentation needs of a device: to own textures and programs, to
fill a texture, and to draw quads inside a pass. A device hands out
handles; every call that names an object, or makes one, may be refused,
and dropping an object always works.

`Device` is the contract. Nothing else in the library knows more about a
device than this class says.
-/

namespace Projector

/-- **What a texture is made from.** -/
structure TextureDesc where
  /-- What it is for. -/
  label : String
  /-- Texels of a row. -/
  width : Nat
  /-- How many rows. -/
  height : Nat
  /-- What a texel holds. -/
  format : TexelFormat
  deriving DecidableEq, Repr

/-- Bytes of a row of texels. -/
def TextureDesc.rowBytes (d : TextureDesc) : Checked Nat := Checked.fit32 (d.width * d.format.bytes)

/-- **What a program is made from.** -/
structure ProgramDesc where
  /-- What it is for. -/
  label : String
  /-- Its text. -/
  source : String
  /-- Whether it is laid over what is there. -/
  blend : Bool
  deriving DecidableEq, Repr

/-- **The colour around the picture.** -/
structure ClearColor where
  /-- Share of red. -/
  red : Float32
  /-- Share of green. -/
  green : Float32
  /-- Share of blue. -/
  blue : Float32
  /-- Opacity. -/
  alpha : Float32
  deriving BEq

/-- The components of a colour, in order. -/
def ClearColor.components (c : ClearColor) : List Float32 := [c.red, c.green, c.blue, c.alpha]

/-- Opaque black. -/
def ClearColor.black : ClearColor := ⟨0, 0, 0, 1⟩

/-- The textures of up to three slots. -/
abbrev Bindings := Vector (Option TextureId) 3

/-- **A graphics device**, as a state that calls change. -/
class Device (δ : Type) where
  /-- Make a texture. -/
  createTexture : TextureDesc → Step δ TextureId
  /-- Drop a texture. -/
  destroyTexture : TextureId → δ → δ
  /-- Fill a texture with rows of so many bytes. The last row may end with
  its last texel. -/
  writeTexture : TextureId → Bytes → Nat → Step δ Unit
  /-- Compile a program. -/
  createProgram : ProgramDesc → Step δ ProgramId
  /-- Drop a program. -/
  destroyProgram : ProgramId → δ → δ
  /-- Set the numbers that a program reads. -/
  bindUniforms : ProgramId → VideoUniforms → Step δ Unit
  /-- Begin a pass over a viewport filled with a colour. -/
  beginPass : Size Float32 → ClearColor → Step δ Unit
  /-- Draw a quad with a program and textures. -/
  drawQuad : ProgramId → Bindings → Quad Float32 → Step δ Unit
  /-- End the pass. -/
  endPass : Step δ Unit

end Projector
