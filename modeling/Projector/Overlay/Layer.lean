import Projector.Device.Bench
import Projector.Overlay.Canvas
import Projector.Shader.Program

/-!
# The overlay layer

The side of the overlay that draws: one texture of the frame's size, one
program, and the canvas that was taken last. A canvas is uploaded once,
and only if it has the size of the texture; one of another size belongs to
another format and is dropped. A blank canvas counts as uploaded without a
write, and is never drawn.
-/

namespace Projector

/-- **The drawing side of the overlay.** -/
structure OsdLayer where
  /-- Whether the overlay is to be seen. -/
  enabled : Bool
  /-- The size the texture was made for. -/
  frameSize : Nat × Nat
  /-- The canvas that was taken last. -/
  image : Option OsdImage
  /-- The texture. -/
  texture : Option TextureId
  /-- The program. -/
  program : Option ProgramId
  /-- Whether the texture shows the canvas. -/
  uploaded : Bool

namespace OsdLayer

/-- A layer with nothing in it. -/
def initial (enabled : Bool) : OsdLayer := ⟨enabled, (0, 0), none, none, none, false⟩

/-- Show or hide the overlay. -/
def setEnabled (o : OsdLayer) (enabled : Bool) : OsdLayer := { o with enabled }

/-- Take a canvas. -/
def setImage (o : OsdLayer) (image : OsdImage) : OsdLayer :=
  { o with image := some image, uploaded := false }

/-- The canvas, while the overlay is to be seen. -/
def visibleImage? (o : OsdLayer) : Option OsdImage := if o.enabled then o.image else none

/-- Whether there is something to draw. -/
def isVisible (o : OsdLayer) : Bool :=
  o.enabled && o.uploaded && o.image.any fun image => !image.blank

section Steps

variable {δ : Type} [Device δ]

/-- Drop the texture, if there is one. -/
def dropTexture : Step (OsdLayer × Bench δ) Unit := do
  if let some old := (← get).1.texture then
    Bench.change fun o => { o with texture := none }
    Bench.tell (Device.destroyTexture old)

/-- Make a texture of a size, if it has pixels. -/
def makeTexture (width height : Nat) : Step (OsdLayer × Bench δ) Unit := do
  if 0 < width ∧ 0 < height then
    let texture ← Bench.call (Device.createTexture ⟨"osd", width, height, .rgba8⟩)
    Bench.change fun o => { o with texture := some texture }
    Bench.note (.overlayAllocated width height)

/-- **Make the texture for a frame size.** A canvas of the former size is
dropped. -/
def setFrameSize (size : Nat × Nat) : Step (OsdLayer × Bench δ) Unit := do
  let o := (← get).1
  if o.frameSize = size ∧ o.texture.isSome then return ()
  dropTexture
  Bench.change fun o => { o with frameSize := size, image := none, uploaded := false }
  makeTexture size.1 size.2

/-- **Upload the canvas**, if it is not uploaded yet. -/
def upload : Step (OsdLayer × Bench δ) Unit := do
  let o := (← get).1
  if o.uploaded then return ()
  let (some texture, some image) := (o.texture, o.image) | return ()
  if (image.width, image.height) ≠ o.frameSize then
    Bench.note .canvasDiscarded
    Bench.change fun o => { o with image := none }
    return ()
  if !image.blank then
    let bytesPerRow ← Step.ofChecked (Checked.fit32 (image.width * 4))
    Bench.call (Device.writeTexture texture image.canvas.bytes bytesPerRow)
  Bench.change fun o => { o with uploaded := true }

/-- The program of the overlay, compiled when it is first needed. -/
def ensureProgram : Step (OsdLayer × Bench δ) ProgramId := do
  match (← get).1.program with
  | some program => return program
  | none =>
    let program ← Bench.call (Device.createProgram ⟨"osd", Program.overlaySource, true⟩)
    Bench.change fun o => { o with program := some program }
    return program

/-- **Draw the canvas over a rectangle.** The answer says whether there was
anything to draw. -/
def draw (rect : Rect Float32) : Step (OsdLayer × Bench δ) Bool := do
  let o := (← get).1
  let some texture := o.texture | return false
  if !o.isVisible then return false
  let program ← ensureProgram
  Bench.call (Device.bindUniforms program .standard)
  Bench.call (Device.drawQuad program #v[some texture, none, none] (Quad.of rect .whole))
  return true

/-- **Drop the texture, the program and the canvas.** -/
def release (s : OsdLayer × Bench δ) : OsdLayer × Bench δ :=
  let o := s.1
  let dropTexture (d : δ) : δ := o.texture.elim d fun t => Device.destroyTexture t d
  let dropProgram (d : δ) : δ := o.program.elim d fun p => Device.destroyProgram p d
  (initial o.enabled, s.2.onDevice fun d => dropProgram (dropTexture d))

end Steps

end OsdLayer

end Projector
