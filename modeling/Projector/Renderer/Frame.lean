import Projector.Frame.Snapshot
import Projector.Renderer.Basic

/-!
# Showing a frame

Once a display refresh the renderer prepares and renders. `prepare` takes
what has arrived and brings the device up to date with it: textures for
the frame's format, the program for its type and the effects, the planes,
and the canvas. `render` draws the picture and the overlay in one pass.

A frame of the format that is shown goes straight to the textures. Whether
it is of that format is looked at when the frame asks for it, when nothing
is shown, and when the type differs. A frame that was not looked at and
does not fit its textures is found out by the upload, and the textures are
then made anew for it, without telling layout code.
-/

namespace Projector.Renderer

variable {δ : Type} [Device δ]

/-! ## Parts of the state -/

/-- A step of the textures. -/
def onTextures {α : Type} (m : Step (UploadEngine × Bench δ) α) : Step (Renderer δ) α :=
  Step.zoom (fun r => (r.textures, r.bench))
    (fun s r => { r with textures := s.1, bench := s.2 }) m

/-- A step of the overlay. -/
def onOverlay {α : Type} (m : Step (OsdLayer × Bench δ) α) : Step (Renderer δ) α :=
  Step.zoom (fun r => (r.overlay, r.bench))
    (fun s r => { r with overlay := s.1, bench := s.2 }) m

/-- A call of the device. -/
def onDevice {α : Type} (m : Step δ α) : Step (Renderer δ) α :=
  Step.zoom (fun r => r.bench.device)
    (fun d r => { r with bench := { r.bench with device := d } }) m

/-- Drop the video program, if there is one. -/
def dropProgram (r : Renderer δ) : Renderer δ :=
  match r.program with
  | none => r
  | some old =>
    { r with program := none, bench := r.bench.onDevice (Device.destroyProgram old) }

/-! ## Preparing -/

/-- **Bring the video program up to date** with the type of the format and
the effects. A program that is not compiled leaves no program; the same
key is not tried again. -/
def ensureProgram : Step (Renderer δ) Unit := do
  let r ← get
  let key := r.shader.programKey r.format.pixelType
  if r.programKey = some key then return ()
  modify fun r => { r.dropProgram with programKey := some key }
  match r.shader.fragmentSource key.pixelType with
  | none => return ()
  | some source =>
    match ← Step.attempt (onDevice (Device.createProgram ⟨"video", source, false⟩)) with
    | .ok program =>
      modify fun r => { r.report (.programBuilt key.pixelType key.effects) with
        program := some program }
    | .error e => modify fun r => r.report (.programFailed e)

/-- **Show another format**: geometry, overlay texture and video textures
follow it, in this order. -/
def resetFormat (format : VideoFormat) (notify : Bool) : Step (Renderer δ) Unit := do
  modify fun r =>
    { r.report (.formatChanged format.pixelType format.width format.height) with
      format
      geometry := (r.geometry.setFormat format).2 }
  onOverlay (OsdLayer.setFrameSize format.size)
  let _ ← onTextures (UploadEngine.ensureAllocated format)
  modify updateGeometry
  if notify then modify (emit (.formatChanged format))

/-- Whether a frame's format is to be compared with the one shown. -/
def compares (r : Renderer δ) (frame : VideoFrame) (check : Bool) : Bool :=
  check || r.format.isEmpty || r.format.pixelType != frame.pixelType

/-- Upload a frame; textures that it does not fit are made anew, once. -/
def uploadFrame (frame : VideoFrame) : Step (Renderer δ) Bool := do
  match ← Step.attempt (onTextures (UploadEngine.upload frame)) with
  | .ok uploaded => return uploaded
  | .error (.formatMismatch slot expected got) =>
    modify (report (.texturesMismatched slot expected got))
    resetFormat frame.format false
    ensureProgram
    onTextures (UploadEngine.upload frame)
  | .error e => throw e

/-- **Take a frame.** -/
def takeFrame (frame : VideoFrame) (check : Bool) : Step (Renderer δ) Bool := do
  let r ← get
  if r.compares frame check && !r.format.same frame.format then resetFormat frame.format true
  ensureProgram
  let uploaded ← uploadFrame frame
  modify fun r => { r with frame }
  return uploaded

/-- Take the frame that has arrived, if one has. The answer says whether it
was uploaded. -/
def takePending (pending : Pending) : Step (Renderer δ) Bool :=
  match pending.frame with
  | some (frame, check) => takeFrame frame check
  | none => pure false

/-- Take the canvas that has arrived, if one has, and show the latest one. -/
def takeCanvas (pending : Pending) : Step (Renderer δ) Unit := do
  if let some canvas := pending.canvas then
    modify fun r => { r with overlay := r.overlay.setImage canvas }
  onOverlay OsdLayer.upload

/-- Take a frame and a canvas. The canvas comes after the frame, whose
format may drop the canvas that is there. -/
def consume (pending : Pending) : Step (Renderer δ) Bool := do
  let uploaded ← takePending pending
  takeCanvas pending
  return uploaded

/-- **Take what has arrived.** The answer says whether a frame was
uploaded. -/
def prepare : Step (Renderer δ) Bool := do
  let (pending, mailbox) := (← get).mailbox.take
  modify fun r => { r with mailbox }
  match pending with
  | none => return false
  | some pending => consume pending

/-! ## Rendering -/

/-- Draw the picture, if there is one. -/
def drawVideo (update : VertexUpdate Float32) : Step (Renderer δ) Unit := do
  let r ← get
  let some program := r.program | return ()
  if r.format.isEmpty || r.textures.drawnFrames == 0 then return ()
  onDevice (Device.bindUniforms program (r.shader.uniforms r.format r.textures.correction))
  onDevice (Device.drawQuad program r.textures.textureIds (Quad.of update.vertex update.tex))

/-- Draw the picture and the overlay. -/
def drawContents : Step (Renderer δ) Unit := do
  let r ← get
  let (update, geometry) := r.geometry.updateVertex r.shader.effects
  set { r with geometry }
  if update.screenChanged then modify (emit (.screenRectChanged update.screen))
  drawVideo update
  let _ ← onOverlay (OsdLayer.draw geometry.cached)

/-- **Draw one pass.** The pass is ended whatever happens inside; an error
inside comes before one at the end. -/
def render : Step (Renderer δ) Unit := do
  ensureProgram
  let r ← get
  onDevice (Device.beginPass r.item.size r.clearColor)
  let drawn ← Step.attempt drawContents
  let ended ← Step.attempt (onDevice Device.endPass)
  Step.ofExcept (drawn.bind fun _ => ended)

/-- **Drop every object of the device.** -/
def release (r : Renderer δ) : Renderer δ :=
  let (textures, bench) := UploadEngine.release (r.textures, r.bench)
  let (overlay, bench) := OsdLayer.release (r.overlay, bench)
  let r := { r with textures, overlay, bench }.dropProgram
  { r with
    programKey := none
    format := .empty
    geometry := (r.geometry.setFormat .empty).2 }

/-! ## Looking -/

omit [Device δ] in
/-- **The latest frame as a picture**, with the overlay over it; none while
no format is shown. -/
def frameImage (r : Renderer δ) : Checked (Option Image) := do
  if r.format.isEmpty then return none
  let picture ← r.mailbox.frame.toImageWith (.of r.shader.space r.shader.range)
  return picture.map fun image =>
    match r.overlay.visibleImage? with
    | some canvas => canvas.drawOnto image
    | none => image

omit [Device δ] in
/-- Whether a picture is shown. -/
def hasFrame (r : Renderer δ) : Bool := !r.format.isEmpty

omit [Device δ] in
/-- The item as a rectangle at the origin. -/
def overlayRect (r : Renderer δ) : Rect Float32 := Rect.ofPosSize ⟨0, 0⟩ r.item.size

omit [Device δ] in
/-- The size that would show the picture in full. -/
def sizeHint (r : Renderer δ) : Size Float32 :=
  let (width, height) := r.geometry.sizeHint
  ⟨Float32.ofNat width, Float32.ofNat height⟩

end Projector.Renderer
