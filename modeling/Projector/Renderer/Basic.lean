import Projector.Config.Basic
import Projector.Geometry.Resolver
import Projector.Mailbox
import Projector.Overlay.Layer
import Projector.Shader.Program
import Projector.Upload

/-!
# The renderer

The renderer owns what is needed to show a stream of frames: the device,
the textures, the compiled program, the geometry and the overlay. The
mailbox connects it with whoever decodes. It tells layout code, as events,
when the format, the visible part or the offset changes.

This module has the state and its setters. A setter says whether anything
changed; if so, and if a drawing would show it, it asks for a redraw.
-/

namespace Projector

/-- **What the renderer tells layout code.** -/
inductive RenderEvent where
  /-- A frame of another type or size is shown. -/
  | formatChanged (format : VideoFormat)
  /-- The visible part has another place or size. -/
  | screenRectChanged (rect : Rect Float32)
  /-- The offset is another one. -/
  | offsetChanged (offset : Offset)

/-- **The state of a renderer** on a device. -/
structure Renderer (δ : Type) where
  /-- The device, and what was reported. -/
  bench : Bench δ
  /-- The slots that frames and canvases arrive in. -/
  mailbox : Mailbox
  /-- The events, the first one first. -/
  events : Array RenderEvent
  /-- The frame that was uploaded last. -/
  frame : VideoFrame
  /-- The format that is shown. -/
  format : VideoFormat
  /-- The effects and colours. -/
  shader : ShaderParams
  /-- The video program. -/
  program : Option ProgramId
  /-- What the video program was last asked for. -/
  programKey : Option ProgramKey
  /-- The textures of the video. -/
  textures : UploadEngine
  /-- Where the picture goes. -/
  geometry : Resolver Float32 Float
  /-- The overlay. -/
  overlay : OsdLayer
  /-- The item. -/
  item : Rect Float32
  /-- The colour around the picture. -/
  clearColor : ClearColor

namespace Renderer

variable {δ : Type}

/-! ## Telling -/

/-- Report an event of the library. -/
def report (e : LogEvent) (r : Renderer δ) : Renderer δ := { r with bench := r.bench.report e }

/-- Tell layout code. -/
def emit (e : RenderEvent) (r : Renderer δ) : Renderer δ := { r with events := r.events.push e }

/-- **Ask for a redraw.** Requests coalesce, and only one that was not yet
outstanding is reported. -/
def requestRedraw (r : Renderer δ) : Renderer δ :=
  let (posted, mailbox) := r.mailbox.requestRedraw
  let r := { r with mailbox }
  if posted then r.report .redrawRequested else r

/-- **Work out the picture's rectangle.** -/
def updateGeometry (r : Renderer δ) : Renderer δ :=
  let (changed, geometry) := r.geometry.update
  let r := { r with geometry }
  if changed then r.report (.frameRectUpdated geometry.cached) else r

/-! ## The decoding side -/

/-- **Present a frame**: store it, then ask for a redraw. -/
def present (r : Renderer δ) (frame : VideoFrame) (check : Bool) : Renderer δ :=
  { r with mailbox := r.mailbox.storeFrame frame check }.requestRedraw

/-- **Draw subtitles**: compose them into a canvas of the size of the
latest frame, store it, then ask for a redraw. -/
def drawOsd (r : Renderer δ) (bitmaps : List SubtitleBitmap) : Checked (Renderer δ) := do
  let (width, height) := r.mailbox.frame.format.size
  let (canvas, skipped) ← OsdImage.compose width height bitmaps
  return { r with
    bench := r.bench.reports skipped
    mailbox := r.mailbox.storeCanvas canvas }.requestRedraw

/-- Receive a redraw request. The answer says whether there was one. -/
def receiveRedraw (r : Renderer δ) : Bool × Renderer δ :=
  let (received, mailbox) := r.mailbox.receiveRedraw
  (received, { r with mailbox })

/-! ## Setters -/

/-- A changed geometry: the rectangle is worked out and a redraw asked
for. -/
def refresh (r : Renderer δ) (change : Bool × Resolver Float32 Float) : Bool × Renderer δ :=
  let (changed, geometry) := change
  if changed then (true, { r with geometry }.updateGeometry.requestRedraw)
  else (false, { r with geometry })

/-- Move or resize the item. -/
def resize (r : Renderer δ) (item : Rect Float32) : Bool × Renderer δ :=
  if r.item == item then (false, r)
  else
    let geometry := (r.geometry.setItem item.size).2
    (true, { r with item, geometry }.updateGeometry.requestRedraw)

/-- Anchor the visible box. -/
def setAlignment (r : Renderer δ) (alignment : Alignment) : Bool × Renderer δ :=
  r.refresh (r.geometry.setAlignment alignment)

/-- Wish for an aspect. -/
def setAspect (r : Renderer δ) (ratio : Float) : Bool × Renderer δ :=
  r.refresh (r.geometry.setAspect ratio)

/-- Wish for a crop. -/
def setCrop (r : Renderer δ) (ratio : Float) : Bool × Renderer δ :=
  r.refresh (r.geometry.setCrop ratio)

/-- Take the aspect that the stream reports; 0 if it reports none. -/
def setDisplayAspect (r : Renderer δ) (ratio : Float) : Renderer δ :=
  { r with geometry := r.geometry.setDisplayAspect ratio }.updateGeometry

/-- Move the visible box. -/
def setOffset (r : Renderer δ) (offset : Offset) : Bool × Renderer δ :=
  let (changed, geometry) := r.geometry.setOffset offset
  let r := { r with geometry }
  if changed then (true, (r.emit (.offsetChanged offset)).requestRedraw) else (false, r)

/-- Changed effects or colours: a redraw is asked for. -/
def restyle (r : Renderer δ) (change : Bool × ShaderParams) : Bool × Renderer δ :=
  let (changed, shader) := change
  let r := { r with shader }
  if changed then (true, r.requestRedraw) else (false, r)

/-- Take effects. -/
def setEffects (r : Renderer δ) (effects : Effects) : Bool × Renderer δ :=
  r.restyle (r.shader.setEffects effects)

/-- Take colour properties. -/
def setColor (r : Renderer δ) (color : ColorProperty) : Bool × Renderer δ :=
  r.restyle (r.shader.setColor color)

/-- Take a colour space and a range. -/
def setColorSpace (r : Renderer δ) (space : ColorSpace) (range : ColorRange) :
    Bool × Renderer δ :=
  r.restyle (r.shader.setColorSpace space range)

/-- Show or hide the overlay. -/
def setOsdEnabled (r : Renderer δ) (enabled : Bool) : Renderer δ :=
  if r.overlay.enabled = enabled then r
  else { r with overlay := r.overlay.setEnabled enabled }.requestRedraw

/-- Take a colour for what is around the picture. -/
def setClearColor (r : Renderer δ) (color : ClearColor) : Renderer δ :=
  { r with clearColor := color }

/-- **Take every setting of a configuration.** -/
def applyConfig (r : Renderer δ) (c : RendererConfig) : Renderer δ :=
  let r := (r.setAspect c.aspectRatio).2
  let r := (r.setCrop c.cropRatio).2
  let r := (r.setAlignment c.alignment).2
  let r := (r.setOffset ⟨c.offsetX, c.offsetY⟩).2
  let r := (r.setEffects c.effects).2
  let r := (r.setColor c.color).2
  let r := (r.setColorSpace c.colorSpace c.colorRange).2
  { r with overlay := r.overlay.setEnabled c.osd, clearColor := c.clearColor }

/-- A renderer before any setting is taken. -/
def bare (device : δ) (osd : Bool) (clearColor : ClearColor) : Renderer δ where
  bench := Bench.of device
  mailbox := .initial
  events := #[]
  frame := .empty
  format := .empty
  shader := .initial
  program := none
  programKey := none
  textures := .initial
  geometry := .initial
  overlay := .initial osd
  item := Rect.zero
  clearColor := clearColor

/-- **A renderer with the settings of a configuration.** -/
def withConfig (device : δ) (c : RendererConfig) : Renderer δ :=
  (bare device c.osd c.clearColor).applyConfig c

/-- A renderer with the usual settings. -/
def new (device : δ) : Renderer δ := withConfig device .standard

end Renderer

end Projector
