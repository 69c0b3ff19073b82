import Projector.Renderer.Frame

/-!
# Requests

All that can be asked of a renderer, as values. A *run* is a list of
requests carried out in order. The answer to a request is not always a
success, but unless it is a fault the run goes on, from the state that the
answer came with: a run is therefore a chain of states, and what one
request keeps, a run keeps (`run_cons`).
-/

namespace Projector

/-- **What can be asked of a renderer.** -/
inductive Request where
  /-- Present a frame, and perhaps have its format checked. -/
  | present (frame : VideoFrame) (check : Bool)
  /-- Draw subtitles. -/
  | drawOsd (bitmaps : List SubtitleBitmap)
  /-- Take what has arrived. -/
  | prepare
  /-- Draw one pass. -/
  | render
  /-- Move or resize the item. -/
  | resize (item : Rect Float32)
  /-- Anchor the visible box. -/
  | setAlignment (alignment : Alignment)
  /-- Wish for an aspect. -/
  | setAspect (ratio : Float)
  /-- Wish for a crop. -/
  | setCrop (ratio : Float)
  /-- Take the aspect that the stream reports. -/
  | setDisplayAspect (ratio : Float)
  /-- Move the visible box. -/
  | setOffset (offset : Offset)
  /-- Take effects. -/
  | setEffects (effects : Effects)
  /-- Take colour properties. -/
  | setColor (color : ColorProperty)
  /-- Take a colour space and a range. -/
  | setColorSpace (space : ColorSpace) (range : ColorRange)
  /-- Show or hide the overlay. -/
  | setOsdEnabled (enabled : Bool)
  /-- Take a colour for what is around the picture. -/
  | setClearColor (color : ClearColor)
  /-- Take every setting of a configuration. -/
  | applyConfig (config : RendererConfig)
  /-- Drop every object of the device. -/
  | release
  /-- Receive a redraw request. -/
  | receiveRedraw

/-- **What a renderer answers.** -/
inductive Answer where
  /-- Nothing but that it is done. -/
  | done
  /-- Whether something was changed, uploaded or received. -/
  | flag (yes : Bool)
  /-- Why it was not done. -/
  | failed (error : Error)

namespace Renderer

variable {δ : Type} [Device δ]

/-- A changed state with the answer that it is done. -/
def done (r : Renderer δ) : Checked (Answer × Renderer δ) := .ok (.done, r)

/-- A changed state with a flag. -/
def flagged (r : Bool × Renderer δ) : Checked (Answer × Renderer δ) := .ok (.flag r.1, r.2)

/-- The outcome of a step, with `answer` for its value. -/
def answered {α : Type} (m : Step (Renderer δ) α) (answer : α → Answer) (r : Renderer δ) :
    Checked (Answer × Renderer δ) := do
  match ← m.outcome r with
  | (.ok a, r) => return (answer a, r)
  | (.error e, r) => return (.failed e, r)

/-- **Carry out a request.** -/
def perform (r : Renderer δ) : Request → Checked (Answer × Renderer δ)
  | .present frame check => done (r.present frame check)
  | .drawOsd bitmaps => do done (← r.drawOsd bitmaps)
  | .prepare => answered prepare .flag r
  | .render => answered render (fun _ => .done) r
  | .resize item => flagged (r.resize item)
  | .setAlignment alignment => flagged (r.setAlignment alignment)
  | .setAspect ratio => flagged (r.setAspect ratio)
  | .setCrop ratio => flagged (r.setCrop ratio)
  | .setDisplayAspect ratio => done (r.setDisplayAspect ratio)
  | .setOffset offset => flagged (r.setOffset offset)
  | .setEffects effects => flagged (r.setEffects effects)
  | .setColor color => flagged (r.setColor color)
  | .setColorSpace space range => flagged (r.setColorSpace space range)
  | .setOsdEnabled enabled => done (r.setOsdEnabled enabled)
  | .setClearColor color => done (r.setClearColor color)
  | .applyConfig config => done (r.applyConfig config)
  | .release => done r.release
  | .receiveRedraw => flagged r.receiveRedraw

/-- **Carry out requests**, one after the other, whatever is answered. -/
def run (r : Renderer δ) : List Request → Checked (Renderer δ)
  | [] => .ok r
  | request :: requests => do
    let (_, r) ← r.perform request
    r.run requests

@[simp] theorem run_nil (r : Renderer δ) : r.run [] = .ok r := rfl

/-- The first request of a run, and then the others. -/
theorem run_cons (r : Renderer δ) (request : Request) (requests : List Request) :
    r.run (request :: requests) = (r.perform request).bind fun a => a.2.run requests := rfl

end Renderer

end Projector
