import Projector.Image.Blend
import Projector.Image.Resize
import Projector.Log
import Projector.Overlay.Bitmap

/-!
# The overlay canvas

All subtitle bitmaps of a frame are composed into one picture of the
frame's size, in order, each over what is there already. What reaches over
an edge is cut off, and malformed bitmaps are skipped. The canvas is
*blank* if every bitmap was skipped, and then nothing is to be drawn.
-/

namespace Projector

/-- **The composed bitmaps of a frame.** -/
structure OsdImage where
  /-- The picture, of the frame's size. -/
  canvas : Image
  /-- Whether no bitmap was composed. -/
  blank : Bool
  deriving DecidableEq

namespace OsdImage

/-- Pixels of a row. -/
def width (o : OsdImage) : Nat := o.canvas.width

/-- How many rows. -/
def height (o : OsdImage) : Nat := o.canvas.height

/-- One more bitmap laid over the canvas; a malformed one is reported
instead. -/
def addBitmap (o : OsdImage) (b : SubtitleBitmap) : Checked (OsdImage × List LogEvent) := do
  match ← b.toImage? with
  | none => return (o, [.malformedBitmap b.width b.height b.rgba.size])
  | some image => return (⟨o.canvas.overlay image b.x b.y, false⟩, [])

/-- The bitmaps laid over the canvas, in order, with the reports of those
that were skipped. -/
def addBitmaps (o : OsdImage) : List SubtitleBitmap → Checked (OsdImage × List LogEvent)
  | [] => return (o, [])
  | b :: bs => do
    let (o, skipped) ← o.addBitmap b
    let (o, more) ← o.addBitmaps bs
    return (o, skipped ++ more)

/-- **The canvas of a list of bitmaps**, and the reports of those that
were skipped. -/
def compose (width height : Nat) (bitmaps : List SubtitleBitmap) :
    Checked (OsdImage × List LogEvent) := do
  addBitmaps ⟨← Image.transparent width height, true⟩ bitmaps

/-- **The canvas laid over a picture**, stretched to its size. -/
def drawOnto (o : OsdImage) (target : Image) : Image :=
  if o.blank then target
  else if target.width = o.width ∧ target.height = o.height then target.overlay o.canvas 0 0
  else target.overlay (o.canvas.resize target.width target.height) 0 0

end OsdImage

end Projector
