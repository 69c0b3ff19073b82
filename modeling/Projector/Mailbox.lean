import Projector.Frame
import Projector.Overlay.Canvas

/-!
# The mailbox

Between whoever decodes and whoever draws there is one slot for a frame
and one for a canvas. What is stored replaces what is there, so only the
latest is drawn; a frame that is replaced before it was taken is dropped,
and counted. A frame may ask for its format to be checked, and the wish
outlives the frame: it goes on to the frame that replaces it.

Storing and asking for a redraw are two actions, one after the other.
Redraw requests coalesce: at most one is outstanding.
-/

namespace Projector

/-- **What was taken out of the mailbox.** -/
structure Pending where
  /-- The latest frame, and whether its format is to be checked. -/
  frame : Option (VideoFrame × Bool)
  /-- The latest canvas. -/
  canvas : Option OsdImage

/-- **The slots between the two sides.** -/
structure Mailbox where
  /-- The latest frame; it stays after it was taken. -/
  frame : VideoFrame
  /-- Whether it was not taken yet. -/
  framePending : Bool
  /-- Whether its format is to be checked. -/
  checkFormat : Bool
  /-- The latest canvas. -/
  canvas : Option OsdImage
  /-- Whether it was not taken yet. -/
  canvasPending : Bool
  /-- How many frames were stored. -/
  presented : Nat
  /-- How many of them were replaced before they were taken. -/
  dropped : Nat
  /-- Whether a redraw request is outstanding. -/
  redraw : Bool

namespace Mailbox

/-- Nothing stored. -/
def initial : Mailbox := ⟨.empty, false, false, none, false, 0, 0, false⟩

instance : Inhabited Mailbox := ⟨initial⟩

/-- **Store a frame.** -/
def storeFrame (m : Mailbox) (frame : VideoFrame) (check : Bool) : Mailbox :=
  { m with
    frame := frame
    framePending := true
    checkFormat := check || (m.framePending && m.checkFormat)
    presented := m.presented + 1
    dropped := if m.framePending then m.dropped + 1 else m.dropped }

/-- **Store a canvas.** -/
def storeCanvas (m : Mailbox) (canvas : OsdImage) : Mailbox :=
  { m with canvas := some canvas, canvasPending := true }

/-- **Take what was stored since the last time**, if anything was. -/
def take (m : Mailbox) : Option Pending × Mailbox :=
  if m.framePending || m.canvasPending then
    (some ⟨if m.framePending then some (m.frame, m.checkFormat) else none,
        if m.canvasPending then m.canvas else none⟩,
      { m with framePending := false, canvasPending := false })
  else (none, m)

/-- **Ask for a redraw.** The answer says whether no request was
outstanding. -/
def requestRedraw (m : Mailbox) : Bool × Mailbox := (!m.redraw, { m with redraw := true })

/-- **Receive a redraw request.** The answer says whether there was one. -/
def receiveRedraw (m : Mailbox) : Bool × Mailbox := (m.redraw, { m with redraw := false })

end Mailbox

end Projector
