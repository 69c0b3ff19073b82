import Projector.Frame.Synthetic
import Projector.Path
import Projector.Renderer.Frame

/-!
# The demonstration

In place of a decoder the demonstration makes its own frames: eight
colour bars that move to the right, eight columns a frame, with a strip
near the lower edge that fills up as the frames go by.
-/

namespace Projector.Demo

/-- Columns of a frame. -/
def frameWidth : Nat := 640

/-- Rows of a frame. -/
def frameHeight : Nat := 360

/-- Columns of the strip. -/
def stripWidth : Nat := frameWidth - 40

/-- Rows of the strip. -/
def stripHeight : Nat := 24

/-- The part of the strip that is done. -/
def doneColor : Pixel := ⟨255, 255, 255, 200⟩

/-- The part of the strip that is not. -/
def openColor : Pixel := ⟨0, 0, 0, 128⟩

/-- **How many columns of the strip are done** after frame `index` of
`frames`. The number is kept in a word of 32 bits. -/
def filledColumns (index frames : Nat) : Nat :=
  stripWidth * (index + 1) / max frames 1 % UInt32.size

/-- **The strip** after frame `index` of `frames`. -/
def subtitleStrip (index frames : Nat) : SubtitleBitmap :=
  let filled := filledColumns index frames
  let picture : Image := Raster.ofFn stripWidth stripHeight fun x _ =>
    if x < filled then doneColor else openColor
  .tight 20 (frameHeight - stripHeight - 20 : Nat) stripWidth stripHeight picture.bytes

/-- The bars of frame `index`: each row turned to the right. -/
def scrolledBars (bars : Image) (index : Nat) : Image :=
  let shift := index * 8 % frameWidth
  Raster.ofFn bars.width bars.height fun x y =>
    bars.getD ((x + bars.width - shift) % bars.width) y .transparent

/-- The bars of the first frame. -/
def firstBars : Image := Raster.ofFn frameWidth frameHeight fun x _ => VideoFrame.barAt frameWidth x

variable {δ : Type}

/-- Present frame `index` of `frames`, and its strip. The first frame asks
for its format to be checked. -/
def feedFrame (type : PixelType) (frames index : Nat) (r : Renderer δ) :
    Checked (Except Error (Renderer δ)) := do
  let bars := scrolledBars firstBars index
  match ← VideoFrame.ofRgba type frameWidth frameHeight bars.bytes .bt601 .limited with
  | .error e => return .error e
  | .ok frame =>
    let r := r.present frame (index == 0)
    return .ok (← r.drawOsd [subtitleStrip index frames])

/-- Present the last `left` of `frames` frames. -/
def feedLast (type : PixelType) (frames : Nat) :
    Nat → Renderer δ → Checked (Except Error (Renderer δ))
  | 0, r => return .ok r
  | left + 1, r => do
    match ← feedFrame type frames (frames - (left + 1)) r with
    | .error e => return .error e
    | .ok r => feedLast type frames left r

/-- **Present all frames.** -/
def feed (type : PixelType) (frames : Nat) (r : Renderer δ) :
    Checked (Except Error (Renderer δ)) :=
  feedLast type frames frames r

/-- **Where the snapshot is kept**: beside the picture, under its name. -/
def snapshotPath (output : String) : String :=
  let stem := (Path.stem? output.toList).getD "vrender".toList
  String.ofList (Path.withFileName output.toList (stem ++ "-snapshot.png".toList))

end Projector.Demo
