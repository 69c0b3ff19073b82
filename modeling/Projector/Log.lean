import Projector.Decimal.Style
import Projector.Effects
import Projector.Error
import Projector.Geometry.Rect

/-!
# Log events

What the library reports while it works. An event is a value of the
domain: which texture was allocated, which bitmap was skipped. Its level,
the place it is reported from, its message and its fields are functions
of the value, so nothing but this module decides how a report reads.
-/

namespace Projector

open Decimal

/-- **How much an event matters.** -/
inductive LogLevel where
  /-- Of interest to whoever follows each step. -/
  | trace
  /-- Of interest to whoever looks for a cause. -/
  | debug
  /-- Of interest to whoever runs the program. -/
  | info
  /-- Something was not done. -/
  | warn
  deriving DecidableEq, Repr

/-- The name of a level. -/
def LogLevel.name : LogLevel → String
  | trace => "TRACE"
  | debug => "DEBUG"
  | info => "INFO"
  | warn => "WARN"

/-- **What is reported.** -/
inductive LogEvent where
  /-- A redraw was asked for, and none was outstanding. -/
  | redrawRequested
  /-- A texture was made for a slot. -/
  | textureAllocated (slot width height : Nat) (texel : TexelFormat)
  /-- The planes of a frame were uploaded. -/
  | planesUploaded (frames : Nat)
  /-- A subtitle bitmap was skipped. -/
  | malformedBitmap (width height length : Nat)
  /-- A texture was made for the overlay. -/
  | overlayAllocated (width height : Nat)
  /-- A canvas of another size was dropped. -/
  | canvasDiscarded
  /-- A frame of another format was taken. -/
  | formatChanged (type : PixelType) (width height : Nat)
  /-- A frame did not fit its textures. -/
  | texturesMismatched (slot : Nat) (expected got : Nat × Nat)
  /-- The video program was compiled. -/
  | programBuilt (type : PixelType) (effects : Effects)
  /-- The video program was not compiled. -/
  | programFailed (error : Error)
  /-- The picture has another place. -/
  | frameRectUpdated (rect : Rect Float32)

namespace LogEvent

/-- How much an event matters. -/
def level : LogEvent → LogLevel
  | redrawRequested => .trace
  | textureAllocated .. => .debug
  | planesUploaded _ => .trace
  | malformedBitmap .. => .warn
  | overlayAllocated .. => .debug
  | canvasDiscarded => .trace
  | formatChanged .. => .info
  | texturesMismatched .. => .warn
  | programBuilt .. => .debug
  | programFailed _ => .warn
  | frameRectUpdated _ => .trace

/-- Where an event is reported from. -/
def target : LogEvent → String
  | redrawRequested => "vrender_present::mailbox"
  | textureAllocated .. | planesUploaded _ => "vrender_gpu::texture"
  | malformedBitmap .. | overlayAllocated .. | canvasDiscarded => "vrender_present::osd"
  | _ => "vrender_present::renderer"

/-- What an event says. -/
def message : LogEvent → String
  | redrawRequested => "redraw requested"
  | textureAllocated .. => "allocated video texture"
  | planesUploaded _ => "uploaded frame planes"
  | malformedBitmap .. => "skipping malformed subtitle bitmap"
  | overlayAllocated .. => "allocated osd texture"
  | canvasDiscarded => "discarding osd canvas composed for another frame size"
  | formatChanged .. => "video format changed"
  | texturesMismatched .. => "frame does not match the allocated textures, reallocating"
  | programBuilt .. => "built video program"
  | programFailed _ => "video program failed to build, frames are not drawn"
  | frameRectUpdated _ => "frame rect updated"

/-- A rectangle in a field. -/
def describeRect (r : Rect Float32) : String :=
  let n := NumberStyle.pointed.single
  s!"Rect \x7b x: {n r.x}, y: {n r.y}, width: {n r.width}, height: {n r.height} \x7d"

/-- The fields of an event, with their texts. -/
def fields : LogEvent → List (String × String)
  | redrawRequested => []
  | textureAllocated slot width height texel =>
    [("slot", toString slot), ("width", toString width), ("height", toString height),
      ("texel", texel.name)]
  | planesUploaded frames => [("frames", toString frames)]
  | malformedBitmap width height length =>
    [("width", toString width), ("height", toString height), ("len", toString length)]
  | overlayAllocated width height => [("width", toString width), ("height", toString height)]
  | canvasDiscarded => []
  | formatChanged type width height =>
    [("pixel_type", type.longName), ("width", toString width), ("height", toString height)]
  | texturesMismatched slot expected got =>
    [("slot", toString slot), ("expected", Error.pair expected), ("got", Error.pair got)]
  | programBuilt type effects =>
    [("pixel_type", type.longName), ("effects", effects.describe)]
  | programFailed error => [("error", error.message)]
  | frameRectUpdated rect => [("rect", describeRect rect)]

end LogEvent

end Projector
