import Projector.Color.Property
import Projector.Decimal.Style
import Projector.Handle
import Projector.PixelType

/-!
# Errors

An error is an answer: the call says why it did not do what was asked, and
its caller goes on from the state as it then is. Each constructor is a
cause, and `Error.message` is the one place where causes become text.
-/

namespace Projector

open Decimal

/-- **A call that a graphics device can refuse.** -/
inductive DeviceCall where
  /-- Make a texture. -/
  | createTexture
  /-- Fill a texture. -/
  | writeTexture
  /-- Compile a program. -/
  | createProgram
  /-- Set the uniforms of a program. -/
  | bindUniforms
  /-- Begin a pass. -/
  | beginPass
  /-- Draw a quad. -/
  | drawQuad
  /-- End a pass. -/
  | endPass
  deriving DecidableEq, Repr

/-- The name of a device call in messages. -/
def DeviceCall.name : DeviceCall → String
  | createTexture => "create_texture"
  | writeTexture => "write_texture"
  | createProgram => "create_program"
  | bindUniforms => "bind_uniforms"
  | beginPass => "begin_pass"
  | drawQuad => "draw_quad"
  | endPass => "end_pass"

/-- **Why a graphics device refuses a call.** -/
inductive DeviceError where
  /-- A texture has to have texels. -/
  | zeroSizedTexture (width height : Nat)
  /-- There is no such texture to write into. -/
  | unknownTarget (id : TextureId)
  /-- The bytes written do not fill the texture. -/
  | shortWrite (length bytesPerRow width height : Nat) (texel : TexelFormat)
  /-- There is no such program. -/
  | unknownProgram (id : ProgramId)
  /-- There is no such texture to draw with. -/
  | unknownTexture (id : TextureId)
  /-- A pass was begun inside a pass. -/
  | passAlreadyOpen
  /-- Something was drawn outside a pass. -/
  | drawOutsidePass
  /-- A pass was ended that was not begun. -/
  | noOpenPass
  /-- The machine has no graphics device. -/
  | noAdapter
  /-- The call was made to fail. -/
  | injected (call : DeviceCall)
  deriving DecidableEq, Repr

/-- The message of a refused device call. -/
def DeviceError.message : DeviceError → String
  | zeroSizedTexture width height => s!"zero-sized texture {width}x{height}"
  | unknownTarget id => s!"write into unknown texture {id.describe}"
  | shortWrite length bytesPerRow width height texel =>
    s!"write of {length} bytes ({bytesPerRow} per row) does not fill {width}x{height} {texel.name}"
  | unknownProgram id => s!"unknown program {id.describe}"
  | unknownTexture id => s!"unknown texture {id.describe}"
  | passAlreadyOpen => "pass already open"
  | drawOutsidePass => "draw outside of a pass"
  | noOpenPass => "no pass to end"
  | noAdapter => "No suitable GPU adapter found"
  | injected call => s!"injected {call.name}"

/-- **Why planes do not make a frame.** -/
inductive FrameError where
  /-- There is no picture of this type and size. -/
  | noPicture (type : PixelType) (width height : Nat)
  /-- The type has another number of planes. -/
  | planeCount (type : PixelType) (expected got : Nat)
  /-- The rows of a plane are too short. -/
  | narrowStride (plane stride needed : Nat)
  /-- A plane has too few bytes. -/
  | shortPlane (plane length needed : Nat)
  deriving DecidableEq, Repr

/-- The message of planes that make no frame. -/
def FrameError.message : FrameError → String
  | noPicture type width height => s!"cannot build a {type.longName} frame of {width}x{height}"
  | planeCount type expected got => s!"{type.longName} needs {expected} planes, got {got}"
  | narrowStride plane stride needed =>
    s!"plane {plane} stride {stride} is narrower than {needed} bytes"
  | shortPlane plane length needed => s!"plane {plane} holds {length} bytes, needs {needed}"

/-- **What can be wrong with a configuration.** -/
inductive ConfigError where
  /-- The text is no configuration. -/
  | malformed
  /-- A colour property is out of range. -/
  | color (error : ColorError)
  /-- A component of the clear colour is no share of full intensity. -/
  | clearColor (components : List Float32)
  /-- A ratio is no finite number. -/
  | infiniteRatio

/-- The message of a configuration error. -/
def ConfigError.message : ConfigError → String
  | malformed => "Failed to parse renderer config"
  | color error => error.message
  | clearColor components =>
    let list := ", ".intercalate (components.map NumberStyle.pointed.single)
    s!"clear_color components must be within 0..=1, got [{list}]"
  | infiniteRatio => "aspect and crop ratios must be finite"

/-- **Why a file cannot be read.** -/
inductive FileError where
  /-- There is no such file. -/
  | notFound
  /-- The path names a directory. -/
  | isDirectory
  /-- The path goes through a file that is no directory. -/
  | notDirectory
  /-- The path, or a name in it, is longer than it can be. -/
  | nameTooLong
  /-- The bytes are no text. -/
  | notText
  deriving DecidableEq, Repr

/-- The message of a file that cannot be read. -/
def FileError.message : FileError → String
  | notFound => "No such file or directory (os error 2)"
  | isDirectory => "Is a directory (os error 21)"
  | notDirectory => "Not a directory (os error 20)"
  | nameTooLong => "File name too long (os error 36)"
  | notText => "stream did not contain valid UTF-8"

/-- **Why a call did not do what was asked.** -/
inductive Error where
  /-- The graphics device refuses. -/
  | gpu (error : DeviceError)
  /-- A program was not compiled. -/
  | shader (label : String)
  /-- A frame does not fit the texture made for it. -/
  | formatMismatch (slot : Nat) (expected got : Nat × Nat)
  /-- There is no pixel type of this name. -/
  | unsupportedFormat (name : String)
  /-- The planes do not make a frame. -/
  | invalidFrame (error : FrameError)
  /-- A picture has another size than its bytes. -/
  | pixelCount (length width height needed : Nat)
  /-- An image was not saved. -/
  | image
  /-- A configuration is refused. -/
  | config (error : ConfigError)
  /-- A file was not read. -/
  | file (error : FileError)

namespace Error

/-- A pair in a message. -/
def pair (p : Nat × Nat) : String := s!"({p.1}, {p.2})"

/-- **The message of an error.** -/
def message : Error → String
  | gpu error => s!"GPU error: {error.message}"
  | shader label => s!"Shader compilation error: {label} rejected"
  | formatMismatch slot expected got =>
    s!"Format mismatch on texture slot {slot}: allocated {pair expected}, frame needs {pair got}"
  | unsupportedFormat name => s!"Unsupported format: {name}"
  | invalidFrame error => s!"Invalid frame: {error.message}"
  | pixelCount length width height needed =>
    s!"Invalid parameter: RGBA buffer holds {length} bytes, {width}x{height} needs {needed}"
  | image => "Image error"
  | config error => s!"Configuration error: {error.message}"
  | file error => s!"I/O error: {error.message}"

end Error

end Projector
