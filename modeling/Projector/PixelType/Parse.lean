import Projector.Error

/-!
# Asking for a pixel type

A pixel type is asked for by its name, in any case of its letters; two of
them have a second name.
-/

namespace Projector.PixelType

/-- The second names. -/
def alias? (name : String) : Option PixelType :=
  if name = "yuv420p" then some i420 else if name = "yuyv" then some yuy2 else none

/-- **The pixel type of a name.** The type without a picture cannot be
asked for. -/
def parse (text : String) : Except Error PixelType :=
  let name := text.map Char.toLower
  match alias? name <|> supported.find? fun type => type.name == name with
  | some type => .ok type
  | none => .error (.unsupportedFormat text)

end Projector.PixelType
