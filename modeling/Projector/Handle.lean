/-!
# Handles

A graphics device hands out numbers for the objects it owns. They are
plain values, so whoever keeps one does not hold the device.
-/

namespace Projector

/-- **A texture of a device.** -/
structure TextureId where
  /-- The number. -/
  index : Nat
  deriving DecidableEq, Repr

/-- **A compiled program of a device.** -/
structure ProgramId where
  /-- The number. -/
  index : Nat
  deriving DecidableEq, Repr

/-- A texture in a message. -/
def TextureId.describe (id : TextureId) : String := s!"TextureId({id.index})"

/-- A program in a message. -/
def ProgramId.describe (id : ProgramId) : String := s!"ProgramId({id.index})"

end Projector
