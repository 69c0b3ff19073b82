import Projector.FlagSet

/-!
# Effects

What may be done to a picture while it is shown: two flips, three colour
filters and two convolutions. One more flag suspends all the others
without clearing them, so what counts is the set of *active* effects.

Flips change texture coordinates only. Filters and convolutions change
the fragment program, and `Effects.programKey` is the part of the active
effects that does.
-/

namespace Projector

/-- **A set of effects.** Bits without a name are kept and do nothing. -/
structure Effects where
  /-- The bits of the set. -/
  bits : UInt32
  deriving DecidableEq, Repr

namespace Effects

/-- No effect. -/
def none : Effects := ⟨0⟩

/-- Upside down. -/
def flipVertically : Effects := ⟨1⟩

/-- Left side right. -/
def flipHorizontally : Effects := ⟨2⟩

/-- Luma without chroma. -/
def grayscale : Effects := ⟨4⟩

/-- Complementary colours. -/
def invertColor : Effects := ⟨8⟩

/-- The limited luma range stretched to the full one. -/
def remapLuma : Effects := ⟨16⟩

/-- A smoothing convolution. -/
def blur : Effects := ⟨32⟩

/-- A sharpening convolution. -/
def sharpen : Effects := ⟨64⟩

/-- Suspends every other effect. -/
def ignoreEffect : Effects := ⟨128⟩

/-- The colour filters. -/
def filters : Effects := ⟨28⟩

/-- The convolutions. -/
def kernels : Effects := ⟨96⟩

/-- The names of the effects. -/
def flags : List Flag :=
  [⟨"FLIP_VERTICALLY", flipVertically.bits⟩,
   ⟨"FLIP_HORIZONTALLY", flipHorizontally.bits⟩,
   ⟨"GRAYSCALE", grayscale.bits⟩,
   ⟨"INVERT_COLOR", invertColor.bits⟩,
   ⟨"REMAP_LUMA", remapLuma.bits⟩,
   ⟨"BLUR", blur.bits⟩,
   ⟨"SHARPEN", sharpen.bits⟩,
   ⟨"IGNORE_EFFECT", ignoreEffect.bits⟩,
   ⟨"FILTER_EFFECTS", filters.bits⟩,
   ⟨"KERNEL_EFFECTS", kernels.bits⟩]

/-- Whether every effect of `other` is in the set. -/
def contains (e other : Effects) : Bool := FlagSet.contains e.bits other.bits

/-- Whether some effect of `other` is in the set. -/
def meets (e other : Effects) : Bool := FlagSet.meets e.bits other.bits

/-- **The effects that count.** -/
def active (e : Effects) : Effects := if e.contains ignoreEffect then none else e

/-- Whether a colour filter counts. -/
def hasFilter (e : Effects) : Bool := e.active.meets filters

/-- Whether a convolution counts. -/
def hasKernel (e : Effects) : Bool := e.active.meets kernels

/-- **The effects that change the fragment program.** -/
def programKey (e : Effects) : Effects := ⟨e.active.bits &&& (filters.bits ||| kernels.bits)⟩

/-- A set of effects in a message. -/
def describe (e : Effects) : String := s!"Effects({FlagSet.describe flags e.bits})"

end Effects

end Projector
