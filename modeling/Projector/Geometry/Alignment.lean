import Projector.FlagSet

/-!
# Alignment

Where a picture that is smaller than its item is anchored, on each axis:
at one edge, at the other one, or in the middle. Of two edges of one axis
the left and the upper one win, and without an edge the middle is meant,
whether its bit is set or not.
-/

namespace Projector

/-- **A set of anchors.** Bits without a name are kept and do nothing. -/
structure Alignment where
  /-- The bits of the set. -/
  bits : UInt32
  deriving DecidableEq, Repr

namespace Alignment

/-- At the left edge. -/
def left : Alignment := ⟨1⟩

/-- At the right edge. -/
def right : Alignment := ⟨2⟩

/-- In the middle, across. -/
def horizontalCenter : Alignment := ⟨4⟩

/-- At the upper edge. -/
def top : Alignment := ⟨8⟩

/-- At the lower edge. -/
def bottom : Alignment := ⟨16⟩

/-- In the middle, upright. -/
def verticalCenter : Alignment := ⟨32⟩

/-- In the middle of both axes. -/
def center : Alignment := ⟨36⟩

/-- The names of the anchors. -/
def flags : List Flag :=
  [⟨"LEFT", left.bits⟩,
   ⟨"RIGHT", right.bits⟩,
   ⟨"H_CENTER", horizontalCenter.bits⟩,
   ⟨"TOP", top.bits⟩,
   ⟨"BOTTOM", bottom.bits⟩,
   ⟨"V_CENTER", verticalCenter.bits⟩,
   ⟨"CENTER", center.bits⟩]

/-- Whether every anchor of `other` is in the set. -/
def contains (a other : Alignment) : Bool := FlagSet.contains a.bits other.bits

/-- A set of anchors in a message. -/
def describe (a : Alignment) : String := s!"Alignment({FlagSet.describe flags a.bits})"

end Alignment

end Projector
