import Projector.Scalar

/-!
# Rectangles

Points, sizes and rectangles with sides along the axes. A rectangle is a
corner and a size, and a size may be zero or negative: such a rectangle is
*empty* and has no points.

A size can be scaled, its aspect kept, to fit into another one or to cover
it. Both are one rule, `Size.scaled`: match the height and see whether the
width then is small enough, or large enough; if not, match the width.
-/

namespace Projector

/-- **A point**, or a displacement. -/
structure Point (S : Type) where
  /-- Across. -/
  x : S
  /-- Down. -/
  y : S
  deriving BEq, Repr

/-- **A size.** -/
structure Size (S : Type) where
  /-- Across. -/
  width : S
  /-- Down. -/
  height : S
  deriving Repr

/-- **A rectangle.** -/
structure Rect (S : Type) where
  /-- The left edge. -/
  x : S
  /-- The upper edge. -/
  y : S
  /-- From the left edge to the right one. -/
  width : S
  /-- From the upper edge to the lower one. -/
  height : S
  deriving Repr

variable {S D : Type} [Scalar S] [Scalar D] [Precision S D]

namespace Size

instance : BEq (Size S) := ⟨fun a b => a.width == b.width && a.height == b.height⟩

instance : Inhabited (Size S) := ⟨⟨0, 0⟩⟩

/-- Whether a size has no area. -/
def isEmpty (s : Size S) : Bool := decide (s.width ≤ 0) || decide (s.height ≤ 0)

/-- Width over height; 1 for a size without area. -/
def aspect (s : Size S) : D :=
  if s.isEmpty then 1 else Precision.widen s.width / Precision.widen s.height

/-- **A size of this aspect that matches `bounds` in one dimension.** Once
the height is matched, `accepts` says whether the width is right; otherwise
the width is matched. A size without area has no aspect, and the bounds
are the answer. -/
def scaled (s bounds : Size S) (accepts : D → D → Bool) : Size S :=
  if s.isEmpty then bounds
  else
    let w : D := Precision.widen s.width
    let h : D := Precision.widen s.height
    let boundsWidth : D := Precision.widen bounds.width
    let boundsHeight : D := Precision.widen bounds.height
    let width := boundsHeight * w / h
    if accepts width boundsWidth then ⟨Precision.narrow width, Precision.narrow boundsHeight⟩
    else ⟨Precision.narrow boundsWidth, Precision.narrow (boundsWidth * h / w)⟩

/-- The largest size of this aspect inside `bounds`. -/
def scaledToFit (s bounds : Size S) : Size S := s.scaled bounds fun width limit => width ≤ limit

/-- The smallest size of this aspect that covers `bounds`. -/
def scaledToCover (s bounds : Size S) : Size S := s.scaled bounds fun width limit => limit ≤ width

end Size

namespace Rect

instance : BEq (Rect S) :=
  ⟨fun a b => a.x == b.x && a.y == b.y && a.width == b.width && a.height == b.height⟩

/-- The rectangle without a size at the origin. -/
def zero : Rect S := ⟨0, 0, 0, 0⟩

instance : Inhabited (Rect S) := ⟨zero⟩

/-- The rectangle of a corner and a size. -/
def ofPosSize (p : Point S) (s : Size S) : Rect S := ⟨p.x, p.y, s.width, s.height⟩

/-- The rectangle between two corners. -/
def ofCorners (p q : Point S) : Rect S := ⟨p.x, p.y, q.x - p.x, q.y - p.y⟩

/-- The right edge. -/
def right (r : Rect S) : S := r.x + r.width

/-- The lower edge. -/
def bottom (r : Rect S) : S := r.y + r.height

/-- The upper left corner. -/
def min (r : Rect S) : Point S := ⟨r.x, r.y⟩

/-- The lower right corner. -/
def max (r : Rect S) : Point S := ⟨r.right, r.bottom⟩

/-- The size. -/
def size (r : Rect S) : Size S := ⟨r.width, r.height⟩

/-- Whether a rectangle has no points. -/
def isEmpty (r : Rect S) : Bool := r.size.isEmpty

/-- Width over height; 1 for an empty rectangle. -/
def aspect (r : Rect S) : D := r.size.aspect

/-- The rectangle moved by a displacement. -/
def translated (r : Rect S) (d : Point S) : Rect S := ⟨r.x + d.x, r.y + d.y, r.width, r.height⟩

/-- **The common part of two rectangles**, if it has an area. -/
def intersection (a b : Rect S) : Option (Rect S) :=
  let left := Scalar.larger a.x b.x
  let top := Scalar.larger a.y b.y
  let right := Scalar.smaller a.right b.right
  let bottom := Scalar.smaller a.bottom b.bottom
  if left < right ∧ top < bottom then some ⟨left, top, right - left, bottom - top⟩ else none

end Rect

end Projector
