import Projector.Effects
import Projector.Geometry.Rect
import Projector.VideoFormat

/-!
# Quads

What a device draws is a quad: four vertices, each a position and the
place in the texture that is shown there. `TexCoords` names the part of
the texture by its four edges. Edges may be swapped, and that is how a
picture is flipped.
-/

namespace Projector

/-- **A part of a texture**, by its edges; the whole texture is from 0
to 1. -/
structure TexCoords (S : Type) where
  /-- What is shown at the left edge. -/
  left : S
  /-- What is shown at the upper edge. -/
  top : S
  /-- What is shown at the right edge. -/
  right : S
  /-- What is shown at the lower edge. -/
  bottom : S
  deriving BEq, Repr

/-- **A corner of a quad.** -/
structure Vertex (S : Type) where
  /-- Across. -/
  x : S
  /-- Down. -/
  y : S
  /-- Across in the texture. -/
  u : S
  /-- Down in the texture. -/
  v : S
  deriving BEq, Repr

/-- **Four corners**: upper left, lower left, upper right, lower right. -/
structure Quad (S : Type) where
  /-- The upper left corner. -/
  topLeft : Vertex S
  /-- The lower left corner. -/
  bottomLeft : Vertex S
  /-- The upper right corner. -/
  topRight : Vertex S
  /-- The lower right corner. -/
  bottomRight : Vertex S
  deriving BEq, Repr

variable {S D : Type} [Scalar S] [Scalar D] [Precision S D]

namespace TexCoords

/-- The whole texture. -/
def whole : TexCoords S := ⟨0, 0, 1, 1⟩

/-- The part upside down. -/
def flipVertically (t : TexCoords S) : TexCoords S := { t with top := t.bottom, bottom := t.top }

/-- The part left side right. -/
def flipHorizontally (t : TexCoords S) : TexCoords S := { t with left := t.right, right := t.left }

/-- **The part of a padded texture that a picture covers**, with the flips
that count. -/
def ofFormat (format : VideoFormat) (effects : Effects) : TexCoords S :=
  if format.isEmpty || format.drawWidth == 0 then whole
  else
    let covered : TexCoords S :=
      { whole with right := Scalar.ofNat format.width / Scalar.ofNat format.drawWidth }
    let active := effects.active
    let upright := if active.contains .flipVertically then covered.flipVertically else covered
    if active.contains .flipHorizontally then upright.flipHorizontally else upright

end TexCoords

namespace Quad

/-- The quad that covers a rectangle with a part of a texture. -/
def of (r : Rect S) (t : TexCoords S) : Quad S where
  topLeft := ⟨r.x, r.y, t.left, t.top⟩
  bottomLeft := ⟨r.x, r.bottom, t.left, t.bottom⟩
  topRight := ⟨r.right, r.y, t.right, t.top⟩
  bottomRight := ⟨r.right, r.bottom, t.right, t.bottom⟩

/-- The corners in the order in which a device takes them. -/
def vertices (q : Quad S) : List (Vertex S) :=
  [q.topLeft, q.bottomLeft, q.topRight, q.bottomRight]

/-- The rectangle that a quad covers. -/
def rect (q : Quad S) : Rect S :=
  Rect.ofCorners ⟨q.topLeft.x, q.topLeft.y⟩ ⟨q.bottomRight.x, q.bottomRight.y⟩

/-- The part of the texture that a quad shows. -/
def texCoords (q : Quad S) : TexCoords S :=
  ⟨q.topLeft.u, q.topLeft.v, q.bottomRight.u, q.bottomRight.v⟩

/-- **The corners in device coordinates**, where a viewport reaches from -1
to 1 and up. A viewport is at least one unit wide and high. -/
def deviceVertices (q : Quad S) (viewport : Size S) : List (Vertex S) :=
  let w := Scalar.larger viewport.width 1
  let h := Scalar.larger viewport.height 1
  q.vertices.map fun p => { p with x := p.x / w * 2 - 1, y := 1 - p.y / h * 2 }

end Quad

end Projector
