import Projector.Geometry.Rect

/-!
# Letterboxes

A picture shown in an item rarely has the item's aspect. Its box is fitted
into the item, and what is left of the item is covered by bars.

`frameRect` places a picture: the box of the wanted crop is the largest
that fits into an area, and the picture is the smallest of its own aspect
that covers this box, so what the crop cuts off lies outside. A
`Letterbox` keeps the visible part of a picture, and `Letterbox.bars` are
the parts of the item around it: two as wide as the item, above and below,
and two between them.
-/

namespace Projector

variable {S D : Type} [Scalar S] [Scalar D] [Precision S D]

/-- The size of aspect `ratio` and height 1. -/
def Size.ofAspect (ratio : D) : Size S := ⟨Precision.narrow ratio, 1⟩

/-- One half. -/
def half : S := 1 / 2

/-- **A picture placed in an area**: centred, of the aspect `target`,
covering the largest box of aspect `crop` that fits into the area. -/
def frameRect (area : Rect S) (target crop : D) : Rect S :=
  let letter := (Size.ofAspect crop : Size S).scaledToFit area.size
  let frame := (Size.ofAspect target : Size S).scaledToCover letter
  ⟨area.x + (area.width - frame.width) * half, area.y + (area.height - frame.height) * half,
    frame.width, frame.height⟩

/-- **The visible part of a picture in an item.** -/
structure Letterbox (S : Type) where
  /-- The item. -/
  bounds : Rect S
  /-- The visible part. -/
  screen : Rect S
  deriving Repr

namespace Letterbox

/-- Nothing in nothing. -/
def zero : Letterbox S := ⟨Rect.zero, Rect.zero⟩

instance : Inhabited (Letterbox S) := ⟨zero⟩

/-- The letterbox of a picture in an item: what they have in common is
visible. -/
def of (bounds video : Rect S) : Letterbox S :=
  ⟨bounds, (bounds.intersection video).getD Rect.zero⟩

/-- **Show a picture in an item.** The answer says whether the visible
part has changed. -/
def set (l : Letterbox S) (bounds video : Rect S) : Bool × Letterbox S :=
  let next := of bounds video
  (next.screen != l.screen, next)

/-- The four parts of the item around the visible part: above, below, left
and right. Some may be empty. -/
def margins (l : Letterbox S) : List (Rect S) :=
  let b := l.bounds
  let s := l.screen
  [⟨b.x, b.y, b.width, s.y - b.y⟩,
   ⟨b.x, s.bottom, b.width, b.bottom - s.bottom⟩,
   ⟨b.x, s.y, s.x - b.x, s.height⟩,
   ⟨s.right, s.y, b.right - s.right, s.height⟩]

/-- **The bars**: the parts of the item that the picture leaves. Where
nothing is visible the whole item is one bar. -/
def bars (l : Letterbox S) : List (Rect S) :=
  if l.screen.isEmpty then
    if l.bounds.isEmpty then [] else [l.bounds]
  else l.margins.filter fun r => !r.isEmpty

/-- Every bar has points. -/
theorem not_isEmpty_of_mem_bars {l : Letterbox S} {r : Rect S} (h : r ∈ l.bars) :
    r.isEmpty = false := by
  unfold bars at h
  split at h
  · split at h
    · simp at h
    · simp only [List.mem_singleton] at h
      simp_all
  · simpa using (List.mem_filter.1 h).2

end Letterbox

end Projector
