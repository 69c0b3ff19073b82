import Projector.Geometry.Alignment
import Projector.Geometry.Letterbox
import Projector.Geometry.Quad

/-!
# The geometry of the video surface

A resolver keeps what the place of the picture depends on: the size of the
item, the format, the wanted aspect and crop, the aspect that the stream
reports, the alignment and an offset in percent. From these it works out
the picture's rectangle, which is cached, and for each drawing the quad
and the part of it that is visible.

A wanted ratio is one number with three meanings. A positive one is the
ratio itself, zero asks for the ratio of the item, and a negative one asks
for what the stream says. Two ratios that differ by less than
`ratioTolerance` are the same wish.
-/

namespace Projector

/-- A displacement in whole percent of the visible box. -/
abbrev Offset := Point Int

/-- **The state of the video surface.** -/
structure Resolver (S D : Type) where
  /-- The size of the item. -/
  item : Size S
  /-- The format of the picture. -/
  format : VideoFormat
  /-- The wanted aspect of the picture. -/
  aspect : D
  /-- The wanted aspect of the visible box. -/
  crop : D
  /-- The aspect that the stream reports; 0 if it reports none. -/
  displayAspect : D
  /-- Where the visible box is anchored. -/
  alignment : Alignment
  /-- By how much it is moved. -/
  offset : Offset
  /-- The picture's rectangle as last worked out. -/
  cached : Rect S
  /-- The visible part as last worked out. -/
  letterbox : Letterbox S

/-- **What one drawing needs.** -/
structure VertexUpdate (S : Type) where
  /-- Where the picture goes. -/
  vertex : Rect S
  /-- Which part of the texture it shows. -/
  tex : TexCoords S
  /-- The visible part of the item. -/
  screen : Rect S
  /-- Whether the visible part has changed. -/
  screenChanged : Bool

section

variable {S D : Type} [Scalar S] [Scalar D] [Precision S D]

/-- Ratios closer than this are the same wish. -/
def ratioTolerance : D := 1 / 100000

/-- From where on a reported aspect counts. -/
def leastDisplayAspect : D := 1 / 100

/-- Whether two numbers are closer than the tolerance. -/
def sameRatio (a b : D) : Bool :=
  let difference := a - b
  decide (difference < ratioTolerance) && decide (0 - ratioTolerance < difference)

namespace Resolver

/-- The state before anything is known. -/
def initial : Resolver S D where
  item := ⟨0, 0⟩
  format := .empty
  aspect := 0 - 1
  crop := 0 - 1
  displayAspect := 0
  alignment := .center
  offset := ⟨0, 0⟩
  cached := Rect.zero
  letterbox := Letterbox.zero

/-- The aspect of the item. -/
def itemAspect (r : Resolver S D) : D := r.item.aspect

/-- Whether the stream reports an aspect that counts. -/
def reportsAspect (r : Resolver S D) : Bool := leastDisplayAspect < r.displayAspect

/-- **What a wanted ratio resolves to**, with `otherwise` for a wish that
leaves it open. -/
def resolve (r : Resolver S D) (wanted otherwise : D) : D :=
  if 0 < wanted then wanted else if wanted == 0 then r.itemAspect else otherwise

/-- **The aspect that the picture is shown with.** -/
def targetAspect (r : Resolver S D) : D :=
  r.resolve r.aspect (if r.reportsAspect then r.displayAspect else r.format.pixelAspect)

/-- **The aspect of the visible box.** -/
def targetCrop (r : Resolver S D) (otherwise : D) : D := r.resolve r.crop otherwise

/-- The picture's rectangle in an area; without a picture, the area. -/
def frameRectIn (r : Resolver S D) (area : Rect S) : Rect S :=
  if r.format.isEmpty then area
  else
    let aspect := r.targetAspect
    frameRect area aspect (r.targetCrop aspect)

/-- The item as a rectangle. -/
def itemRect (r : Resolver S D) : Rect S := ⟨0, 0, r.item.width, r.item.height⟩

/-- **Work out the picture's rectangle.** The answer says whether it has
changed. -/
def update (r : Resolver S D) : Bool × Resolver S D :=
  let rect := r.frameRectIn r.itemRect
  if rect != r.cached then (true, { r with cached := rect }) else (false, r)

/-- The visible box: the largest of the wanted aspect in the item. -/
def letterSize (r : Resolver S D) : Size S :=
  (Size.ofAspect (r.targetCrop r.targetAspect) : Size S).scaledToFit r.item

/-- **How far one axis is moved**: `percent` of the length of the box, and
from the middle to an edge if the box is anchored there. -/
def displacement (percent : Int) (length toMiddle : S) (atStart atEnd : Bool) : S :=
  let moved := Scalar.ofInt percent * length / 100
  if atStart then moved - toMiddle else if atEnd then moved + toMiddle else moved

/-- **The quad for the next drawing.** -/
def updateVertex (r : Resolver S D) (effects : Effects) : VertexUpdate S × Resolver S D :=
  let letter := r.letterSize
  let middle : Point S :=
    ⟨(r.item.width - letter.width) * half, (r.item.height - letter.height) * half⟩
  let moved : Point S :=
    ⟨displacement r.offset.x letter.width middle.x (r.alignment.contains .left)
        (r.alignment.contains .right),
      displacement r.offset.y letter.height middle.y (r.alignment.contains .top)
        (r.alignment.contains .bottom)⟩
  let (changed, letterbox) :=
    r.letterbox.set r.itemRect
      (Rect.ofPosSize ⟨middle.x + moved.x, middle.y + moved.y⟩ letter)
  ({ vertex := r.cached.translated moved
     tex := TexCoords.ofFormat r.format effects
     screen := letterbox.screen
     screenChanged := changed },
    { r with letterbox })

/-- The visible part as last worked out. -/
def screen (r : Resolver S D) : Rect S := r.letterbox.screen

/-! ## Setters

Each one says whether the state has changed. -/

/-- Take a format. -/
def setFormat (r : Resolver S D) (format : VideoFormat) : Bool × Resolver S D :=
  (!r.format.same format, { r with format })

/-- Take the size of the item. -/
def setItem (r : Resolver S D) (item : Size S) : Bool × Resolver S D :=
  (r.item != item, { r with item })

/-- Take a wanted aspect, unless it is the same wish. -/
def setAspect (r : Resolver S D) (ratio : D) : Bool × Resolver S D :=
  if sameRatio r.aspect ratio then (false, r) else (true, { r with aspect := ratio })

/-- Take a wanted crop, unless it is the same wish. -/
def setCrop (r : Resolver S D) (ratio : D) : Bool × Resolver S D :=
  if sameRatio r.crop ratio then (false, r) else (true, { r with crop := ratio })

/-- Take the aspect that the stream reports. -/
def setDisplayAspect (r : Resolver S D) (ratio : D) : Resolver S D :=
  { r with displayAspect := ratio }

/-- Take an alignment. -/
def setAlignment (r : Resolver S D) (alignment : Alignment) : Bool × Resolver S D :=
  (r.alignment != alignment, { r with alignment })

/-- Take an offset. -/
def setOffset (r : Resolver S D) (offset : Offset) : Bool × Resolver S D :=
  (r.offset != offset, { r with offset })

end Resolver

end

/-! ## Whole numbers of pixels -/

namespace Resolver

/-- The size wished for while there is no picture. -/
def emptySizeHint : Nat × Nat := (400, 300)

/-- **The size that would show the picture in full**, in whole pixels. -/
def sizeHint (r : Resolver Float32 Float) : Nat × Nat :=
  if r.format.isEmpty then emptySizeHint
  else
    let aspect := r.targetAspect
    let picture : Size Float32 := ⟨Scalar.ofNat r.format.width, Scalar.ofNat r.format.height⟩
    let shown := (Size.ofAspect aspect : Size Float32).scaledToCover picture
    let visible := (Size.ofAspect (r.targetCrop aspect) : Size Float32).scaledToFit shown
    (visible.width.round.toUInt32.toNat, visible.height.round.toUInt32.toNat)

/-- The width of the picture with the aspect that the stream reports. -/
def outputWidth (r : Resolver Float32 Float) : Nat :=
  if r.reportsAspect then
    (r.displayAspect * Float.ofNat r.format.height + 0.5).toUInt32.toNat
  else r.format.width

end Resolver

end Projector
