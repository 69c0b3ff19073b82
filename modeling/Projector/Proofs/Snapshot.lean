import Projector.Proofs.Admission
import Projector.Proofs.Fetch

/-!
# What a snapshot reads

Planes come with more bytes than a picture has. A row may be padded to its
stride, and bytes may follow the last row. The picture has the bytes of the
tight rows only, and these are the *visible* ones. Which of them a pixel is
made of is a table with one line for each layout, `PixelType.places`, and
`Sample.ofBytes` says what the bytes stand for.

Two facts carry the module. Every place in the table is visible, which is
arithmetic of halves and multiples, and every visible byte of a frame that
was made can be read, which is what its constructor checked. So a snapshot
never reads beyond a row, and it is a function of the visible bytes.
-/

namespace Projector

/-! ## The bytes of a pixel -/

/-- **Where a byte is.** -/
structure BytePlace where
  /-- The plane. -/
  plane : Nat
  /-- The row of the plane. -/
  row : Nat
  /-- The position in the row. -/
  column : Nat
  deriving DecidableEq, Repr

namespace PixelType

/-- **Which bytes the pixel in column `x` of row `y` is made of**, in the
order in which they are in memory. -/
def places (type : PixelType) (x y : Nat) : List BytePlace :=
  match type with
  | .empty => []
  | .i420 => [⟨0, y, x⟩, ⟨1, y / 2, x / 2⟩, ⟨2, y / 2, x / 2⟩]
  | .nv12 | .nv21 => [⟨0, y, x⟩, ⟨1, y / 2, x / 2 * 2⟩, ⟨1, y / 2, x / 2 * 2 + 1⟩]
  | .yuy2 | .uyvy =>
    [⟨0, y, x / 2 * 4⟩, ⟨0, y, x / 2 * 4 + 1⟩, ⟨0, y, x / 2 * 4 + 2⟩, ⟨0, y, x / 2 * 4 + 3⟩]
  | .rgba | .bgra => [⟨0, y, x * 4⟩, ⟨0, y, x * 4 + 1⟩, ⟨0, y, x * 4 + 2⟩, ⟨0, y, x * 4 + 3⟩]

/-- **Whether a byte is one of the picture**: it is in a tight row. -/
def Visible (type : PixelType) (width height : Nat) (place : BytePlace) : Prop :=
  ∃ size, (type.tightSizes width height)[place.plane]? = some size ∧
    place.row < size.rows ∧ place.column < size.rowBytes

/-- **A pixel is made of visible bytes.** -/
theorem visible_of_mem_places (type : PixelType) {width height x y : Nat} (hx : x < width)
    (hy : y < height) : ∀ place ∈ type.places x y, type.Visible width height place := by
  -- the last column of an odd width has its chroma in the last, half used block
  cases type <;> simp [places, Visible, tightSizes] <;> omega

end PixelType

/-- **What the bytes of a pixel in column `x` stand for.** -/
def Sample.ofBytes (type : PixelType) (x : Nat) (bytes : List UInt8) : Sample :=
  match type, bytes with
  | .i420, [y, u, v] => .yuv y u v
  | .nv12, [y, u, v] => .yuv y u v
  | .nv21, [y, v, u] => .yuv y u v
  | .yuy2, [y₀, u, y₁, v] => .yuv (if x % 2 = 0 then y₀ else y₁) u v
  | .uyvy, [u, y₀, v, y₁] => .yuv (if x % 2 = 0 then y₀ else y₁) u v
  | .rgba, [r, g, b, a] => .rgb ⟨r, g, b, a⟩
  | .bgra, [b, g, r, a] => .rgb ⟨r, g, b, a⟩
  | _, _ => .rgb .transparent

namespace VideoFrame

variable {f : VideoFrame}

/-- The byte at a place; 0 where there is none. -/
def byte (f : VideoFrame) (place : BytePlace) : UInt8 :=
  (f.planes[place.plane]?.bind fun p => p.data[place.row * p.stride + place.column]?).getD 0

/-- The sample of a pixel, by its bytes. -/
def sample (f : VideoFrame) (x y : Nat) : Sample :=
  .ofBytes f.pixelType x ((f.pixelType.places x y).map f.byte)

/-- **A visible byte can be read.** -/
theorem Sound.exists_byteAt (h : f.Sound) (picture : f.isEmpty = false) {place : BytePlace}
    (visible : f.pixelType.Visible f.format.width f.format.height place) :
    ∃ plane, f.planes[place.plane]? = some plane ∧
      plane.byteAt place.row place.column = .ok (f.byte place) := by
  obtain ⟨⟨rowBytes, rows⟩, tight, hy, hx⟩ := visible
  obtain ⟨-, sizes, hs, covers⟩ := h.formed.covers picture
  rw [pixelType, ← PixelType.tightSizes_of_planeSizes hs] at tight
  obtain ⟨wide, high⟩ := covers _ _ _ tight
  obtain ⟨size, hsize⟩ : ∃ size, f.format.planes[place.plane]? = some size := by
    cases e : f.format.planes[place.plane]? with
    | some size => exact ⟨size, rfl⟩
    | none =>
      -- a plane that the format does not have has no rows
      unfold VideoFormat.byteHeight at high
      rw [e] at high
      exact absurd hy (high ▸ Nat.not_lt_zero _)
  obtain ⟨plane, hplane⟩ : ∃ plane, f.planes[place.plane]? = some plane := by
    have there := (List.getElem?_eq_some_iff.1 hsize).1
    rw [← h.length] at there
    exact ⟨_, List.getElem?_eq_getElem there⟩
  have fits := h.fits _ _ _ hsize hplane
  rw [VideoFormat.byteWidth_eq hsize] at wide
  rw [VideoFormat.byteHeight_eq hsize] at high
  dsimp only at hx hy
  -- a stride is at least its word, which is at least the tight row
  have column : place.column < plane.stride := by
    have := Nat.mod_le plane.stride UInt32.size
    have := fits.stride
    omega
  have row : place.row < size.rows := high ▸ hy
  have position : place.row * plane.stride + place.column < plane.data.size :=
    Nat.lt_of_lt_of_le (Raster.position_lt column row) fits.rows
  have value : plane.data[place.row * plane.stride + place.column]? = some (f.byte place) := by
    unfold byte
    rw [hplane, Option.bind_some, Array.getElem?_eq_getElem position]
    rfl
  exact ⟨plane, hplane, FramePlane.byteAt_eq_ok fits.rows fits.counted column row value⟩

/-- **A pixel is sampled from its bytes.** -/
theorem sampleAt_eq_ok {x y : Nat}
    (read : ∀ place ∈ f.pixelType.places x y, ∃ plane, f.planes[place.plane]? = some plane ∧
      plane.byteAt place.row place.column = .ok (f.byte place)) :
    f.sampleAt x y = .ok (f.sample x y) := by
  unfold sampleAt sample plane
  cases type : f.pixelType <;> simp only [type, PixelType.places, List.forall_mem_cons] at read
  case empty => rfl
  case i420 =>
    obtain ⟨⟨p₀, h₀, b₀⟩, ⟨p₁, h₁, b₁⟩, ⟨p₂, h₂, b₂⟩, -⟩ := read
    simp only [h₀, h₁, h₂, bind, Except.bind, b₀, b₁, b₂]
    rfl
  case nv12 | nv21 =>
    obtain ⟨⟨p₀, h₀, b₀⟩, ⟨p₁, h₁, b₁⟩, ⟨p₂, h₂, b₂⟩, -⟩ := read
    cases h₁.symm.trans h₂
    simp only [h₀, h₁, bind, Except.bind, b₀, b₁, b₂]
    rfl
  case yuy2 | uyvy | rgba | bgra =>
    obtain ⟨⟨p₀, h₀, b₀⟩, ⟨p₁, h₁, b₁⟩, ⟨p₂, h₂, b₂⟩, ⟨p₃, h₃, b₃⟩, -⟩ := read
    cases h₀.symm.trans h₁
    cases h₀.symm.trans h₂
    cases h₀.symm.trans h₃
    simp only [h₀, FramePlane.quadAt, bind, Except.bind, b₀, b₁, b₂, b₃]
    rfl

/-- **A snapshot is a picture of the samples.** -/
theorem Sound.toImageWith_eq (h : f.Sound) (picture : f.isEmpty = false) (m : YuvToRgb) :
    f.toImageWith m = .ok (some (.ofFn f.format.width f.format.height fun x y =>
      (f.sample x y).pixel m)) := by
  have built : Raster.build f.format.width f.format.height
      (fun x y => Sample.pixel m <$> f.sampleAt x y) =
        .ok (.ofFn f.format.width f.format.height fun x y => (f.sample x y).pixel m) := by
    refine Raster.build_eq_ok fun x y hx hy => ?_
    have visible := f.pixelType.visible_of_mem_places hx hy
    rw [sampleAt_eq_ok fun place mem => h.exists_byteAt picture (visible place mem)]
    rfl
  unfold toImageWith
  rw [if_neg (by rw [picture]; decide), built]
  rfl

/-! ## Padding -/

/-- **Whether two frames have the same visible bytes.** -/
structure VisiblyAlike (f g : VideoFrame) : Prop where
  /-- They are of one type. -/
  pixelType : f.pixelType = g.pixelType
  /-- They are as wide. -/
  width : f.format.width = g.format.width
  /-- They are as high. -/
  height : f.format.height = g.format.height
  /-- The bytes of tight rows are the same. -/
  byte (place : BytePlace) :
    f.pixelType.Visible f.format.width f.format.height place → f.byte place = g.byte place

/-- Samples are the same where visible bytes are. -/
theorem VisiblyAlike.sample_eq {g : VideoFrame} (h : f.VisiblyAlike g) {x y : Nat}
    (hx : x < f.format.width) (hy : y < f.format.height) : f.sample x y = g.sample x y := by
  unfold sample
  rw [← h.pixelType]
  congr 1
  refine List.map_congr_left fun place mem => ?_
  exact h.byte place (f.pixelType.visible_of_mem_places hx hy place mem)

/-- **A snapshot is there, and nothing but visible bytes is in it.** Every
frame with a picture, whoever made it, has a snapshot of the size of the
picture, whatever matrix it is taken with: no byte is looked for where none
is. All frames with the same visible bytes, padded or not, and whatever
follows their last rows, have the same one. -/
theorem snapshot_of_visible (made : f.Made) (picture : f.isEmpty = false) (m : YuvToRgb) :
    (∃ image, f.toImageWith m = .ok (some image) ∧ image.width = f.format.width ∧
      image.height = f.format.height) ∧
    ∀ g : VideoFrame, g.Made → g.isEmpty = false → f.VisiblyAlike g →
      f.toImageWith m = g.toImageWith m := by
  have shown := made.sound.toImageWith_eq picture m
  refine ⟨⟨_, shown, rfl, rfl⟩, fun g made' picture' alike => ?_⟩
  rw [shown, made'.sound.toImageWith_eq picture' m, ← alike.width, ← alike.height]
  -- the cells are asked for within the picture only
  refine congrArg (fun image => Except.ok (some image)) (Raster.ofFn_congr fun x y hx hy => ?_)
  rw [alike.sample_eq hx hy]

/-- Three columns with tight rows, and the same with padding and more bytes
behind it. -/
theorem snapshot_of_visible_padded :
    let f : VideoFrame := ⟨⟨.yuy2, 3, 1, [⟨8, 1⟩]⟩, [⟨#[10, 20, 30, 40, 50, 60, 70, 80], 8⟩]⟩
    let g : VideoFrame :=
      ⟨⟨.yuy2, 3, 1, [⟨9, 1⟩]⟩, [⟨#[10, 20, 30, 40, 50, 60, 70, 80, 7, 90], 9⟩]⟩
    f.Made ∧ f.isEmpty = false ∧ g.Made ∧ g.isEmpty = false ∧ f.VisiblyAlike g ∧
      f.toImageWith .standard = g.toImageWith .standard := by
  intro f g
  have made : f.Made := @Made.ofPlanes .yuy2 3 1 f.planes f rfl
  have made' : g.Made := @Made.ofPlanes .yuy2 3 1 g.planes g rfl
  have alike : f.VisiblyAlike g := by
    refine ⟨rfl, rfl, rfl, ?_⟩
    rintro ⟨i, y, x⟩ ⟨size, tight, hy, hx⟩
    have sizes : PixelType.tightSizes .yuy2 3 1 = [⟨8, 1⟩] := by decide
    replace tight : [⟨8, 1⟩][i]? = some size := sizes ▸ tight
    cases i with
    | succ i => cases tight
    | zero =>
      cases tight
      obtain rfl : y = 0 := Nat.lt_one_iff.1 hy
      have byte : ∀ x < 8, f.byte ⟨0, 0, x⟩ = g.byte ⟨0, 0, x⟩ := by decide
      exact byte x hx
  exact ⟨made, rfl, made', rfl, alike,
    (snapshot_of_visible made rfl .standard).2 g made' rfl alike⟩

end VideoFrame

end Projector
