import Mathlib.Algebra.BigOperators.Ring.Finset
import Mathlib.Algebra.Order.BigOperators.Group.List
import Mathlib.Algebra.Order.Round
import Mathlib.Data.Rat.Floor
import Projector.Proofs.Snapshot

/-!
# There and back again

`VideoFrame.ofRgba` makes a frame from a picture, and a snapshot of the
frame makes a picture again. The types that store pixels give the picture
back. The others keep luma for every pixel and chroma for a block of
pixels, so the snapshot has every pixel's own luma with the chroma of its
block, which is the mean over the block, a half rounded up. A block that
reaches over an edge has the column or the row at the edge twice.

Writer and reader have their offsets written out apart from each other.
They meet in `byte_planeOf`, which says that a plane made from a function
has the function's values at its places; what is left is, for each type,
that the reader's places are those where the writer put the component it
asks for. That is `sample_made`. How components are interleaved does not
matter any more after it, and so types with the same blocks show the same.
-/

namespace Projector

/-! ## Means -/

/-- **A quotient of numbers, a half rounded up.** -/
theorem round_natCast_div (s n : Nat) (h : 0 < n) :
    round ((s : ℚ) / n) = ((s + n / 2) / n : ℕ) := by
  have half : (s : ℚ) / n + 1 / 2 = ((2 * s + n : ℕ) : ℚ) / ((2 * n : ℕ) : ℚ) := by
    have : (n : ℚ) ≠ 0 := by positivity
    push_cast
    field_simp
  rw [round_eq, half, Rat.floor_natCast_div_natCast, ← Int.natCast_ediv,
    ← Nat.div_div_eq_div_mul]
  congr 2
  omega

namespace Synthetic

/-- **The average is the mean, a half rounded up**: it is a byte, so nothing
is cut off. -/
theorem toNat_average {bs : List UInt8} (h : bs ≠ []) :
    ((average bs).toNat : ℤ) =
      round (((bs.map UInt8.toNat).sum : ℚ) / bs.length) := by
  have len : 0 < bs.length := List.length_pos_iff.2 h
  have sum : bs.foldl (fun n b => n + b.toNat) 0 = (bs.map UInt8.toNat).sum := by
    rw [← List.foldl_map, List.sum_eq_foldl]
  have bound : (bs.map UInt8.toNat).sum ≤ bs.length * 255 := by
    have each : ∀ n ∈ bs.map UInt8.toNat, n ≤ 255 := by
      intro n mem
      obtain ⟨b, -, rfl⟩ := List.mem_map.1 mem
      exact Nat.le_of_lt_succ b.toNat_lt
    have := List.sum_le_card_nsmul _ 255 each
    rwa [List.length_map, nsmul_eq_mul] at this
  have byte : ((bs.map UInt8.toNat).sum + bs.length / 2) / bs.length < 256 := by
    rw [Nat.div_lt_iff_lt_mul len]
    omega
  rw [round_natCast_div _ _ len, average, sum]
  exact congrArg Nat.cast (UInt8.toNat_ofNat_of_lt' byte)

end Synthetic

/-! ## Blocks of a source -/

namespace Synthetic

section Source

variable (e : Encoding) (width height : Nat) (rgba : Bytes)

/-- **The pixel in column `x` of row `y` of a run of bytes**; past the right
or the lower edge, the one in the last column or row. -/
def source (x y : Nat) : Pixel :=
  Image.pixelAt rgba ((min y (height - 1) * width + min x (width - 1)) * 4)

/-- Its sample. -/
def sourceSample (x y : Nat) : UInt8 × UInt8 × UInt8 :=
  let p := source width height rgba x y
  rgbToYuv e.space e.range p.red p.green p.blue

/-- **The mean of a component over the block of a pixel**, which is two
columns wide and `rows` rows high. -/
def blockMean (pick : UInt8 × UInt8 × UInt8 → UInt8) (rows x y : Nat) : ℚ :=
  (∑ dy ∈ Finset.range rows, ∑ dx ∈ Finset.range 2,
    ((pick (sourceSample e width height rgba (x / 2 * 2 + dx)
      (y / rows * rows + dy))).toNat : ℚ)) / (2 * rows)

variable {e width height rgba}

theorem nearest_ofBytes (hw : 0 < width) (hh : 0 < height) (x y : Nat) :
    (Image.ofBytes width height rgba).nearest x y .transparent =
      source width height rgba x y := by
  have column : min x (width - 1) < width := by omega
  have row : min y (height - 1) < height := by omega
  change ((Raster.ofFn width height _).get? (min x (width - 1)) (min y (height - 1))).getD _ = _
  rw [Raster.get?_ofFn, if_pos ⟨column, row⟩]
  rfl

theorem sampleAt_ofBytes (hw : 0 < width) (hh : 0 < height) (x y : Nat) :
    sampleAt e (Image.ofBytes width height rgba) x y = sourceSample e width height rgba x y := by
  unfold sampleAt sourceSample
  rw [nearest_ofBytes hw hh]

/-- Pairs of bytes, added row by row. -/
theorem sum_pairs (g : Nat → Nat → UInt8) (rows : Nat) :
    (((List.range rows).flatMap fun dy => [g 0 dy, g 1 dy]).map UInt8.toNat).sum =
      ∑ dy ∈ Finset.range rows, ∑ dx ∈ Finset.range 2, (g dx dy).toNat := by
  induction rows with
  | zero => rfl
  | succ rows ih =>
    rw [List.range_succ, List.flatMap_append, List.map_append, List.sum_append, ih,
      Finset.sum_range_succ]
    simp [Finset.sum_range_succ]

/-- **The chroma of a block is its mean**, a half rounded up. -/
theorem chromaAt_eq_round (hw : 0 < width) (hh : 0 < height) {rows : Nat} (hrows : 0 < rows)
    (x y : Nat) :
    let chroma := chromaAt e (Image.ofBytes width height rgba) rows (x / 2 * 2)
      (y / rows * rows)
    (chroma.1.toNat : ℤ) = round (blockMean e width height rgba (fun s => s.2.1) rows x y) ∧
      (chroma.2.toNat : ℤ) = round (blockMean e width height rgba (fun s => s.2.2) rows x y) := by
  have mean (pick : UInt8 × UInt8 × UInt8 → UInt8) :
      ((average (((List.range rows).flatMap fun dy =>
        [sourceSample e width height rgba (x / 2 * 2) (y / rows * rows + dy),
          sourceSample e width height rgba (x / 2 * 2 + 1) (y / rows * rows + dy)]).map
            pick)).toNat : ℤ) = round (blockMean e width height rgba pick rows x y) := by
    let g (dx dy : Nat) : UInt8 :=
      pick (sourceSample e width height rgba (x / 2 * 2 + dx) (y / rows * rows + dy))
    rw [List.map_flatMap]
    change ((average ((List.range rows).flatMap fun dy => [g 0 dy, g 1 dy])).toNat : ℤ) = _
    have length : ((List.range rows).flatMap fun dy => [g 0 dy, g 1 dy]).length = rows * 2 := by
      simp
    rw [toNat_average (List.ne_nil_of_length_pos (by omega)), length, sum_pairs, blockMean]
    push_cast
    rw [mul_comm (rows : ℚ)]
  unfold chromaAt
  simp only [sampleAt_ofBytes hw hh]
  exact ⟨mean _, mean _⟩

end Source

end Synthetic

/-! ## Planes -/

/-- **An element of lists of one length**, put one after the other. -/
theorem getElem?_flatMap_of_length {α β : Type} {l : List α} {g : α → List β} {n : Nat}
    (len : ∀ a, (g a).length = n) {i k : Nat} (hk : k < n) :
    (l.flatMap g)[i * n + k]? = l[i]?.bind fun a => (g a)[k]? := by
  induction l generalizing i with
  | nil => rfl
  | cons a l ih =>
    rw [List.flatMap_cons, List.getElem?_append, len]
    cases i with
    | zero =>
      rw [if_pos (by omega), Nat.zero_mul, Nat.zero_add]
      rfl
    | succ i =>
      have rest : (i + 1) * n + k = i * n + k + n := by
        rw [Nat.succ_mul]
        omega
      rw [if_neg (by omega), rest, Nat.add_sub_cancel, ih]
      rfl

/-- How many rows of a picture share their chroma. -/
def PixelType.blockRows : PixelType → Nat
  | .i420 | .nv12 | .nv21 => 2
  | _ => 1

namespace Synthetic

variable (e : Encoding) (image : Image)

/-- **What a frame of a picture keeps of a pixel**: its own luma with the
chroma of its block, or the pixel. -/
def kept (type : PixelType) (x y : Nat) : Sample :=
  if type.isYuv then
    let chroma := chromaAt e image type.blockRows (x / 2 * 2) (y / type.blockRows * type.blockRows)
    .yuv (lumaAt e image x y) chroma.1 chroma.2
  else .rgb (image.nearest x y .transparent)

theorem getElem?_planeOf {rowBytes rows x y : Nat} (g : Nat → Nat → UInt8) (hx : x < rowBytes)
    (hy : y < rows) : (planeOf rowBytes rows g).data[y * rowBytes + x]? = some (g x y) := by
  have cell := Raster.get?_ofFn rowBytes rows g x y
  rwa [Raster.get?, if_pos ⟨hx, hy⟩, if_pos ⟨hx, hy⟩] at cell

theorem getElem?_pixelPlane {order : Pixel → Bytes} (four : ∀ p, (order p).size = 4)
    {x y k : Nat} {pixel : Pixel} (hp : image.get? x y = some pixel) (hk : k < 4) :
    (pixelPlane image order).data[y * (image.width * 4) + (x * 4 + k)]? = (order pixel)[k]? := by
  have inside : x < image.width ∧ y < image.height := by
    by_contra outside
    rw [Raster.get?_eq_none outside] at hp
    cases hp
  rw [Raster.get?, if_pos inside] at hp
  have position : y * (image.width * 4) + (x * 4 + k) = (y * image.width + x) * 4 + k := by
    rw [Nat.add_mul, Nat.mul_assoc, Nat.add_assoc]
  rw [position, pixelPlane, ← Array.getElem?_toList, Array.toList_flatMap,
    getElem?_flatMap_of_length (fun p => (Array.length_toList).trans (four p)) hk,
    Array.getElem?_toList, hp]
  exact Array.getElem?_toList

variable {e image} {frame : VideoFrame}

/-- A byte of a plane made from a function. -/
theorem byte_planeOf {i rowBytes rows x y : Nat} {g : Nat → Nat → UInt8}
    (hp : frame.planes[i]? = some (planeOf rowBytes rows g)) (hx : x < rowBytes) (hy : y < rows) :
    frame.byte ⟨i, y, x⟩ = g x y := by
  unfold VideoFrame.byte
  rw [hp, Option.bind_some]
  exact congrArg (Option.getD · 0) (getElem?_planeOf g hx hy)

/-- A byte of a plane of pixels. -/
theorem byte_pixelPlane {order : Pixel → Bytes} (four : ∀ p, (order p).size = 4) {x y k : Nat}
    {pixel : Pixel} (hp : frame.planes[0]? = some (pixelPlane image order))
    (hpixel : image.get? x y = some pixel) (hk : k < 4) :
    frame.byte ⟨0, y, x * 4 + k⟩ = (order pixel)[k]?.getD 0 := by
  unfold VideoFrame.byte
  rw [hp, Option.bind_some]
  exact congrArg (Option.getD · 0) (getElem?_pixelPlane image four hpixel hk)

/-- **A byte of a packed plane** is one of the four of its block. -/
theorem byte_packedPlane {lumaFirst : Bool} {x y k : Nat}
    (hp : frame.planes[0]? = some (packedPlane e image lumaFirst)) (hx : x < image.width)
    (hy : y < image.height) (hk : k < 4) :
    frame.byte ⟨0, y, x / 2 * 4 + k⟩ =
      if decide (k % 2 = 0) == lumaFirst then lumaAt e image (x / 2 * 2 + k / 2) y
      else
        let pair := chromaAt e image 1 (x / 2 * 2) y
        if k / 2 = 0 then pair.1 else pair.2 := by
  have block : (x / 2 * 4 + k) / 4 = x / 2 := by omega
  have place : (x / 2 * 4 + k) % 4 = k := by omega
  rw [byte_planeOf hp (by omega) hy, block, place]

/-- **A byte of a plane of pairs** is one of the two of its block. -/
theorem byte_pairPlane {first second : UInt8 × UInt8 → UInt8} {x y k : Nat}
    (hp : frame.planes[1]? = some (pairPlane e image first second)) (hx : x < image.width)
    (hy : y < image.height) (hk : k < 2) :
    frame.byte ⟨1, y / 2, x / 2 * 2 + k⟩ =
      let pair := chromaAt e image 2 (x / 2 * 2) (y / 2 * 2)
      if k = 0 then first pair else second pair := by
  have block : (x / 2 * 2 + k) / 2 = x / 2 := by omega
  have place : (x / 2 * 2 + k) % 2 = k := by omega
  rw [byte_planeOf hp (by omega) (by omega), block, place]

/-- Of the two columns of a block, that of the pixel has its luma. -/
theorem lumaAt_block (x y : Nat) :
    (if x % 2 = 0 then lumaAt e image (x / 2 * 2) y else lumaAt e image (x / 2 * 2 + 1) y) =
      lumaAt e image x y := by
  split
  · rw [show x / 2 * 2 = x by omega]
  · rw [show x / 2 * 2 + 1 = x by omega]

/-- Inside a picture the nearest pixel is the one that is there. -/
theorem get?_eq_nearest {x y : Nat} (hx : x < image.width) (hy : y < image.height) :
    image.get? x y = some (image.nearest x y .transparent) := by
  unfold Raster.nearest Raster.getD
  rw [Nat.min_eq_left (by omega), Nat.min_eq_left (by omega)]
  obtain ⟨pixel, hpixel⟩ := Option.isSome_iff_exists.1 (Raster.get?_isSome hx hy)
  rw [hpixel]
  rfl

/-- **A frame of a picture has the samples that are kept.** -/
theorem sample_made {type : PixelType} (made : planes? e image type = some frame.planes)
    (htype : frame.pixelType = type) {x y : Nat} (hx : x < image.width) (hy : y < image.height) :
    frame.sample x y = kept e image type x y := by
  unfold VideoFrame.sample
  rw [htype]
  cases type <;> simp only [planes?, Option.some.injEq, reduceCtorEq] at made <;>
    simp only [PixelType.places, List.map]
  case i420 =>
    have luma : frame.planes[0]? = some (lumaPlane e image) :=
      (congrArg (·[0]?) made).symm
    have blue : frame.planes[1]? = some (chromaPlane e image Prod.fst) :=
      (congrArg (·[1]?) made).symm
    have red : frame.planes[2]? = some (chromaPlane e image Prod.snd) :=
      (congrArg (·[2]?) made).symm
    rw [byte_planeOf luma hx hy, byte_planeOf blue (by omega) (by omega),
      byte_planeOf red (by omega) (by omega)]
    rfl
  case nv12 | nv21 =>
    -- the types differ in which difference comes first, in the plane and in the reading
    have luma : frame.planes[0]? = some (lumaPlane e image) :=
      (congrArg (·[0]?) made).symm
    have chroma : frame.planes[1]? = some (pairPlane e image _ _) :=
      (congrArg (·[1]?) made).symm
    have first := byte_pairPlane chroma hx hy (show 0 < 2 by omega)
    rw [Nat.add_zero] at first
    rw [byte_planeOf luma hx hy, first, byte_pairPlane chroma hx hy (show 1 < 2 by omega)]
    rfl
  case yuy2 | uyvy =>
    have packed : frame.planes[0]? = some (packedPlane e image _) :=
      (congrArg (·[0]?) made).symm
    have byte (k : Nat) (hk : k < 4) := byte_packedPlane packed hx hy hk
    have first := byte 0 (by omega)
    rw [Nat.add_zero] at first
    have row : y / 1 * 1 = y := by rw [Nat.div_one, Nat.mul_one]
    change _ = Sample.yuv (lumaAt e image x y) (chromaAt e image 1 (x / 2 * 2) (y / 1 * 1)).1
      (chromaAt e image 1 (x / 2 * 2) (y / 1 * 1)).2
    rw [first, byte 1 (by omega), byte 2 (by omega), byte 3 (by omega), row, ← lumaAt_block x y]
    rfl
  case rgba | bgra =>
    have pixels : frame.planes[0]? = some (pixelPlane image _) :=
      (congrArg (·[0]?) made).symm
    have byte (k : Nat) (hk : k < 4) :=
      byte_pixelPlane (fun _ => rfl) pixels (get?_eq_nearest hx hy) hk
    have first := byte 0 (by omega)
    rw [Nat.add_zero] at first
    rw [first, byte 1 (by omega), byte 2 (by omega), byte 3 (by omega)]
    rfl

/-! ## The frame -/

theorem size_pixelPlane {order : Pixel → Bytes} (four : ∀ p, (order p).size = 4) (image : Image) :
    (pixelPlane image order).data.size = image.width * 4 * image.height := by
  have each : image.cells.toList.map (fun p => (order p).size) =
      image.cells.toList.map fun _ => 4 := List.map_congr_left fun p _ => four p
  rw [pixelPlane, Array.size_flatMap, ← Array.sum_toList, Array.toList_map, each,
    List.map_const', List.sum_replicate_nat, Array.length_toList, image.size_cells,
    Nat.mul_right_comm]

/-- **The planes of a picture have tight rows**, and as many bytes as they
need. -/
theorem sized_planes {type : PixelType} {planes : List FramePlane}
    (made : planes? e image type = some planes) :
    planes.length = type.layout.planeCount ∧
      ∀ pair ∈ VideoFrame.sized type image.width image.height planes,
        pair.2.stride = pair.1.rowBytes ∧
          pair.2.data.size = pair.1.rowBytes * pair.1.rows := by
  cases type <;> cases made <;> refine ⟨rfl, ?_⟩ <;>
    simp only [VideoFrame.sized, PixelType.tightSizes, List.zip_cons_cons, List.zip_nil_right,
      List.forall_mem_cons]
  case i420 | nv12 | nv21 | yuy2 | uyvy =>
    simp [lumaPlane, chromaPlane, pairPlane, packedPlane, planeOf]
  case rgba | bgra =>
    exact ⟨⟨rfl, size_pixelPlane (fun _ => rfl) image⟩, List.forall_mem_nil _⟩

end Synthetic

/-- A tight plane has at most four bytes a pixel. -/
theorem PixelType.tightSizes_le (type : PixelType) {width height : Nat} (hw : 0 < width)
    (hh : 0 < height) : ∀ size ∈ type.tightSizes width height,
      size.rowBytes ≤ 4 * width ∧ size.rows ≤ height := by
  cases type <;> simp [tightSizes] <;> omega

namespace VideoFrame

open Synthetic

variable {type : PixelType} {width height : Nat}

/-- **A picture that is not too wide makes a frame**, which has its planes. -/
theorem exists_ofRgba (supported : type ≠ .empty) (hw : 0 < width) (hh : 0 < height)
    (narrow : width < 2 ^ 30) (word : height < UInt32.size) {rgba : Bytes}
    (size : rgba.size = 4 * width * height) (e : Encoding) :
    ∃ frame, ofRgba type width height rgba e.space e.range = .ok (.ok frame) ∧
      frame.isEmpty = false ∧ frame.pixelType = type ∧ frame.format.size = (width, height) ∧
      planes? e (.ofBytes width height rgba) type = some frame.planes := by
  have all : 4 * width * height < UInt64.size := by
    calc 4 * width * height < UInt32.size * UInt32.size :=
          Nat.mul_lt_mul_of_lt_of_lt (by have : UInt32.size = 2 ^ 32 := rfl; omega) word
      _ = UInt64.size := rfl
  obtain ⟨planes, made⟩ : ∃ planes, planes? e (.ofBytes width height rgba) type = some planes := by
    cases type
    case empty => exact absurd rfl supported
    all_goals exact ⟨_, rfl⟩
  obtain ⟨count, tight⟩ := sized_planes made
  have acceptable : Acceptable type width height planes :=
    ⟨⟨supported, hw, hh, count⟩, fun pair mem => by
      obtain ⟨stride, data⟩ := tight pair mem
      exact ⟨Nat.le_of_eq stride.symm, Nat.le_of_eq (by rw [stride, data])⟩⟩
  -- every plane is within four bytes a pixel
  have bounds (plane : FramePlane) (mem : plane ∈ planes) :
      plane.stride ≤ 4 * width ∧ plane.data.size ≤ 4 * width * height := by
    obtain ⟨i, hi⟩ := List.mem_iff_getElem?.1 mem
    obtain ⟨size, hsize, paired⟩ := acceptable.mem_sized hi
    obtain ⟨stride, data⟩ := tight _ paired
    obtain ⟨row, rows⟩ := type.tightSizes_le hw hh _ (List.mem_of_getElem? hsize)
    rw [stride, data]
    exact ⟨row, Nat.mul_le_mul row rows⟩
  have taken := acceptable.ofPlanes_eq_ok (by have : UInt32.size = 2 ^ 32 := rfl; omega)
    (fun plane mem => by
      have : UInt32.size = 2 ^ 32 := rfl
      have := (bounds plane mem).1
      omega)
    (fun plane mem => Nat.lt_of_le_of_lt (bounds plane mem).2 all)
  refine ⟨⟨⟨type, width, height, VideoFormat.widen (type.tightSizes width height)
    (planes.map FramePlane.stride)⟩, planes⟩, ?_, ?_, rfl, rfl, made⟩
  · unfold ofRgba
    refine Checked.bind_eq_ok.2 ⟨_, Checked.fit64_eq_ok.2 ⟨?_, rfl⟩, ?_⟩
    · rwa [Nat.mul_comm, ← Nat.mul_assoc]
    · rw [if_neg (by rw [size, Nat.mul_comm _ 4, ← Nat.mul_assoc]; exact fun h => h rfl), made]
      exact taken
  · rw [Bool.eq_false_iff]
    intro empty
    exact supported ((sound_of_ofPlanes taken).formed.isEmpty_iff.1 empty)

/-- **A picture comes back from the frame that is made of it**, up to the
subsampling of chroma. Every supported type makes a frame of a picture less
than 2³⁰ pixels wide, and the frame has a snapshot of the same size. The
types of four-byte pixels show each pixel as it was. The others show a pixel
by its own luma and the chroma of its block, rounded, and are opaque. So
types with blocks of two rows show the same picture, and types with blocks
of one row do. -/
theorem snapshot_ofRgba (hw : 0 < width) (hh : 0 < height) (narrow : width < 2 ^ 30)
    (word : height < UInt32.size) {rgba : Bytes} (size : rgba.size = 4 * width * height)
    (e : Encoding) (m : YuvToRgb) :
    ∃ shown : PixelType → Image,
      (∀ type, type ≠ .empty →
        (∃ frame, ofRgba type width height rgba e.space e.range = .ok (.ok frame) ∧
          frame.toImageWith m = .ok (some (shown type))) ∧
        (shown type).width = width ∧ (shown type).height = height ∧
        ∀ x y, x < width → y < height →
          (type.isYuv = false →
            (shown type).get? x y = some (source width height rgba x y)) ∧
          (type.isYuv = true → ∃ u v : UInt8,
            (u.toNat : ℤ) =
              round (blockMean e width height rgba (fun s => s.2.1) type.blockRows x y) ∧
            (v.toNat : ℤ) =
              round (blockMean e width height rgba (fun s => s.2.2) type.blockRows x y) ∧
            let color := m.apply (sourceSample e width height rgba x y).1 u v
            (shown type).get? x y = some ⟨color.1, color.2.1, color.2.2, 255⟩)) ∧
      shown .nv12 = shown .i420 ∧ shown .nv21 = shown .i420 ∧ shown .uyvy = shown .yuy2 := by
  let image := Image.ofBytes width height rgba
  refine ⟨fun type => .ofFn width height fun x y => (kept e image type x y).pixel m,
    fun type supported => ⟨?_, rfl, rfl, fun x y hx hy => ?_⟩, rfl, rfl, rfl⟩
  · obtain ⟨frame, made, picture, htype, hsize, planes⟩ :=
      exists_ofRgba supported hw hh narrow word size e
    obtain ⟨hwidth, hheight⟩ := Prod.mk.inj hsize
    refine ⟨frame, made, ?_⟩
    rw [(Made.ofRgba made).sound.toImageWith_eq picture m]
    refine congrArg (fun image => Except.ok (some image)) ?_
    rw [hwidth, hheight]
    refine Raster.ofFn_congr fun x y hx hy => ?_
    rw [sample_made planes htype hx hy]
  · rw [Raster.get?_ofFn, if_pos ⟨hx, hy⟩]
    refine ⟨fun pixels => ?_, fun samples => ?_⟩
    · rw [kept, pixels, ← nearest_ofBytes hw hh]
      rfl
    · have rows : 0 < type.blockRows := by cases type <;> decide
      obtain ⟨blue, red⟩ := @chromaAt_eq_round e width height rgba hw hh _ rows x y
      refine ⟨_, _, blue, red, ?_⟩
      rw [kept, samples, ← sampleAt_ofBytes hw hh]
      rfl

/-- A picture of three columns comes back from four-byte pixels, the last of
it unchanged; and one picture comes back from the two types with pairs of
chroma, whose last block is half outside. -/
theorem snapshot_ofRgba_odd :
    let rgba : Bytes := #[1, 2, 3, 4, 5, 6, 7, 8, 9, 10, 11, 12]
    0 < 3 ∧ 0 < 1 ∧ 3 < 2 ^ 30 ∧ 1 < UInt32.size ∧ rgba.size = 4 * 3 * 1 ∧
      (∃ frame image, ofRgba .bgra 3 1 rgba .bt709 .full = .ok (.ok frame) ∧
        frame.toImageWith .standard = .ok (some image) ∧
        image.get? 2 0 = some ⟨9, 10, 11, 12⟩) ∧
      ∃ first second image, ofRgba .nv12 3 1 rgba .bt709 .full = .ok (.ok first) ∧
        ofRgba .nv21 3 1 rgba .bt709 .full = .ok (.ok second) ∧
        first.toImageWith .standard = .ok (some image) ∧
        second.toImageWith .standard = .ok (some image) := by
  intro rgba
  refine ⟨by decide, by decide, by decide, by decide, rfl, ?_⟩
  obtain ⟨shown, each, nv12, nv21, -⟩ := @snapshot_ofRgba 3 1 (by decide) (by decide) (by decide)
    (by decide) rgba rfl ⟨.bt709, .full⟩ .standard
  obtain ⟨⟨frame, made, image⟩, -, -, pixels⟩ := each .bgra (by decide)
  obtain ⟨⟨first, made₁, image₁⟩, -⟩ := each .nv12 (by decide)
  obtain ⟨⟨second, made₂, image₂⟩, -⟩ := each .nv21 (by decide)
  refine ⟨⟨frame, _, made, image, (pixels 2 0 (by decide) (by decide)).1 rfl⟩,
    first, second, _, made₁, made₂, nv12 ▸ image₁, nv21 ▸ image₂⟩

end VideoFrame

end Projector
