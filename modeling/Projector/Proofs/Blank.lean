import Projector.Proofs.Snapshot

/-!
# Black frames

A black frame is made by filling whole planes with a pattern of one, two or four
bytes. What a pixel is made of is looked up at places that were written down apart
from the patterns. The two agree, since a row has a whole number of patterns: what
is at a place depends on its column only, `byte_blank`.

There is not a black frame for every size. The planes are filled as the type says,
and a picture without pixels has none, whatever its type. So a type with planes and
a size without pixels is a fault, and so is a plane that cannot be addressed.
-/

namespace Projector

/-! ## Tight formats -/

namespace VideoFormat

variable {type : PixelType} {width height : Nat} {format : VideoFormat}

/-- A picture without pixels has the empty format. -/
theorem tight_eq_empty (e : tight type width height = .ok format) (none : width = 0 ∨ height = 0) :
    format = empty := by
  unfold tight at e
  rw [if_pos none] at e
  exact (Except.ok.inj e).symm

/-- **A picture with pixels has planes of the tight sizes.** -/
theorem tight_eq_of_pos (e : tight type width height = .ok format) (hw : 0 < width)
    (hh : 0 < height) : format = ⟨type, width, height, type.tightSizes width height⟩ := by
  unfold tight at e
  rw [if_neg (by omega)] at e
  obtain ⟨sizes, hsizes, e⟩ := Checked.bind_eq_ok.1 e
  cases e
  rw [PixelType.tightSizes_of_planeSizes hsizes]

end VideoFormat

namespace VideoFrame

/-! ## Patterns -/

/-- **What a plane of a black picture repeats.** -/
def blackPattern (type : PixelType) (plane : Nat) : List UInt8 :=
  match type with
  | .empty => []
  | .i420 | .nv12 | .nv21 => [if plane = 0 then blackLuma else greyChroma]
  | .yuy2 => [blackLuma, greyChroma]
  | .uyvy => [greyChroma, blackLuma]
  | .rgba | .bgra => [0, 0, 0, 255]

theorem blackPlane_eq (type : PixelType) (plane length : Nat) :
    blackPlane type plane length = tile (blackPattern type plane) length := by
  cases type <;> rfl

/-- **A row has a whole number of patterns.** -/
theorem blackPattern_dvd (type : PixelType) {width height i : Nat} {size : PlaneSize}
    (h : (type.tightSizes width height)[i]? = some size) :
    (blackPattern type i).length ∣ size.rowBytes := by
  have mem := List.mem_of_getElem? h
  cases type <;> simp only [PixelType.tightSizes, List.mem_singleton, List.not_mem_nil] at mem
  case i420 | nv12 | nv21 => exact Nat.one_dvd _
  case yuy2 | uyvy =>
    subst mem
    exact Nat.dvd_mul_left_of_dvd (show 2 ∣ 4 by decide) _
  case rgba | bgra =>
    subst mem
    exact Nat.dvd_mul_left_of_dvd (Nat.dvd_refl 4) _

/-- **Patterns without a rest** are met at every position. -/
theorem getElem?_tile {pattern : List UInt8} {length i : Nat} (whole : pattern.length ∣ length)
    (h : i < length) : (tile pattern length)[i]? = some (pattern[i % pattern.length]?.getD 0) := by
  unfold tile
  rw [Array.getElem?_ofFn, dif_pos h]
  dsimp only
  rw [Nat.div_mul_cancel whole, if_pos h]

/-- What is in a column of a black picture. -/
def blackByte (type : PixelType) (place : BytePlace) : UInt8 :=
  (blackPattern type place.plane)[place.column % (blackPattern type place.plane).length]?.getD 0

/-- **A byte of a black picture depends on its column.** -/
theorem byte_blank {type : PixelType} {width height : Nat} {place : BytePlace}
    (visible : type.Visible width height place) :
    byte ⟨⟨type, width, height, type.tightSizes width height⟩,
      blackPlanes type ⟨type, width, height, type.tightSizes width height⟩⟩ place =
        blackByte type place := by
  obtain ⟨size, hsize, row, column⟩ := visible
  have whole := blackPattern_dvd type hsize
  unfold byte blackByte
  rw [getElem?_blackPlanes, hsize]
  show ((blackPlane type _ _)[place.row * size.rowBytes + place.column]?).getD 0 = _
  rw [blackPlane_eq, getElem?_tile (Nat.dvd_mul_right_of_dvd whole _)
    (Raster.position_lt column row)]
  obtain ⟨n, hn⟩ := whole
  rw [hn, Nat.mul_left_comm, Nat.mul_add_mod]
  rfl

/-- **What a black pixel is stored as**: black luma and grey chroma, or the pixel. -/
def blackSample (type : PixelType) : Sample :=
  if type.isYuv then .yuv 16 128 128 else .rgb ⟨0, 0, 0, 255⟩

/-- **The bytes of a pixel are those of a black one.** -/
theorem ofBytes_blackByte {type : PixelType} (picture : type ≠ .empty) (x y : Nat) :
    Sample.ofBytes type x ((type.places x y).map (blackByte type)) = blackSample type := by
  have pair (n : Nat) : (x / 2 * 4 + n) % 2 = n % 2 := by omega
  have quad (n : Nat) : (x * 4 + n) % 4 = n % 4 := by omega
  have first : x / 2 * 4 % 2 = 0 := pair 0
  have red : x * 4 % 4 = 0 := quad 0
  have bytes : (type.places x y).map (blackByte type) =
      match type with
      | .empty => []
      | .i420 | .nv12 | .nv21 => [blackLuma, greyChroma, greyChroma]
      | .yuy2 => [blackLuma, greyChroma, blackLuma, greyChroma]
      | .uyvy => [greyChroma, blackLuma, greyChroma, blackLuma]
      | .rgba | .bgra => [0, 0, 0, 255] := by
    cases type <;>
      simp [PixelType.places, blackByte, blackPattern, Nat.mod_one, first, pair, red, quad]
  rw [bytes]
  cases type
  case empty => exact absurd rfl picture
  case i420 | nv12 | nv21 | rgba | bgra => rfl
  case yuy2 | uyvy =>
    -- both pixels of a pair are as dark
    show Sample.yuv (if x % 2 = 0 then blackLuma else blackLuma) _ _ = _
    rw [ite_self]
    rfl

/-! ## The frame -/

/-- **Whether a frame is a black picture** of a format with tight rows: its planes
have the bytes of their rows and no more, and every pixel that is read is black. -/
structure ShowsBlack (f : VideoFrame) (format : VideoFormat) : Prop where
  /-- The frame has the format. -/
  shape : f.format = format
  /-- There is a picture. -/
  picture : f.isEmpty = false
  /-- There are as many planes as the format has. -/
  length : f.planes.length = format.planeCount
  /-- A plane has the bytes of its rows. -/
  planes : ∀ (i : Nat) plane, f.planes[i]? = some plane →
    plane.stride = format.byteWidth i ∧
      plane.data.size = format.byteWidth i * format.byteHeight i
  /-- A pixel that is read is black. -/
  samples : ∀ x y, x < format.width → y < format.height →
    f.sampleAt x y = .ok (blackSample format.pixelType)

/-- **What is asked of black frames**: that there is one, without planes where there
is no picture, and a black picture otherwise. -/
def GivesBlack (type : PixelType) (width height : Nat) (format : VideoFormat) : Prop :=
  ∃ frame, blank type width height = .ok frame ∧
    if type = .empty ∨ width = 0 ∨ height = 0 then frame.isEmpty = true ∧ frame.planes = []
    else frame.ShowsBlack format

section Frame

variable {type : PixelType} {width height : Nat} {format : VideoFormat}

/-- **Black planes show black.** -/
theorem showsBlack (tight : VideoFormat.tight type width height = .ok format)
    (word : width < UInt32.size) (picture : type ≠ .empty) (hw : 0 < width) (hh : 0 < height)
    (given : blank type width height = .ok ⟨format, blackPlanes type format⟩) :
    ShowsBlack ⟨format, blackPlanes type format⟩ format := by
  have made : Made ⟨format, blackPlanes type format⟩ := .blank word given
  have filled : isEmpty ⟨format, blackPlanes type format⟩ = false := by
    rw [Bool.eq_false_iff]
    intro empty
    have typed := made.sound.formed.isEmpty_iff.1 empty
    cases VideoFormat.tight_eq_of_pos tight hw hh
    exact picture typed
  refine ⟨rfl, filled, made.sound.length, fun i plane hplane => ?_, fun x y hx hy => ?_⟩
  · dsimp only at hplane
    rw [getElem?_blackPlanes] at hplane
    obtain ⟨size, hsize, rfl⟩ := Option.map_eq_some_iff.1 hplane
    rw [VideoFormat.byteWidth_eq hsize, VideoFormat.byteHeight_eq hsize]
    exact ⟨rfl, size_blackPlane ..⟩
  · cases VideoFormat.tight_eq_of_pos tight hw hh
    have visible := PixelType.visible_of_mem_places type hx hy
    rw [sampleAt_eq_ok fun place mem => made.sound.exists_byteAt filled (visible place mem)]
    refine congrArg Except.ok (Eq.trans ?_ (ofBytes_blackByte picture x y))
    unfold sample
    refine congrArg (Sample.ofBytes type x) (List.map_congr_left fun place mem => ?_)
    exact byte_blank (visible place mem)

/-- **A black frame that is given is as it should be.** -/
theorem givesBlack_of_blank (word : width < UInt32.size)
    (tight : VideoFormat.tight type width height = .ok format) {frame : VideoFrame}
    (given : blank type width height = .ok frame) : GivesBlack type width height format := by
  refine ⟨frame, given, ?_⟩
  obtain ⟨-, there, rfl⟩ := (blank_eq_ok_iff tight).1 given
  split
  · next none =>
    -- there is no plane, since there is no type or no pixel
    have bare : format.planes = [] := by
      by_cases unsized : width = 0 ∨ height = 0
      · cases VideoFormat.tight_eq_empty tight unsized
        rfl
      · obtain rfl := none.resolve_right unsized
        cases VideoFormat.tight_eq_of_pos tight (by omega) (by omega)
        rfl
    refine ⟨?_, ?_⟩
    · unfold isEmpty VideoFormat.isEmpty
      rw [bare]
      rfl
    · unfold blackPlanes
      rw [bare]
      rfl
  · next some =>
    exact showsBlack tight word (fun e => some (.inl e)) (by omega) (by omega) given

/-- **When there is a black frame**: if the type has no planes or the picture has
pixels, and if every plane can be addressed. A frame that is given is as it should
be. -/
theorem blank_black_iff (word : width < UInt32.size)
    (tight : VideoFormat.tight type width height = .ok format) :
    ((∃ frame, blank type width height = .ok frame) ↔ GivesBlack type width height format) ∧
      (GivesBlack type width height format ↔
        (type = .empty ∨ 0 < width ∧ 0 < height) ∧
          ∀ size ∈ format.planes, size.rowBytes * size.rows < UInt64.size / 2) := by
  have given : (∃ frame, blank type width height = .ok frame) ↔
      GivesBlack type width height format :=
    ⟨fun ⟨_, given⟩ => givesBlack_of_blank word tight given, fun ⟨frame, given, _⟩ => ⟨frame, given⟩⟩
  refine ⟨given, given.symm.trans ⟨?_, ?_⟩⟩
  · rintro ⟨frame, given⟩
    obtain ⟨short, there, -⟩ := (blank_eq_ok_iff tight).1 given
    refine ⟨Decidable.byContradiction fun bad => ?_, short⟩
    obtain ⟨typed, unsized⟩ := not_or.1 bad
    have none : width = 0 ∨ height = 0 := by omega
    cases VideoFormat.tight_eq_empty tight none
    exact there ⟨typed, rfl⟩
  · rintro ⟨fit, short⟩
    refine ⟨_, (blank_eq_ok_iff tight).2 ⟨short, ?_, rfl⟩⟩
    rintro ⟨typed, bare⟩
    obtain ⟨hw, hh⟩ := fit.resolve_left typed
    cases VideoFormat.tight_eq_of_pos tight hw hh
    have count := PixelType.length_tightSizes type width height
    rw [show type.tightSizes width height = [] from bare] at count
    exact typed ((PixelType.layout_planeCount_eq_zero_iff type).1 count.symm)

/-- Three pixels of packed luma and chroma. -/
theorem blank_black_iff_odd :
    (3 < UInt32.size ∧ VideoFormat.tight .uyvy 3 1 = .ok ⟨.uyvy, 3, 1, [⟨8, 1⟩]⟩) ∧
      GivesBlack .uyvy 3 1 ⟨.uyvy, 3, 1, [⟨8, 1⟩]⟩ :=
  ⟨⟨by decide, rfl⟩, (blank_black_iff (by decide) rfl).2.2 ⟨by decide, by decide⟩⟩

/-- **There is no black frame without pixels** for a type that has planes. -/
theorem blank_without_pixels :
    VideoFormat.tight .i420 0 4 = .ok .empty ∧ ¬ GivesBlack .i420 0 4 .empty := by
  refine ⟨rfl, ?_⟩
  rintro ⟨frame, given, -⟩
  cases (show blank .i420 0 4 = .error .outOfRange from rfl).symm.trans given

end Frame

end VideoFrame

end Projector
