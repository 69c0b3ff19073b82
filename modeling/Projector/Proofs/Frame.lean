import Projector.Frame.Synthetic

/-!
# Frames that can be made

Nobody builds a frame field by field: there are five functions that make
one, and `VideoFrame.Made` says that a frame comes from one of them. What
an upload relies on is what these functions check. A plane has the stride
that its format says, and at least the bytes of its rows, and there are as
many planes as the format has. That is `VideoFrame.Sound`.

The other half is the table of pixel types. A slot reads both dimensions
from its own source plane, and the shift of its width is the width of a
texel, so a slot of a picture has at least one texel.
-/

namespace Projector

/-! ## Slots of a pixel type -/

namespace PixelType

/-- **A slot reads one plane**: both its dimensions come from it, the width
in texels and the height in rows, and the type has this plane. -/
theorem slot_reads_one_plane (t : PixelType) : ∀ slot ∈ t.layout.slots,
    slot.width.plane = slot.sourcePlane ∧ slot.height = ⟨slot.sourcePlane, 0⟩ ∧
      slot.texel.bytes = 1 <<< slot.width.shift ∧ slot.sourcePlane < t.layout.planeCount := by
  cases t <;> decide

theorem layout_slots_eq_nil_iff (t : PixelType) : t.layout.slots = [] ↔ t = empty := by
  cases t <;> decide

/-- The first slot is made from the first plane, a texel for a column. -/
theorem first_slot (t : PixelType) : ∀ slot ∈ t.layout.slots[0]?,
    slot.sourcePlane = 0 ∧ slot.texel.bytes = t.layout.plane0BytesPerPixel := by
  cases t <;> decide

theorem exists_first_slot {t : PixelType} (typed : t ≠ .empty) :
    ∃ slot, t.layout.slots[0]? = some slot := by
  cases t with
  | empty => exact (typed rfl).elim
  | _ => exact ⟨_, rfl⟩

/-- **A picture with pixels has texels**: the plane of a slot has a row, and
a row has the bytes of a texel. -/
theorem planeSizes_holds_slot {t : PixelType} {width height : Nat} {sizes : List PlaneSize}
    (e : t.planeSizes width height = .ok sizes) (hw : 0 < width) (hh : 0 < height) :
    sizes.length = t.layout.planeCount ∧ ∀ slot ∈ t.layout.slots, ∃ size,
      sizes[slot.sourcePlane]? = some size ∧ slot.texel.bytes ≤ size.rowBytes ∧ 0 < size.rows := by
  cases t <;> simp only [planeSizes, Checked.bind_eq_ok, Checked.fit32_eq_ok] at e
  case empty =>
    cases e
    exact ⟨rfl, fun _ h => nomatch h⟩
  case i420 =>
    cases e
    refine ⟨rfl, ?_⟩
    simp [layout, planarSlots, TexelFormat.bytes]
    omega
  case nv12 | nv21 =>
    obtain ⟨n, ⟨-, rfl⟩, e⟩ := e
    cases e
    refine ⟨rfl, ?_⟩
    simp [layout, semiPlanarSlots, TexelFormat.bytes]
    omega
  case yuy2 | uyvy =>
    obtain ⟨n, ⟨-, rfl⟩, e⟩ := e
    cases e
    refine ⟨rfl, ?_⟩
    simp [layout, packedSlots, TexelFormat.bytes]
    omega
  case rgba | bgra =>
    obtain ⟨n, ⟨-, rfl⟩, e⟩ := e
    cases e
    refine ⟨rfl, ?_⟩
    simp [layout, rgbSlots, TexelFormat.bytes]
    omega

/-- A row of a picture whose width is a word is a word. -/
theorem rowBytes_lt_of_planeSizes {t : PixelType} {width height : Nat} {sizes : List PlaneSize}
    (e : t.planeSizes width height = .ok sizes) (hw : width < UInt32.size) :
    ∀ size ∈ sizes, size.rowBytes < UInt32.size := by
  cases t <;> simp only [planeSizes, Checked.bind_eq_ok, Checked.fit32_eq_ok] at e
  case empty =>
    cases e
    exact fun _ h => nomatch h
  case i420 =>
    cases e
    simp
    omega
  case nv12 | nv21 =>
    obtain ⟨n, ⟨hn, rfl⟩, e⟩ := e
    cases e
    simp [hw, hn]
  case yuy2 | uyvy | rgba | bgra =>
    obtain ⟨n, ⟨hn, rfl⟩, e⟩ := e
    cases e
    simpa using hn

end PixelType

/-- **A row of texels is not longer than the row it was cut from** exactly if its
texels are not wider than those that it was cut for. -/
theorem TexelFormat.row_le_iff {texel cut : TexelFormat} {n : Nat} (h : cut.bytes ≤ n) :
    n / cut.bytes * texel.bytes ≤ n ↔ texel.bytes ≤ cut.bytes := by
  cases texel <;> cases cut <;> simp only [bytes] at h ⊢ <;> omega

/-! ## Formats that can be made -/

namespace VideoFormat

/-- **A format that can be made.** A format with tight rows is one with no
stride given. -/
def Formed (f : VideoFormat) : Prop :=
  ∃ type width height strides, withStrides type width height strides = .ok f

theorem byteWidth_eq {f : VideoFormat} {i : Nat} {size : PlaneSize}
    (h : f.planes[i]? = some size) : f.byteWidth i = size.rowBytes := by
  unfold byteWidth
  rw [h]
  rfl

theorem byteHeight_eq {f : VideoFormat} {i : Nat} {size : PlaneSize}
    (h : f.planes[i]? = some size) : f.byteHeight i = size.rows := by
  unfold byteHeight
  rw [h]
  rfl

theorem getElem?_widen (planes : List PlaneSize) (strides : List Nat) (i : Nat) :
    (widen planes strides)[i]? =
      planes[i]?.map fun p => ⟨max p.rowBytes (strides[i]?.getD 0), p.rows⟩ := by
  induction planes generalizing strides i with
  | nil => cases strides <;> rfl
  | cons p planes ih =>
    cases strides with
    | nil => cases i <;> simp [widen]
    | cons s strides =>
      cases i with
      | zero => rfl
      | succ i => simpa [widen] using ih strides i

theorem widen_nil (planes : List PlaneSize) : widen planes [] = planes := by
  cases planes <;> rfl

theorem formed_empty : empty.Formed := ⟨.empty, 0, 0, [], rfl⟩

theorem formed_tight {type : PixelType} {width height : Nat} {f : VideoFormat}
    (e : tight type width height = .ok f) : f.Formed := by
  refine ⟨type, width, height, [], ?_⟩
  unfold withStrides
  rw [e]
  exact congrArg Except.ok (congrArg (VideoFormat.mk _ _ _) (widen_nil f.planes))

theorem rowBytes_lt_of_tight {type : PixelType} {width height : Nat} {f : VideoFormat}
    (e : tight type width height = .ok f) (hw : width < UInt32.size) :
    ∀ size ∈ f.planes, size.rowBytes < UInt32.size := by
  unfold tight at e
  split at e
  · cases e
    exact fun _ h => nomatch h
  · obtain ⟨sizes, hs, e⟩ := Checked.bind_eq_ok.1 e
    cases e
    exact PixelType.rowBytes_lt_of_planeSizes hs hw

/-- **Nothing, or a picture with pixels** whose rows are at least the tight
ones. -/
theorem withStrides_eq_ok {type : PixelType} {width height : Nat} {strides : List Nat}
    {f : VideoFormat} (e : withStrides type width height strides = .ok f) :
    (width = 0 ∨ height = 0) ∧ f = empty ∨
      0 < width ∧ 0 < height ∧ ∃ sizes, type.planeSizes width height = .ok sizes ∧
        f = ⟨type, width, height, widen sizes strides⟩ := by
  unfold withStrides tight at e
  obtain ⟨g, hg, e⟩ := Checked.bind_eq_ok.1 e
  cases e
  split at hg
  · next h =>
    cases hg
    left
    refine ⟨h, ?_⟩
    cases strides <;> rfl
  · next h =>
    obtain ⟨sizes, hs, hg⟩ := Checked.bind_eq_ok.1 hg
    cases hg
    right
    exact ⟨by omega, by omega, sizes, hs, rfl⟩

namespace Formed

variable {f : VideoFormat}

/-- **Every slot has texels**, as many in a row as the bytes of its source
plane's row are worth. -/
theorem slot (h : f.Formed) {i : Nat} {slot : SlotLayout}
    (hi : f.layout.slots[i]? = some slot) :
    f.slotSize? i =
        some (f.byteWidth slot.sourcePlane / slot.texel.bytes, f.byteHeight slot.sourcePlane) ∧
      slot.texel.bytes ≤ f.byteWidth slot.sourcePlane ∧ 0 < f.byteHeight slot.sourcePlane ∧
      slot.sourcePlane < f.planes.length := by
  obtain ⟨type, width, height, strides, e⟩ := h
  have hmem : slot ∈ f.layout.slots := List.mem_of_getElem? hi
  obtain ⟨hw, hh, hb, hp⟩ := PixelType.slot_reads_one_plane _ slot hmem
  obtain ⟨-, rfl⟩ | ⟨width0, height0, sizes, hs, rfl⟩ := withStrides_eq_ok e
  · -- without pixels there is no slot
    cases hmem
  · obtain ⟨hlen, hslot⟩ := PixelType.planeSizes_holds_slot hs width0 height0
    obtain ⟨size, hsize, hrow, hrows⟩ := hslot slot hmem
    have hplane := getElem?_widen sizes strides slot.sourcePlane
    rw [hsize] at hplane
    refine ⟨?_, ?_, ?_, ?_⟩
    · unfold slotSize?
      rw [hi]
      simp [hw, hh, hb, Nat.shiftRight_eq_div_pow, Nat.one_shiftLeft]
    · unfold byteWidth
      rw [hplane]
      exact Nat.le_trans hrow (Nat.le_max_left _ _)
    · unfold byteHeight
      rw [hplane]
      exact hrows
    · rw [length_widen, hlen]
      exact hp

/-- **The planes of a picture hold its tight rows**, and as many of them. -/
theorem covers (h : f.Formed) (picture : f.isEmpty = false) : 0 < f.width ∧
    ∃ sizes, f.pixelType.planeSizes f.width f.height = .ok sizes ∧
      ∀ i rowBytes rows, sizes[i]? = some ⟨rowBytes, rows⟩ →
        rowBytes ≤ f.byteWidth i ∧ f.byteHeight i = rows := by
  obtain ⟨type, width, height, strides, e⟩ := h
  obtain ⟨-, rfl⟩ | ⟨width0, -, sizes, hs, rfl⟩ := withStrides_eq_ok e
  · cases picture
  refine ⟨width0, sizes, hs, fun i rowBytes rows hi => ?_⟩
  have hplane := (getElem?_widen sizes strides i).trans (congrArg _ hi)
  rw [byteWidth_eq hplane, byteHeight_eq hplane]
  exact ⟨Nat.le_max_left _ _, rfl⟩

/-- A picture has pixels. -/
theorem pixels (h : f.Formed) (picture : f.isEmpty = false) : 0 < f.width ∧ 0 < f.height := by
  obtain ⟨type, width, height, strides, e⟩ := h
  obtain ⟨-, rfl⟩ | ⟨width0, height0, sizes, -, rfl⟩ := withStrides_eq_ok e
  · cases picture
  · exact ⟨width0, height0⟩

/-- The size of a slot is one of at least one texel. -/
theorem slotSize?_pos (h : f.Formed) {i width height : Nat}
    (hi : f.slotSize? i = some (width, height)) : 0 < width ∧ 0 < height := by
  cases hs : f.layout.slots[i]? with
  | none =>
    unfold slotSize? at hi
    rw [hs] at hi
    cases hi
  | some slot =>
    obtain ⟨hsize, hrow, hrows, -⟩ := h.slot hs
    cases hsize.symm.trans hi
    have hb : 0 < slot.texel.bytes := by cases slot.texel <;> decide
    exact ⟨Nat.div_pos hrow hb, hrows⟩

/-- **A format has as many planes as its type.** -/
theorem length_planes (h : f.Formed) : f.planes.length = f.layout.planeCount := by
  obtain ⟨type, width, height, strides, e⟩ := h
  obtain ⟨-, rfl⟩ | ⟨width0, height0, sizes, hs, rfl⟩ := withStrides_eq_ok e
  · rfl
  · rw [length_widen]
    exact (PixelType.planeSizes_holds_slot hs width0 height0).1

/-- A format without planes is one of the type without a picture. -/
theorem isEmpty_iff (h : f.Formed) : f.isEmpty = true ↔ f.pixelType = .empty := by
  unfold isEmpty
  rw [List.isEmpty_iff_length_eq_zero, h.length_planes]
  exact PixelType.layout_planeCount_eq_zero_iff _

end Formed

/-- **A format that is made from words**: the width and the strides are words. -/
def Worded (f : VideoFormat) : Prop :=
  ∃ type width height strides, width < UInt32.size ∧ (∀ stride ∈ strides, stride < UInt32.size) ∧
    withStrides type width height strides = .ok f

theorem Worded.formed {f : VideoFormat} (h : f.Worded) : f.Formed := by
  obtain ⟨type, width, height, strides, -, -, e⟩ := h
  exact ⟨type, width, height, strides, e⟩

theorem worded_empty : empty.Worded :=
  ⟨.empty, 0, 0, [], by decide, fun _ h => (nomatch h), rfl⟩

/-- **A row of a format that is made from words is a word.** -/
theorem Worded.byteWidth_lt {f : VideoFormat} (h : f.Worded) (i : Nat) :
    f.byteWidth i < UInt32.size := by
  obtain ⟨type, width, height, strides, word, words, e⟩ := h
  cases hi : f.planes[i]? with
  | none =>
    unfold byteWidth
    rw [hi]
    decide
  | some size =>
    rw [byteWidth_eq hi]
    obtain ⟨-, rfl⟩ | ⟨-, -, sizes, hs, rfl⟩ := withStrides_eq_ok e
    · cases hi
    · rw [getElem?_widen] at hi
      obtain ⟨tight, htight, rfl⟩ := Option.map_eq_some_iff.1 hi
      have row := PixelType.rowBytes_lt_of_planeSizes hs word _ (List.mem_of_getElem? htight)
      have stride : strides[i]?.getD 0 < UInt32.size := by
        cases hstride : strides[i]? with
        | none => decide
        | some stride => exact words _ (List.mem_of_getElem? hstride)
      exact Nat.max_lt.2 ⟨row, stride⟩

end VideoFormat

/-! ## Frames that can be made -/

namespace VideoFrame

/-- **A frame that somebody made.** -/
inductive Made : VideoFrame → Prop
  /-- No picture. -/
  | empty : Made .empty
  /-- The frame of given planes. -/
  | ofPlanes {type width height planes frame}
      (e : VideoFrame.ofPlanes type width height planes = .ok (.ok frame)) : Made frame
  /-- A black picture, whose width is a word. -/
  | blank {type width height frame} (word : width < UInt32.size)
      (e : VideoFrame.blank type width height = .ok frame) : Made frame
  /-- The frame of a picture. -/
  | ofRgba {type width height rgba space range frame}
      (e : VideoFrame.ofRgba type width height rgba space range = .ok (.ok frame)) : Made frame
  /-- Upright bars. -/
  | testPattern {type width height frame}
      (e : VideoFrame.testPattern type width height = .ok (.ok frame)) : Made frame

/-- **Whether a plane is one of a size**: it has the bytes of the rows, and
its stride, as the word that a device is told, is that of the size. -/
structure PlaneFits (size : PlaneSize) (plane : FramePlane) : Prop where
  /-- The stride is that of the size. -/
  stride : plane.stride % UInt32.size = size.rowBytes
  /-- The rows are there. -/
  rows : plane.stride * size.rows ≤ plane.data.size
  /-- Their bytes can be counted. -/
  counted : plane.stride * size.rows < UInt64.size

/-- **A frame whose planes are those of its format.** -/
structure Sound (f : VideoFrame) : Prop where
  /-- The format was made. -/
  formed : f.format.Formed
  /-- There are as many planes as the format has. -/
  length : f.planes.length = f.format.planes.length
  /-- Each is one of its size. -/
  fits : ∀ (i : Nat) size plane, f.format.planes[i]? = some size → f.planes[i]? = some plane →
    PlaneFits size plane

/-- Whether every stride fits a word of 32 bits. -/
def Narrow (f : VideoFrame) : Prop := ∀ plane ∈ f.planes, plane.stride < UInt32.size

instance (f : VideoFrame) : Decidable f.Narrow :=
  inferInstanceAs (Decidable (∀ plane ∈ f.planes, plane.stride < UInt32.size))

theorem checkPlanes_eq_ok {format : VideoFormat} {i : Nat} {planes : List FramePlane}
    (e : checkPlanes format i planes = .ok (.ok ())) {j : Nat} {plane : FramePlane}
    (hj : planes[j]? = some plane) : checkPlane format (i + j) plane = .ok (.ok ()) := by
  induction planes generalizing i j with
  | nil => cases hj
  | cons p planes ih =>
    obtain ⟨answer, he, e⟩ := Checked.bind_eq_ok.1 e
    split at e
    · cases e
    · cases j with
      | zero =>
        cases hj
        exact he
      | succ j =>
        have := ih e hj
        rwa [show i + 1 + j = i + (j + 1) by omega] at this

/-- **What a plane that passes has**: rows that are wide enough by their
word, and all of them. -/
theorem checkPlane_eq_ok {format : VideoFormat} {i : Nat} {plane : FramePlane}
    (e : checkPlane format i plane = .ok (.ok ())) :
    format.byteWidth i ≤ plane.stride % UInt32.size ∧
      plane.stride * format.byteHeight i ≤ plane.data.size ∧
      plane.stride * format.byteHeight i < UInt64.size := by
  unfold checkPlane at e
  split at e
  · cases e
  · next hstride =>
    obtain ⟨n, hn, e⟩ := Checked.bind_eq_ok.1 e
    obtain ⟨hlt, rfl⟩ := Checked.fit64_eq_ok.1 hn
    split at e
    · cases e
    · next hsize => exact ⟨by omega, by omega, hlt⟩

theorem sound_of_ofPlanes {type : PixelType} {width height : Nat} {planes : List FramePlane}
    {frame : VideoFrame} (e : ofPlanes type width height planes = .ok (.ok frame)) :
    frame.Sound := by
  unfold ofPlanes at e
  split at e
  · cases e
  next hpicture =>
  dsimp only at e
  split at e
  · cases e
  next hcount =>
  obtain ⟨format, hformat, e⟩ := Checked.bind_eq_ok.1 e
  obtain ⟨answer, hanswer, e⟩ := Checked.bind_eq_ok.1 e
  split at e
  · cases e
  cases e
  have hformed : format.Formed := ⟨_, _, _, _, hformat⟩
  obtain ⟨h, -⟩ | ⟨-, -, sizes, -, rfl⟩ := VideoFormat.withStrides_eq_ok hformat
  · omega
  refine ⟨hformed, ?_, ?_⟩
  · rw [hformed.length_planes]
    exact Decidable.not_not.1 hcount
  · intro i size plane hsize hplane
    have hcheck := checkPlanes_eq_ok hanswer hplane
    obtain ⟨hstride, hrows, hcounted⟩ := checkPlane_eq_ok hcheck
    rw [Nat.zero_add] at hstride hrows hcounted
    rw [VideoFormat.byteHeight_eq hsize] at hrows hcounted
    refine ⟨?_, hrows, hcounted⟩
    -- the width is at most the word of the stride, and at least
    rw [VideoFormat.byteWidth_eq hsize] at hstride
    have hwide : plane.stride % UInt32.size ≤ size.rowBytes := by
      have hgiven : (planes.map fun p => p.stride % UInt32.size)[i]? =
          some (plane.stride % UInt32.size) := by
        rw [List.getElem?_map, hplane]
        rfl
      rw [VideoFormat.getElem?_widen, hgiven] at hsize
      obtain ⟨tight, -, rfl⟩ := Option.map_eq_some_iff.1 hsize
      exact Nat.le_max_right _ _
    omega

theorem size_blackPlane (type : PixelType) (plane length : Nat) :
    (blackPlane type plane length).size = length := by
  cases type <;> exact Array.size_ofFn

/-- **The planes of a black picture** of a format. -/
def blackPlanes (type : PixelType) (format : VideoFormat) : List FramePlane :=
  format.planes.zipIdx.map fun x => ⟨blackPlane type x.2 (x.1.rowBytes * x.1.rows), x.1.rowBytes⟩

theorem getElem?_blackPlanes (type : PixelType) (format : VideoFormat) (i : Nat) :
    (blackPlanes type format)[i]? = format.planes[i]?.map fun size =>
      ⟨blackPlane type i (size.rowBytes * size.rows), size.rowBytes⟩ := by
  unfold blackPlanes
  rw [List.getElem?_map, List.getElem?_zipIdx, Option.map_map, Nat.zero_add]
  rfl

/-- **When there is a black frame**: its planes can be addressed, and there are
planes if the type has some. -/
theorem blank_eq_ok_iff {type : PixelType} {width height : Nat} {format : VideoFormat}
    (tight : VideoFormat.tight type width height = .ok format) {frame : VideoFrame} :
    blank type width height = .ok frame ↔
      (∀ size ∈ format.planes, size.rowBytes * size.rows < UInt64.size / 2) ∧
        ¬ (type ≠ .empty ∧ format.planes = []) ∧ frame = ⟨format, blackPlanes type format⟩ := by
  have check (x : PlaneSize × Nat) (plane : FramePlane) :
      (do
        let length ← Checked.addressable (x.1.rowBytes * x.1.rows)
        return FramePlane.mk (blackPlane type x.2 length) x.1.rowBytes : Checked FramePlane) =
          .ok plane ↔ x.1.rowBytes * x.1.rows < UInt64.size / 2 ∧
            plane = ⟨blackPlane type x.2 (x.1.rowBytes * x.1.rows), x.1.rowBytes⟩ := by
    rw [Checked.bind_eq_ok]
    constructor
    · rintro ⟨length, hlength, e⟩
      obtain ⟨short, rfl⟩ := Checked.addressable_eq_ok.1 hlength
      exact ⟨short, (Except.ok.inj e).symm⟩
    · rintro ⟨short, rfl⟩
      exact ⟨_, Checked.addressable_eq_ok.2 ⟨short, rfl⟩, rfl⟩
  have sizes : (∀ x ∈ format.planes.zipIdx, x.1.rowBytes * x.1.rows < UInt64.size / 2) ↔
      ∀ size ∈ format.planes, size.rowBytes * size.rows < UInt64.size / 2 := by
    rw [← List.forall_mem_map (f := Prod.fst)
      (P := fun size : PlaneSize => size.rowBytes * size.rows < UInt64.size / 2),
      List.zipIdx_map_fst]
  have none : blackPlanes type format = [] ↔ format.planes = [] := by
    simp [blackPlanes]
  unfold blank
  rw [tight, Checked.bind_eq_ok, ← sizes]
  constructor
  · rintro ⟨_, ⟨⟩, e⟩
    obtain ⟨planes, hplanes, e⟩ := Checked.bind_eq_ok.1 e
    obtain ⟨short, rfl⟩ := (Checked.mapM_eq_ok_iff check).1 hplanes
    split at e
    · cases e
    · next there =>
      cases e
      exact ⟨short, fun bare => there ⟨bare.1, none.2 bare.2⟩, rfl⟩
  · rintro ⟨short, there, rfl⟩
    refine ⟨format, rfl, Checked.bind_eq_ok.2 ⟨blackPlanes type format,
      (Checked.mapM_eq_ok_iff check).2 ⟨short, rfl⟩, ?_⟩⟩
    exact if_neg fun bare => there ⟨bare.1, none.1 bare.2⟩

theorem sound_of_blank {type : PixelType} {width height : Nat} {frame : VideoFrame}
    (word : width < UInt32.size) (e : blank type width height = .ok frame) : frame.Sound := by
  obtain ⟨format, hformat, -⟩ := Checked.bind_eq_ok.1 e
  obtain ⟨addressable, -, rfl⟩ := (blank_eq_ok_iff hformat).1 e
  refine ⟨VideoFormat.formed_tight hformat, ?_, fun i size plane hsize hplane => ?_⟩
  · unfold blackPlanes
    rw [List.length_map, List.length_zipIdx]
  · dsimp only at hsize hplane
    rw [getElem?_blackPlanes, hsize] at hplane
    cases hplane
    have mem := List.mem_of_getElem? hsize
    refine ⟨Nat.mod_eq_of_lt ?_, ?_, ?_⟩
    · exact VideoFormat.rowBytes_lt_of_tight hformat word size mem
    · exact Nat.le_of_eq (size_blackPlane ..).symm
    · exact Nat.lt_of_lt_of_le (addressable size mem) (Nat.div_le_self _ _)

theorem sound_of_ofRgba {type : PixelType} {width height : Nat} {rgba : Bytes}
    {space : ColorSpace} {range : ColorRange} {frame : VideoFrame}
    (e : ofRgba type width height rgba space range = .ok (.ok frame)) : frame.Sound := by
  unfold ofRgba at e
  obtain ⟨needed, -, e⟩ := Checked.bind_eq_ok.1 e
  split at e
  · cases e
  split at e
  · cases e
  · exact sound_of_ofPlanes e

theorem sound_empty : Sound .empty := by
  refine ⟨VideoFormat.formed_empty, rfl, ?_⟩
  intro i size plane h
  cases h

/-- **A frame that somebody made has the planes of its format.** -/
theorem Made.sound {f : VideoFrame} (h : f.Made) : f.Sound := by
  cases h with
  | empty => exact sound_empty
  | ofPlanes e => exact sound_of_ofPlanes e
  | blank word e => exact sound_of_blank word e
  | ofRgba e => exact sound_of_ofRgba e
  | testPattern e =>
    obtain ⟨_, -, e⟩ := Checked.bind_eq_ok.1 e
    exact sound_of_ofRgba e

/-! ## What a slot is filled with -/

/-- **The plane that a slot of a frame is filled with**: it is there, the
slot has a texel for every few bytes of its row and a row for every row, and
its rows are among its bytes. -/
structure Feeds (f : VideoFrame) (i : Nat) (slot : SlotLayout) (plane : FramePlane) : Prop where
  /-- It is the source plane. -/
  source : f.planes[slot.sourcePlane]? = some plane
  /-- The size of the slot. -/
  size : f.format.slotSize? i =
    some (f.format.byteWidth slot.sourcePlane / slot.texel.bytes,
      f.format.byteHeight slot.sourcePlane)
  /-- A row has the bytes of a stride, by its word. -/
  stride : plane.stride % UInt32.size = f.format.byteWidth slot.sourcePlane
  /-- There is a row. -/
  row : 0 < f.format.byteHeight slot.sourcePlane
  /-- The rows are there. -/
  rows : plane.stride * f.format.byteHeight slot.sourcePlane ≤ plane.data.size
  /-- Their bytes can be counted. -/
  counted : plane.stride * f.format.byteHeight slot.sourcePlane < UInt64.size

namespace Sound

variable {f : VideoFrame}

/-- **Every slot has a plane to be filled with.** -/
theorem exists_feeds (h : f.Sound) {i : Nat} {slot : SlotLayout}
    (hi : f.format.layout.slots[i]? = some slot) : ∃ plane, f.Feeds i slot plane := by
  obtain ⟨hslot, -, hrow, hplane⟩ := h.formed.slot hi
  obtain ⟨plane, hp⟩ : ∃ plane, f.planes[slot.sourcePlane]? = some plane := by
    rw [← h.length] at hplane
    exact ⟨_, List.getElem?_eq_getElem hplane⟩
  have hsize := List.getElem?_eq_getElem hplane
  have hfits := h.fits _ _ _ hsize hp
  refine ⟨plane, hp, hslot, ?_, hrow, ?_, ?_⟩
  · rw [VideoFormat.byteWidth_eq hsize]
    exact hfits.stride
  · rw [VideoFormat.byteHeight_eq hsize]
    exact hfits.rows
  · rw [VideoFormat.byteHeight_eq hsize]
    exact hfits.counted

/-- A frame of no type has no slot, and a frame of another type has one. -/
theorem isEmpty_iff (h : f.Sound) : f.isEmpty = true ↔ f.format.layout.slots = [] := by
  unfold isEmpty VideoFormat.layout
  rw [h.formed.isEmpty_iff, PixelType.layout_slots_eq_nil_iff]

/-- So a frame without a picture is one without slots. -/
theorem slots_isEmpty (h : f.Sound) : f.format.layout.slots.isEmpty = f.isEmpty := by
  rw [Bool.eq_iff_iff, List.isEmpty_iff, h.isEmpty_iff]

end Sound

end VideoFrame

end Projector
