import Projector.Frame.Snapshot
import Projector.Proofs.AllocateUpload
import Projector.Shader.Program

/-!
# What a program fetches

A picture is worked out twice from the bytes of a frame. A snapshot reads
the planes, and has the position of every byte written out for each type. A
fragment program knows nothing of planes. It reads components of texels,
and which texels there are follows from the table of pixel types, from what
was uploaded, and from how far apart the device was told that the rows are.

Both read the same bytes. The argument has two halves. A component of a
texel is a byte of the plane that the slot was filled with, at the texel's
place in the row and the component's place in the texel; this is one
statement for every slot, `Legible`. What is left is arithmetic of columns,
type by type: two columns of a packed row are one quadruple, and the column
of a chroma texel is half the column of the pixel.
-/

namespace Projector

/-! ## Components of a texel -/

namespace TexelFormat

/-- **At which byte of a texel a component is**, if the texel has it. -/
def offset? : TexelFormat → Channel → Option Nat
  | r8, .r => some 0
  | rg8, .r => some 0
  | rg8, .g => some 1
  | rgba8, .r => some 0
  | rgba8, .g => some 1
  | rgba8, .b => some 2
  | rgba8, .a => some 3
  | bgra8, .b => some 0
  | bgra8, .g => some 1
  | bgra8, .r => some 2
  | bgra8, .a => some 3
  | _, _ => none

/-- A component is within its texel. -/
theorem offset?_lt {texel : TexelFormat} {c : Channel} {offset : Nat}
    (h : texel.offset? c = some offset) : offset < texel.bytes := by
  cases texel <;> cases c <;> cases h <;> decide

end TexelFormat

namespace Recorder

/-- How far apart the rows of a texture are after a call, if `pitch` is
what was known before it. -/
def pitchAfter (t : TextureId) (pitch : Option Nat) : DeviceRecord → Option Nat
  | .writeTexture u _ bytesPerRow => if t = u then some bytesPerRow else pitch
  | _ => pitch

/-- **How many bytes apart the rows of a texture are**: as many as the last
write into it said. -/
def pitch? (d : Recorder) (t : TextureId) : Option Nat :=
  d.calls.toList.foldl (pitchAfter t) none

theorem pitch?_filled (d : Recorder) (t u : TextureId) (data : Bytes) (bytesPerRow : Nat) :
    (d.filled t data bytesPerRow).pitch? u = if u = t then some bytesPerRow else d.pitch? u := by
  unfold pitch? Recorder.filled record
  rw [Array.toList_push, List.foldl_append]
  rfl

/-- Textures that no write names keep their rows. -/
theorem pitch?_fillAll_of_not_mem {fills : List Fill} {t : TextureId}
    (h : t ∉ fills.map Fill.texture) (d : Recorder) : (d.fillAll fills).pitch? t = d.pitch? t := by
  induction fills generalizing d with
  | nil => rfl
  | cons x fills ih =>
    rw [List.map_cons, List.mem_cons, not_or] at h
    rw [fillAll_cons, ih h.2, pitch?_filled, if_neg h.1]

/-- **The rows of a texture are as far apart as its write says.** -/
theorem pitch?_fillAll {fills : List Fill} (h : (fills.map Fill.texture).Nodup) {x : Fill}
    (hx : x ∈ fills) (d : Recorder) : (d.fillAll fills).pitch? x.texture = some x.bytesPerRow := by
  induction fills generalizing d with
  | nil => cases hx
  | cons y fills ih =>
    rw [List.map_cons, List.nodup_cons] at h
    rw [fillAll_cons]
    obtain rfl | hx := List.mem_cons.1 hx
    · rw [pitch?_fillAll_of_not_mem h.1, pitch?_filled, if_pos rfl]
    · exact ih h.2 hx _

end Recorder

/-- **A byte of a row that is there.** -/
theorem FramePlane.byteAt_eq_ok {p : FramePlane} {rows x y : Nat} {value : UInt8}
    (hrows : p.stride * rows ≤ p.data.size) (counted : p.stride * rows < UInt64.size)
    (hx : x < p.stride) (hy : y < rows) (hvalue : p.data[y * p.stride + x]? = some value) :
    p.byteAt y x = .ok value := by
  have hnext : y * p.stride + p.stride ≤ p.stride * rows := by
    rw [Nat.mul_comm p.stride, ← Nat.succ_mul]
    exact Nat.mul_le_mul_right _ hy
  have start : Checked.fit64 (y * p.stride) = .ok (y * p.stride) :=
    Checked.fit64_eq_ok.2 ⟨by omega, rfl⟩
  have stop : Checked.fit64 (y * p.stride + p.stride) = .ok (y * p.stride + p.stride) :=
    Checked.fit64_eq_ok.2 ⟨by omega, rfl⟩
  unfold byteAt
  refine Checked.bind_eq_ok.2 ⟨_, start, Checked.bind_eq_ok.2 ⟨_, stop, ?_⟩⟩
  rw [if_neg (by omega), if_neg (by omega)]
  exact Bytes.at?_eq_ok.2 hvalue

/-- **The bytes of a sample.** -/
def Sample.components : Sample → UInt8 × UInt8 × UInt8
  | .yuv y u v => (y, u, v)
  | .rgb p => (p.red, p.green, p.blue)

namespace UploadEngine

open Recorder

variable {e : UploadEngine} {d : Recorder} {frame : VideoFrame}

/-- **A component of texel `x` of row `y` of slot `i`**, as it was written
into the texture. Outside the slot there is no texel. -/
def component? (e : UploadEngine) (d : Recorder) (i x y : Nat) (c : Channel) : Option UInt8 := do
  let slot ← e.slot? i
  let bytes ← d.contents.get? slot.id
  let pitch ← d.pitch? slot.id
  let offset ← slot.format.offset? c
  if x < slot.width ∧ y < slot.height then bytes[y * pitch + (x * slot.format.bytes + offset)]?
  else none

/-- **What a program fetches for the pixel in column `x` of row `y`**: luma
and the two differences, or red, green and blue. A chroma texel belongs to
two columns, and in the planar and semi-planar types to two rows as well. -/
def fetch? (e : UploadEngine) (d : Recorder) (sampling : Sampling) (x y : Nat) :
    Option (UInt8 × UInt8 × UInt8) :=
  let luma := sampling.lumaChannel
  let (blue, red) := sampling.chromaChannels
  match sampling with
  | .planar => do
    return (← e.component? d 0 x y luma, ← e.component? d 1 (x / 2) (y / 2) blue,
      ← e.component? d 2 (x / 2) (y / 2) red)
  | .semiPlanar _ => do
    return (← e.component? d 0 x y luma, ← e.component? d 1 (x / 2) (y / 2) blue,
      ← e.component? d 1 (x / 2) (y / 2) red)
  | .packed _ => do
    return (← e.component? d 0 x y luma, ← e.component? d 1 (x / 2) y blue,
      ← e.component? d 1 (x / 2) y red)
  | .rgb => do
    return (← e.component? d 0 x y .r, ← e.component? d 0 x y .g, ← e.component? d 0 x y .b)

/-- **The texels of a frame can be read**: in every slot the components of a
texel are those bytes of the source plane where the texel has its place. -/
def Legible (e : UploadEngine) (d : Recorder) (frame : VideoFrame) : Prop :=
  ∀ (i : Nat) layout, frame.format.layout.slots[i]? = some layout →
    ∃ plane, frame.planes[layout.sourcePlane]? = some plane ∧
      ∀ x y c offset position, layout.texel.offset? c = some offset →
        position = x * layout.texel.bytes + offset →
        x < frame.format.byteWidth layout.sourcePlane / layout.texel.bytes →
        y < frame.format.byteHeight layout.sourcePlane →
        ∃ value, plane.byteAt y position = .ok value ∧ e.component? d i x y c = some value

/-- **A frame that was uploaded can be read.** -/
theorem Uploaded.legible {s t : UploadEngine × Bench Recorder} (h : Uploaded frame s t)
    (stocked : s.1.Stocked s.2.device) (suits : s.1.Suits frame.format) (sound : frame.Sound)
    (narrow : frame.Narrow) : t.1.Legible t.2.device frame := by
  intro i layout hi
  obtain ⟨slot, plane, ready⟩ := stocked.exists_ready suits sound hi
  have feeds := ready.feeds
  refine ⟨plane, feeds.source, ?_⟩
  rintro x y c offset - hoffset rfl hx hy
  -- the device was told the stride, since the stride is a word
  have hstride : plane.stride % UInt32.size = plane.stride :=
    Nat.mod_eq_of_lt (narrow plane (List.mem_of_getElem? feeds.source))
  have hwidth : plane.stride = frame.format.byteWidth layout.sourcePlane :=
    hstride.symm.trans feeds.stride
  have hcolumn : x * layout.texel.bytes + offset < plane.stride := by
    have hlt := TexelFormat.offset?_lt hoffset
    calc x * layout.texel.bytes + offset < (x + 1) * layout.texel.bytes := by
          rw [Nat.succ_mul]
          omega
      _ ≤ plane.stride / layout.texel.bytes * layout.texel.bytes :=
          Nat.mul_le_mul_right _ (hwidth ▸ hx)
      _ ≤ plane.stride := Nat.div_mul_le_self _ _
  have hposition : y * plane.stride + (x * layout.texel.bytes + offset) <
      plane.stride * frame.format.byteHeight layout.sourcePlane :=
    Raster.position_lt hcolumn hy
  obtain ⟨value, hvalue⟩ : ∃ value,
      plane.data[y * plane.stride + (x * layout.texel.bytes + offset)]? = some value :=
    ⟨_, Array.getElem?_eq_getElem (Nat.lt_of_lt_of_le hposition feeds.rows)⟩
  refine ⟨value, FramePlane.byteAt_eq_ok feeds.rows feeds.counted hcolumn hy hvalue, ?_⟩
  have hknown : t.1.slot? i = some slot := by
    rw [h.engine]
    exact ready.known
  have hcontents : t.2.device.contents.get? slot.id =
      some (plane.data.extract 0 (plane.stride * frame.format.byteHeight layout.sourcePlane)) := by
    rw [h.device, stocked.contents_fills ready hi, ready.height]
  have hpitch : t.2.device.pitch? slot.id = some plane.stride := by
    rw [h.device, ← hstride]
    exact pitch?_fillAll (stocked.fillsFrom_nodup _ _ _) (ready.mem_fills hi) _
  -- the position is among the bytes that were written
  have hwritten : (plane.data.extract 0 (plane.stride *
      frame.format.byteHeight layout.sourcePlane))[y * plane.stride +
        (x * layout.texel.bytes + offset)]? = some value := by
    rw [Array.getElem?_extract, Nat.zero_add, Nat.min_eq_left feeds.rows, if_pos (by omega)]
    exact hvalue
  unfold component?
  simp only [hknown, hcontents, hpitch, ready.texel, hoffset, ready.width, ready.height,
    Option.bind_eq_bind, Option.bind_some]
  rw [if_pos ⟨hx, hy⟩]
  exact hwritten

/-- **A column of a packed row** is one of the two that its quadruple holds,
by its parity. -/
theorem byteAt_column {p : FramePlane} {x y offset : Nat} {even odd value : UInt8}
    (heven : p.byteAt y (x / 2 * 4 + offset) = .ok even)
    (hodd : p.byteAt y (x / 2 * 4 + (offset + 2)) = .ok odd)
    (hvalue : p.byteAt y (x * 2 + offset) = .ok value) :
    value = if x % 2 = 0 then even else odd := by
  split
  · next h =>
    rw [show x * 2 = x / 2 * 4 by omega, heven] at hvalue
    exact (Except.ok.inj hvalue).symm
  · next h =>
    rw [show x * 2 + offset = x / 2 * 4 + (offset + 2) by omega, hodd] at hvalue
    exact (Except.ok.inj hvalue).symm

/-- **Whether a pixel is fetched as it is sampled.** -/
def Agrees (e : UploadEngine) (d : Recorder) (frame : VideoFrame) (x y : Nat) : Prop :=
  ∃ sample, frame.sampleAt x y = .ok sample ∧
    e.fetch? d frame.format.layout.sampling x y = some sample.components

section Types

variable {x y : Nat} (h : e.Legible d frame) (formed : frame.format.Formed)
  (picture : frame.isEmpty = false) (hx : x < frame.format.width) (hy : y < frame.format.height)
include h formed picture hx hy

/-- A byte of each plane. -/
theorem Legible.agrees_planar (type : frame.format.pixelType = .i420) : e.Agrees d frame x y := by
  obtain ⟨-, sizes, hs, covers⟩ := formed.covers picture
  obtain ⟨⟨_, width, height, _⟩, planes⟩ := frame
  cases type
  cases hs
  obtain ⟨w₀, h₀⟩ := covers 0 _ _ rfl
  obtain ⟨w₁, h₁⟩ := covers 1 _ _ rfl
  obtain ⟨w₂, h₂⟩ := covers 2 _ _ rfl
  obtain ⟨p₀, hp₀, read₀⟩ := h 0 _ rfl
  obtain ⟨p₁, hp₁, read₁⟩ := h 1 _ rfl
  obtain ⟨p₂, hp₂, read₂⟩ := h 2 _ rfl
  dsimp only [TexelFormat.bytes] at *
  obtain ⟨luma, bluma, cluma⟩ := read₀ x y .r 0 x rfl (by omega) (by omega) (by omega)
  obtain ⟨blue, bblue, cblue⟩ :=
    read₁ (x / 2) (y / 2) .r 0 (x / 2) rfl (by omega) (by omega) (by omega)
  obtain ⟨red, bred, cred⟩ :=
    read₂ (x / 2) (y / 2) .r 0 (x / 2) rfl (by omega) (by omega) (by omega)
  refine ⟨.yuv luma blue red, ?_, ?_⟩
  · unfold VideoFrame.sampleAt VideoFrame.plane
    simp only [VideoFrame.pixelType, hp₀, hp₁, hp₂, bind, Except.bind, bluma, bblue, bred]
    rfl
  · change e.fetch? d .planar x y = _
    unfold fetch?
    simp only [Sampling.lumaChannel, Sampling.chromaChannels, cluma, cblue, cred]
    rfl

/-- A byte of luma, and both of a pair of chroma. -/
theorem Legible.agrees_semiPlanar
    (type : frame.format.pixelType = .nv12 ∨ frame.format.pixelType = .nv21) :
    e.Agrees d frame x y := by
  obtain ⟨-, sizes, hs, covers⟩ := formed.covers picture
  obtain ⟨⟨_, width, height, _⟩, planes⟩ := frame
  -- the types differ in which byte of the pair is which, and nowhere else
  cases type
  all_goals
    next type =>
    cases type
    simp only [PixelType.planeSizes, Checked.bind_eq_ok, Checked.fit32_eq_ok] at hs
    obtain ⟨row, ⟨-, rfl⟩, hs⟩ := hs
    cases hs
    obtain ⟨w₀, h₀⟩ := covers 0 _ _ rfl
    obtain ⟨w₁, h₁⟩ := covers 1 _ _ rfl
    obtain ⟨p₀, hp₀, read₀⟩ := h 0 _ rfl
    obtain ⟨p₁, hp₁, read₁⟩ := h 1 _ rfl
    dsimp only [TexelFormat.bytes] at *
    obtain ⟨luma, bluma, cluma⟩ := read₀ x y .r 0 x rfl (by omega) (by omega) (by omega)
    obtain ⟨first, bfirst, cfirst⟩ :=
      read₁ (x / 2) (y / 2) .r 0 (x / 2 * 2) rfl (by omega) (by omega) (by omega)
    obtain ⟨second, bsecond, csecond⟩ :=
      read₁ (x / 2) (y / 2) .g 1 (x / 2 * 2 + 1) rfl (by omega) (by omega) (by omega)
    constructor
    constructor
    · unfold VideoFrame.sampleAt VideoFrame.plane
      simp only [VideoFrame.pixelType, hp₀, hp₁, bind, Except.bind, bluma, bfirst, bsecond]
      rfl
    · change e.fetch? d (.semiPlanar _) x y = _
      unfold fetch?
      simp only [Sampling.lumaChannel, Sampling.chromaChannels, cluma, cfirst, csecond]
      rfl

/-- Luma from the plane as pairs, and chroma from the plane as quadruples. -/
theorem Legible.agrees_packed
    (type : frame.format.pixelType = .yuy2 ∨ frame.format.pixelType = .uyvy) :
    e.Agrees d frame x y := by
  obtain ⟨-, sizes, hs, covers⟩ := formed.covers picture
  obtain ⟨⟨_, width, height, _⟩, planes⟩ := frame
  -- the types differ in which bytes of the quadruple are luma
  cases type
  all_goals
    next type =>
    cases type
    simp only [PixelType.planeSizes, Checked.bind_eq_ok, Checked.fit32_eq_ok] at hs
    obtain ⟨row, ⟨-, rfl⟩, hs⟩ := hs
    cases hs
    obtain ⟨w₀, h₀⟩ := covers 0 _ _ rfl
    obtain ⟨p, hp, pairs⟩ := h 0 _ rfl
    obtain ⟨p', hp', quads⟩ := h 1 _ rfl
    cases hp.symm.trans hp'
    dsimp only [TexelFormat.bytes] at *
    obtain ⟨v₀, b₀, c₀⟩ := quads (x / 2) y .r _ _ rfl rfl (by omega) (by omega)
    obtain ⟨v₁, b₁, c₁⟩ := quads (x / 2) y .g _ _ rfl rfl (by omega) (by omega)
    obtain ⟨v₂, b₂, c₂⟩ := quads (x / 2) y .b _ _ rfl rfl (by omega) (by omega)
    obtain ⟨v₃, b₃, c₃⟩ := quads (x / 2) y .a _ _ rfl rfl (by omega) (by omega)
    obtain ⟨first, bfirst, cfirst⟩ := pairs x y .r _ _ rfl rfl (by omega) (by omega)
    obtain ⟨second, bsecond, csecond⟩ := pairs x y .g _ _ rfl rfl (by omega) (by omega)
    have first_eq := byteAt_column b₀ b₂ bfirst
    have second_eq := byteAt_column b₁ b₃ bsecond
    rw [Nat.add_zero] at b₀
    constructor
    constructor
    · unfold VideoFrame.sampleAt VideoFrame.plane FramePlane.quadAt
      simp only [VideoFrame.pixelType, hp, bind, Except.bind, b₀, b₁, b₂, b₃]
      rfl
    · change e.fetch? d (.packed _) x y = _
      unfold fetch?
      simp only [Sampling.lumaChannel, Sampling.chromaChannels, cfirst, csecond, first_eq,
        second_eq, c₀, c₁, c₂, c₃]
      rfl

/-- Three bytes of a quadruple. -/
theorem Legible.agrees_rgb
    (type : frame.format.pixelType = .rgba ∨ frame.format.pixelType = .bgra) :
    e.Agrees d frame x y := by
  obtain ⟨-, sizes, hs, covers⟩ := formed.covers picture
  obtain ⟨⟨_, width, height, _⟩, planes⟩ := frame
  -- the types differ in the order of the bytes, which is that of the texels
  cases type
  all_goals
    next type =>
    cases type
    simp only [PixelType.planeSizes, Checked.bind_eq_ok, Checked.fit32_eq_ok] at hs
    obtain ⟨row, ⟨-, rfl⟩, hs⟩ := hs
    cases hs
    obtain ⟨w₀, h₀⟩ := covers 0 _ _ rfl
    obtain ⟨p, hp, quads⟩ := h 0 _ rfl
    dsimp only [TexelFormat.bytes] at *
    obtain ⟨red, bred, cred⟩ := quads x y .r _ _ rfl rfl (by omega) (by omega)
    obtain ⟨green, bgreen, cgreen⟩ := quads x y .g _ _ rfl rfl (by omega) (by omega)
    obtain ⟨blue, bblue, cblue⟩ := quads x y .b _ _ rfl rfl (by omega) (by omega)
    obtain ⟨alpha, balpha, -⟩ := quads x y .a _ _ rfl rfl (by omega) (by omega)
    simp only [Nat.add_zero] at bred bblue
    constructor
    constructor
    · unfold VideoFrame.sampleAt VideoFrame.plane FramePlane.quadAt
      simp only [VideoFrame.pixelType, hp, bind, Except.bind, bred, bgreen, bblue, balpha]
      rfl
    · change e.fetch? d .rgb x y = _
      unfold fetch?
      simp only [cred, cgreen, cblue]
      rfl

/-- **What can be read is what a snapshot reads.** -/
theorem Legible.agrees : e.Agrees d frame x y := by
  cases type : frame.format.pixelType with
  | empty => exact nomatch picture.symm.trans (formed.isEmpty_iff.2 type)
  | i420 => exact h.agrees_planar formed picture hx hy type
  | nv12 => exact h.agrees_semiPlanar formed picture hx hy (.inl type)
  | nv21 => exact h.agrees_semiPlanar formed picture hx hy (.inr type)
  | yuy2 => exact h.agrees_packed formed picture hx hy (.inl type)
  | uyvy => exact h.agrees_packed formed picture hx hy (.inr type)
  | rgba => exact h.agrees_rgb formed picture hx hy (.inl type)
  | bgra => exact h.agrees_rgb formed picture hx hy (.inr type)

end Types

end UploadEngine

end Projector
