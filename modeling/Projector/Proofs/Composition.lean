import Mathlib.Algebra.Group.Nat.Defs
import Mathlib.Data.List.Forall2
import Projector.Overlay.Canvas
import Projector.Proofs.Unseen

/-!
# What is on a canvas

A canvas is composed of bitmaps from outside, and these may be wrong about
anything: where they are, how large they are, and which bytes they have. A
bitmap is `WellFormed` if it holds its rows, and only then it has a picture.
On the canvas each pixel goes its own way: it is what the well-formed bitmaps
that cover it have there, laid over each other in order (`OsdImage.painted`).
Everything that is on a canvas is read off this, and so is what is not: the
bytes that pad a row, and whatever malformed bitmaps hold.

Skipping a malformed bitmap takes a look at its buffer, and before that look
the bytes that its rows need are counted in a word. They may be more than a
word can count. Such a bitmap `Overruns`. No buffer is that long, so it is
malformed like any other that is too short for its rows, but it is not
skipped. Composing ends there, and no canvas comes of it.
-/

namespace Projector

/-! ## Bitmaps -/

namespace SubtitleBitmap

variable (b : SubtitleBitmap)

/-- **Whether a bitmap holds its rows.** The last one may end with its last
pixel. -/
structure WellFormed : Prop where
  /-- There are columns, -/
  columns : 0 < b.width
  /-- and rows. -/
  rows : 0 < b.height
  /-- The pixels of a row are within the row, -/
  row : b.width * 4 ≤ b.stride
  /-- and every row is there. -/
  held : b.stride * (b.height - 1) + b.width * 4 ≤ b.rgba.size

/-- **Whether the bytes that the rows need are more than can be counted.** -/
structure Overruns : Prop where
  /-- There are columns, -/
  columns : 0 < b.width
  /-- and rows. -/
  rows : 0 < b.height
  /-- The pixels of a row are within the row. -/
  row : b.width * 4 ≤ b.stride
  /-- The bytes are no word. -/
  many : UInt64.size ≤ b.stride * (b.height - 1) + b.width * 4

variable {b}

theorem wellFormed_iff : b.WellFormed ↔ 0 < b.width ∧ 0 < b.height ∧ b.width * 4 ≤ b.stride ∧
    b.stride * (b.height - 1) + b.width * 4 ≤ b.rgba.size :=
  ⟨fun ⟨columns, rows, row, held⟩ => ⟨columns, rows, row, held⟩,
    fun ⟨columns, rows, row, held⟩ => ⟨columns, rows, row, held⟩⟩

theorem overruns_iff : b.Overruns ↔ 0 < b.width ∧ 0 < b.height ∧ b.width * 4 ≤ b.stride ∧
    UInt64.size ≤ b.stride * (b.height - 1) + b.width * 4 :=
  ⟨fun ⟨columns, rows, row, many⟩ => ⟨columns, rows, row, many⟩,
    fun ⟨columns, rows, row, many⟩ => ⟨columns, rows, row, many⟩⟩

instance : DecidablePred WellFormed := fun _ => decidable_of_iff' _ wellFormed_iff

instance : DecidablePred Overruns := fun _ => decidable_of_iff' _ overruns_iff

/-- **A buffer that there can be is too short** for bytes that cannot be
counted. -/
theorem Overruns.not_wellFormed (h : b.Overruns) (buffer : b.rgba.size < UInt64.size) :
    ¬ b.WellFormed := by
  intro formed
  have many := h.many
  have held := formed.held
  omega

/-- The bytes of all rows, padding included, are at least those that the rows
need. -/
theorem not_overruns_of_lt (counted : b.stride * b.height < UInt64.size) : ¬ b.Overruns := by
  intro h
  have many := h.many
  have row := h.row
  obtain ⟨n, e⟩ := Nat.exists_eq_succ_of_ne_zero (Nat.ne_of_gt h.rows)
  rw [e, Nat.succ_sub_one] at many
  rw [e, Nat.mul_succ] at counted
  omega

variable (b)

/-- **The picture of a bitmap** that holds its rows. -/
def picture : Image :=
  Raster.ofFn b.width b.height fun x y => Image.pixelAt b.rgba (y * b.stride + x * 4)

theorem neededBytes_eq : b.neededBytes =
    if b.stride * (b.height - 1) + b.width * 4 < UInt64.size then
      .ok (b.stride * (b.height - 1) + b.width * 4)
    else .error .overflow := by
  unfold neededBytes Checked.fit64
  by_cases rows : b.stride * (b.height - 1) < UInt64.size
  · rw [if_pos rows]
    rfl
  · rw [if_neg rows, if_neg (by omega)]
    rfl

/-- **A bitmap has a picture if it is well-formed**, and there is a fault if
its bytes cannot be counted. -/
theorem toImage?_eq : b.toImage? =
    if b.Overruns then .error .overflow
    else .ok (if b.WellFormed then some b.picture else none) := by
  unfold toImage?
  by_cases shape : b.width = 0 ∨ b.height = 0 ∨ b.stride < b.width * 4
  · have malformed : ¬ b.WellFormed := fun ⟨columns, rows, row, _⟩ => by omega
    have counted : ¬ b.Overruns := fun ⟨columns, rows, row, _⟩ => by omega
    rw [if_pos shape, if_neg counted, if_neg malformed]
    rfl
  rw [if_neg shape, neededBytes_eq]
  by_cases counted : b.stride * (b.height - 1) + b.width * 4 < UInt64.size
  · have fits : ¬ b.Overruns := fun ⟨_, _, _, many⟩ => by omega
    rw [if_pos counted, if_neg fits]
    by_cases short : b.rgba.size < b.stride * (b.height - 1) + b.width * 4
    · have malformed : ¬ b.WellFormed := fun ⟨_, _, _, held⟩ => by omega
      rw [if_neg malformed]
      exact if_pos short
    · have formed : b.WellFormed := ⟨by omega, by omega, by omega, by omega⟩
      rw [if_pos formed]
      exact if_neg short
  · have overruns : b.Overruns := ⟨by omega, by omega, by omega, by omega⟩
    rw [if_neg counted, if_pos overruns]
    rfl

/-! ## Where a bitmap is -/

/-- **Whether a bitmap has a pixel** for column `px` and row `py` of the
canvas. -/
def Covers (px py : Nat) : Prop :=
  b.x ≤ px ∧ px < b.x + b.width ∧ b.y ≤ py ∧ py < b.y + b.height

instance (px py : Nat) : Decidable (b.Covers px py) := inferInstanceAs (Decidable (_ ∧ _))

/-- **Where the bytes of that pixel begin.** -/
def position (px py : Nat) : Nat := (py - b.y).toNat * b.stride + (px - b.x).toNat * 4

/-- **That pixel.** -/
def pixelOver (px py : Nat) : Pixel := Image.pixelAt b.rgba (b.position px py)

variable {b} {px py : Nat}

/-- **A pixel that is read is there**, with its four bytes. -/
theorem WellFormed.position_le (h : b.WellFormed) (covers : b.Covers px py) :
    b.position px py + 4 ≤ b.rgba.size := by
  obtain ⟨left, right, top, bottom⟩ := covers
  have column : (px - b.x).toNat + 1 ≤ b.width := by omega
  have row : (py - b.y).toNat ≤ b.height - 1 := by omega
  have above : (py - b.y).toNat * b.stride ≤ b.stride * (b.height - 1) := by
    rw [Nat.mul_comm]
    exact Nat.mul_le_mul_left b.stride row
  have held := h.held
  unfold position
  omega

theorem atInt?_picture : b.picture.atInt? (px - b.x) (py - b.y) =
    if b.Covers px py then some (b.pixelOver px py) else none := by
  unfold Image.atInt? picture
  rw [Raster.get?_ofFn]
  by_cases covers : b.Covers px py
  · obtain ⟨left, right, top, bottom⟩ := covers
    rw [if_pos (by omega), if_pos (by omega), if_pos ⟨left, right, top, bottom⟩]
    rfl
  · rw [if_neg covers]
    unfold Covers at covers
    split
    · exact if_neg (by omega)
    · rfl

/-! ## What is seen of a bitmap -/

/-- **Whether two bitmaps look the same**: their rows have the same pixels,
whatever pads them. -/
structure LooksLike (b b' : SubtitleBitmap) : Prop where
  /-- They are in the same column, -/
  x : b.x = b'.x
  /-- and in the same row. -/
  y : b.y = b'.y
  /-- They are as wide, -/
  width : b.width = b'.width
  /-- and as high. -/
  height : b.height = b'.height
  /-- The bytes of their pixels are the same. -/
  byte (row column : Nat) : row < b.height → column < b.width * 4 →
    b.rgba[row * b.stride + column]? = b'.rgba[row * b'.stride + column]?

theorem LooksLike.picture_eq {b b' : SubtitleBitmap} (h : b.LooksLike b') :
    b.picture = b'.picture := by
  unfold picture
  rw [← h.width, ← h.height]
  refine Raster.ofFn_congr fun x y hx hy => ?_
  have byte (i : Nat) (hi : i < 4) :
      b.rgba[y * b.stride + x * 4 + i]? = b'.rgba[y * b'.stride + x * 4 + i]? := by
    rw [Nat.add_assoc, Nat.add_assoc]
    exact h.byte y (x * 4 + i) hy (by omega)
  unfold Image.pixelAt
  simp only [byte 0, byte 1, byte 2, byte 3, Nat.lt_add_one, Nat.reduceLT]

end SubtitleBitmap

/-! ## Canvases -/

namespace OsdImage

open SubtitleBitmap

/-- A canvas with the picture of one more bitmap over it. -/
def lay (o : OsdImage) (b : SubtitleBitmap) : OsdImage :=
  ⟨o.canvas.overlay b.picture b.x b.y, false⟩

/-- **A canvas with the well-formed ones of some bitmaps over it**, in order. -/
def layAll (o : OsdImage) (bs : List SubtitleBitmap) : OsdImage :=
  (bs.filter fun b => b.WellFormed).foldl lay o

/-- What is reported of the others. -/
def reports (bs : List SubtitleBitmap) : List LogEvent :=
  (bs.filter fun b => ¬ b.WellFormed).map fun b => .malformedBitmap b.width b.height b.rgba.size

/-- The canvas before there is anything on it. -/
def bare (width height : Nat) : OsdImage := ⟨.ofFn width height fun _ _ => .transparent, true⟩

/-- **One pixel of a canvas**: the pixels that well-formed bitmaps have there,
laid over each other in order. -/
def painted (bs : List SubtitleBitmap) (px py : Nat) : Pixel :=
  (bs.filter fun b => b.WellFormed ∧ b.Covers px py).foldl
    (fun below b => (b.pixelOver px py).blendOver below) .transparent

variable {o : OsdImage} {bs : List SubtitleBitmap}

/-! ### Bitmap by bitmap -/

theorem layAll_cons (o : OsdImage) (b : SubtitleBitmap) (bs : List SubtitleBitmap) :
    o.layAll (b :: bs) = (if b.WellFormed then o.lay b else o).layAll bs := by
  unfold layAll
  by_cases formed : b.WellFormed
  · rw [List.filter_cons_of_pos (by simpa using formed), if_pos formed, List.foldl_cons]
  · rw [List.filter_cons_of_neg (by simpa using formed), if_neg formed]

theorem reports_cons (b : SubtitleBitmap) (bs : List SubtitleBitmap) : reports (b :: bs) =
    (if b.WellFormed then [] else [.malformedBitmap b.width b.height b.rgba.size]) ++
      reports bs := by
  unfold reports
  by_cases formed : b.WellFormed
  · rw [List.filter_cons_of_neg (by simpa using formed), if_pos formed, List.nil_append]
  · rw [List.filter_cons_of_pos (by simpa using formed), if_neg formed, List.map_cons]
    rfl

theorem addBitmap_eq (o : OsdImage) (b : SubtitleBitmap) : o.addBitmap b =
    if b.Overruns then .error .overflow
    else .ok (if b.WellFormed then o.lay b else o,
      if b.WellFormed then [] else [.malformedBitmap b.width b.height b.rgba.size]) := by
  unfold addBitmap
  rw [toImage?_eq]
  by_cases overruns : b.Overruns
  · rw [if_pos overruns, if_pos overruns]
    rfl
  · rw [if_neg overruns, if_neg overruns]
    by_cases formed : b.WellFormed
    · rw [if_pos formed, if_pos formed, if_pos formed]
      rfl
    · rw [if_neg formed, if_neg formed, if_neg formed]
      rfl

/-- **All well-formed bitmaps are laid over a canvas**, and the others are
reported, unless the bytes of one of them cannot be counted. -/
theorem addBitmaps_eq (o : OsdImage) (bs : List SubtitleBitmap) : o.addBitmaps bs =
    if ∀ b ∈ bs, ¬ b.Overruns then .ok (o.layAll bs, reports bs) else .error .overflow := by
  induction bs generalizing o with
  | nil =>
    rw [if_pos (List.forall_mem_nil _)]
    rfl
  | cons b bs ih =>
    rw [addBitmaps, addBitmap_eq]
    by_cases overruns : b.Overruns
    · rw [if_pos overruns, if_neg fun none => none b List.mem_cons_self overruns]
      rfl
    rw [if_neg overruns]
    show Except.bind ((if b.WellFormed then o.lay b else o).addBitmaps bs) _ = _
    rw [ih]
    by_cases counted : ∀ b ∈ bs, ¬ b.Overruns
    · have all : ∀ c ∈ b :: bs, ¬ c.Overruns := by
        rw [List.forall_mem_cons]
        exact ⟨overruns, counted⟩
      rw [if_pos counted, if_pos all, layAll_cons, reports_cons]
      rfl
    · have uncounted : ¬ ∀ c ∈ b :: bs, ¬ c.Overruns := fun all =>
        counted fun c mem => all c (List.mem_cons_of_mem b mem)
      rw [if_neg counted, if_neg uncounted]
      rfl

/-- **A canvas is composed** if its own bytes can be addressed, and the bytes
of every bitmap can be counted. -/
theorem compose_eq_ok_iff {width height : Nat} {out : OsdImage × List LogEvent} :
    compose width height bs = .ok out ↔ width * height * 4 < UInt64.size / 2 ∧
      (∀ b ∈ bs, ¬ b.Overruns) ∧ out = ((bare width height).layAll bs, reports bs) := by
  unfold compose Image.transparent
  rw [Checked.bind_eq_ok]
  constructor
  · rintro ⟨canvas, made, e⟩
    obtain ⟨_, addressable, made⟩ := Checked.bind_eq_ok.1 made
    cases made
    rw [addBitmaps_eq] at e
    split at e
    · next counted =>
      exact ⟨(Checked.addressable_eq_ok.1 addressable).1, counted, (Except.ok.inj e).symm⟩
    · cases e
  · rintro ⟨addressable, counted, rfl⟩
    refine ⟨_, Checked.bind_eq_ok.2 ⟨_, Checked.addressable_eq_ok.2 ⟨addressable, rfl⟩, rfl⟩, ?_⟩
    rw [addBitmaps_eq, if_pos counted]
    rfl

/-! ### Pixel by pixel -/

/-- **One picture over a canvas**: a pixel that it covers is blended, and every
other one stays. -/
theorem get?_lay (o : OsdImage) (b : SubtitleBitmap) (px py : Nat) :
    (o.lay b).canvas.get? px py = (o.canvas.get? px py).map fun below =>
      if b.Covers px py then (b.pixelOver px py).blendOver below else below := by
  unfold lay Image.overlay
  dsimp only
  rw [Raster.get?_ofFn, atInt?_picture]
  by_cases inside : px < o.canvas.width ∧ py < o.canvas.height
  · obtain ⟨below, found⟩ := Option.isSome_iff_exists.1 (Raster.get?_isSome inside.1 inside.2)
    unfold Raster.getD
    rw [if_pos inside, found]
    by_cases covers : b.Covers px py
    · simp [covers]
    · simp [covers]
  · rw [if_neg inside, Raster.get?_eq_none inside]
    rfl

/-- **All pictures over a canvas**, at one pixel. -/
theorem get?_layAll (o : OsdImage) (bs : List SubtitleBitmap) (px py : Nat) :
    (o.layAll bs).canvas.get? px py = (o.canvas.get? px py).map fun below =>
      (bs.filter fun b => b.WellFormed ∧ b.Covers px py).foldl
        (fun below b => (b.pixelOver px py).blendOver below) below := by
  induction bs generalizing o with
  | nil => exact Option.map_id'.symm
  | cons b bs ih =>
    rw [layAll_cons, ih]
    by_cases formed : b.WellFormed
    · rw [if_pos formed, get?_lay, Option.map_map]
      congr 1
      funext below
      by_cases covers : b.Covers px py
      · simp [formed, covers]
      · simp [formed, covers]
    · simp [formed]

theorem get?_bare {width height px py : Nat} (hx : px < width) (hy : py < height) :
    (bare width height).canvas.get? px py = some .transparent := by
  unfold bare
  rw [Raster.get?_ofFn, if_pos ⟨hx, hy⟩]

/-- A canvas keeps its size. -/
theorem size_layAll (o : OsdImage) (bs : List SubtitleBitmap) :
    (o.layAll bs).width = o.width ∧ (o.layAll bs).height = o.height := by
  induction bs generalizing o with
  | nil => exact ⟨rfl, rfl⟩
  | cons b bs ih =>
    rw [layAll_cons]
    split
    · exact ih (o.lay b)
    · exact ih o

/-- **A canvas has the size that it was composed for.** -/
theorem size_compose {width height : Nat} {canvas : OsdImage} {skipped : List LogEvent}
    (e : compose width height bs = .ok (canvas, skipped)) :
    canvas.width = width ∧ canvas.height = height := by
  obtain ⟨-, -, e⟩ := compose_eq_ok_iff.1 e
  cases e
  exact size_layAll _ _

/-! ### What makes no difference -/

/-- **Malformed bitmaps make no difference**: a list may be rid of any of them. -/
theorem layAll_filter {p : SubtitleBitmap → Bool} (kept : ∀ b ∈ bs, b.WellFormed → p b = true)
    (o : OsdImage) : o.layAll (bs.filter p) = o.layAll bs := by
  unfold layAll
  rw [List.filter_filter]
  congr 1
  refine List.filter_congr fun b mem => ?_
  by_cases formed : b.WellFormed
  · rw [kept b mem formed, Bool.and_true]
  · rw [decide_eq_false formed, Bool.false_and]

/-- **What looks the same makes no difference.** -/
theorem layAll_congr {bs' : List SubtitleBitmap}
    (alike : (bs.filter fun b => b.WellFormed).Forall₂ LooksLike
      (bs'.filter fun b => b.WellFormed)) (o : OsdImage) : o.layAll bs = o.layAll bs' := by
  unfold layAll
  generalize bs.filter _ = formed at alike ⊢
  generalize bs'.filter _ = formed' at alike ⊢
  induction alike generalizing o with
  | nil => rfl
  | @cons b b' _ _ same _ ih =>
    have lays : o.lay b = o.lay b' := by
      unfold lay
      rw [same.picture_eq, same.x, same.y]
    rw [List.foldl_cons, List.foldl_cons, lays]
    exact ih _

/-! ### Blank canvases -/

/-- **A canvas stays blank** if none of the bitmaps is well-formed. -/
theorem blank_layAll (o : OsdImage) (bs : List SubtitleBitmap) :
    (o.layAll bs).blank = true ↔ o.blank = true ∧ ∀ b ∈ bs, ¬ b.WellFormed := by
  induction bs generalizing o with
  | nil => exact (and_iff_left (List.forall_mem_nil _)).symm
  | cons b bs ih =>
    rw [layAll_cons, ih, List.forall_mem_cons]
    by_cases formed : b.WellFormed
    · simp [formed, lay]
    · simp [formed]

/-- Nothing is on a blank canvas. -/
theorem layAll_of_blank (h : (o.layAll bs).blank = true) : o.layAll bs = o := by
  have none : bs.filter (fun b => b.WellFormed) = [] := by
    rw [List.filter_eq_nil_iff]
    simpa using ((blank_layAll o bs).1 h).2
  unfold layAll
  rw [none]
  rfl

theorem bytes_bare (width height : Nat) : ∀ byte ∈ (bare width height).canvas.bytes, byte = 0 := by
  intro byte mem
  unfold Image.bytes at mem
  rw [Array.mem_flatMap] at mem
  obtain ⟨p, hp, mem⟩ := mem
  obtain ⟨i, hi, e⟩ := Array.mem_iff_getElem.1 hp
  have clear : p = .transparent := by
    rw [← e]
    exact Array.getElem_ofFn ..
  rw [clear] at mem
  simpa [Pixel.bytes, Pixel.transparent] using mem

/-- **A canvas that cannot be seen leaves a picture**, stretched or not. -/
theorem drawOnto_of_unseen (h : o.canvas.Unseen) (target : Image) : o.drawOnto target = target := by
  unfold drawOnto
  split
  · rfl
  · split
    · exact h.overlay_eq target 0 0
    · exact (h.resize target.width target.height).overlay_eq target 0 0

/-! ### Composing -/

/-- **Composition is pointwise.** If the bytes of all rows of each bitmap can be
counted, a bitmap has a picture if it is well-formed, and a canvas is composed
for every size whose bytes can be addressed. Its pixels are the ones that are
painted: what well-formed bitmaps have there, with all their bytes, laid over
each other in order. Other bitmaps that look like these, padded otherwise and
among other malformed ones, make the same canvas. One that is called blank has
bytes of zero only, and a picture is the same whether it is drawn over it or
not. -/
theorem compose_pointwise (width height : Nat) {bitmaps : List SubtitleBitmap}
    (counted : ∀ b ∈ bitmaps, b.stride * b.height < UInt64.size) :
    (∀ b ∈ bitmaps, b.toImage? = .ok (if b.WellFormed then some b.picture else none)) ∧
    ((∃ canvas skipped, compose width height bitmaps = .ok (canvas, skipped)) ↔
      width * height * 4 < UInt64.size / 2) ∧
    ∀ canvas skipped, compose width height bitmaps = .ok (canvas, skipped) →
      (canvas.width = width ∧ canvas.height = height ∧
        ∀ px py, px < width → py < height →
          canvas.canvas.get? px py = some (painted bitmaps px py) ∧
            ∀ b ∈ bitmaps, b.WellFormed → b.Covers px py → b.position px py + 4 ≤ b.rgba.size) ∧
      (∀ bitmaps', (∀ b ∈ bitmaps', b.stride * b.height < UInt64.size) →
        (bitmaps.filter fun b => b.WellFormed).Forall₂ LooksLike
          (bitmaps'.filter fun b => b.WellFormed) →
        ∃ skipped', compose width height bitmaps' = .ok (canvas, skipped')) ∧
      (canvas.blank = true → (∀ byte ∈ canvas.canvas.bytes, byte = 0) ∧
        ∀ target, canvas.drawOnto target = target ∧
          drawOnto { canvas with blank := false } target = target) := by
  have fits {bs : List SubtitleBitmap} (counted : ∀ b ∈ bs, b.stride * b.height < UInt64.size) :
      ∀ b ∈ bs, ¬ b.Overruns := fun b mem => not_overruns_of_lt (counted b mem)
  refine ⟨fun b mem => ?_, ⟨fun ⟨canvas, skipped, e⟩ => (compose_eq_ok_iff.1 e).1,
    fun addressable => ⟨_, _, compose_eq_ok_iff.2 ⟨addressable, fits counted, rfl⟩⟩⟩,
    fun canvas skipped e => ?_⟩
  · rw [toImage?_eq, if_neg (fits counted b mem)]
  obtain ⟨across, down⟩ := size_compose e
  obtain ⟨addressable, -, e⟩ := compose_eq_ok_iff.1 e
  cases e
  refine ⟨⟨across, down, fun px py hx hy => ⟨?_, ?_⟩⟩, ?_, ?_⟩
  · rw [get?_layAll, get?_bare hx hy]
    rfl
  · exact fun b _ formed covers => formed.position_le covers
  · intro bitmaps' counted' alike
    rw [layAll_congr alike]
    exact ⟨_, compose_eq_ok_iff.2 ⟨addressable, fits counted', rfl⟩⟩
  · intro blank
    rw [layAll_of_blank blank]
    refine ⟨bytes_bare width height, fun target => ⟨?_, ?_⟩⟩
    · exact drawOnto_of_unseen (Image.unseen_ofFn width height) target
    · exact drawOnto_of_unseen (Image.unseen_ofFn width height) target

/-- One column with a padded row, before a bitmap that has too few bytes. -/
theorem compose_pointwise_padded :
    let padded : SubtitleBitmap := ⟨-1, 0, 2, 2, 12,
      #[1, 1, 1, 255, 2, 2, 2, 255, 0, 0, 0, 0, 3, 3, 3, 255, 4, 4, 4, 255]⟩
    let short : SubtitleBitmap := .tight 0 0 4 4 #[0, 0, 0]
    (∀ b ∈ [padded, short], b.stride * b.height < UInt64.size) ∧
      2 * 2 * 4 < UInt64.size / 2 ∧
      ∃ canvas skipped, compose 2 2 [padded, short] = .ok (canvas, skipped) ∧
        canvas.canvas.get? 0 1 = some ⟨4, 4, 4, 255⟩ ∧
        canvas.canvas.get? 1 1 = some .transparent := by
  intro padded short
  have counted : ∀ b ∈ [padded, short], b.stride * b.height < UInt64.size := by decide
  have addressable : 2 * 2 * 4 < UInt64.size / 2 := by decide
  obtain ⟨-, composes, canvases⟩ := compose_pointwise 2 2 counted
  obtain ⟨canvas, skipped, e⟩ := composes.2 addressable
  obtain ⟨⟨-, -, pixels⟩, -⟩ := canvases canvas skipped e
  have left : painted [padded, short] 0 1 = ⟨4, 4, 4, 255⟩ := by decide
  have right : painted [padded, short] 1 1 = .transparent := by decide
  refine ⟨counted, addressable, canvas, skipped, e, ?_, ?_⟩
  · rw [(pixels 0 1 (by decide) (by decide)).1, left]
  · rw [(pixels 1 1 (by decide) (by decide)).1, right]

/-- **Malformed bitmaps are skipped unless they overrun.** A canvas is composed
if, and only if, its own bytes can be addressed and no bitmap overruns; if one
does, composing ends in an overflow. The canvas is the one that is composed of
the list without its malformed bitmaps, all of them or some. -/
theorem compose_skips_unless_overruns (width height : Nat) (bitmaps : List SubtitleBitmap) :
    ((∃ canvas skipped, compose width height bitmaps = .ok (canvas, skipped)) ↔
      width * height * 4 < UInt64.size / 2 ∧ ∀ b ∈ bitmaps, ¬ b.Overruns) ∧
    (width * height * 4 < UInt64.size / 2 → (∃ b ∈ bitmaps, b.Overruns) →
      compose width height bitmaps = .error .overflow) ∧
    ∀ canvas skipped, compose width height bitmaps = .ok (canvas, skipped) →
      ∀ p : SubtitleBitmap → Bool, (∀ b ∈ bitmaps, b.WellFormed → p b = true) →
        ∃ skipped', compose width height (bitmaps.filter p) = .ok (canvas, skipped') := by
  refine ⟨⟨fun ⟨canvas, skipped, e⟩ => ?_, fun ⟨addressable, counted⟩ => ?_⟩, ?_, ?_⟩
  · obtain ⟨addressable, counted, -⟩ := compose_eq_ok_iff.1 e
    exact ⟨addressable, counted⟩
  · exact ⟨_, _, compose_eq_ok_iff.2 ⟨addressable, counted, rfl⟩⟩
  · rintro addressable ⟨b, mem, overruns⟩
    unfold compose Image.transparent
    rw [Checked.addressable_eq_ok.2 ⟨addressable, rfl⟩]
    show (bare width height).addBitmaps bitmaps = _
    rw [addBitmaps_eq, if_neg fun none => none b mem overruns]
  · intro canvas skipped e p kept
    obtain ⟨addressable, counted, e⟩ := compose_eq_ok_iff.1 e
    cases e
    rw [← layAll_filter kept]
    exact ⟨_, compose_eq_ok_iff.2
      ⟨addressable, fun b mem => counted b (List.mem_filter.1 mem).1, rfl⟩⟩

/-- **A bitmap that overruns is not skipped.** It has no bytes at all, and
without it there is a canvas. -/
theorem overrunning_bitmap_not_skipped :
    let b : SubtitleBitmap := ⟨0, 0, 1, 3, 2 ^ 63, #[]⟩
    ¬ b.WellFormed ∧ b.rgba.size < b.stride * (b.height - 1) + b.width * 4 ∧
      compose 1 1 [b] = .error .overflow ∧
      ∃ canvas, compose 1 1 ([b].filter fun b => b.WellFormed) = .ok (canvas, []) ∧
        canvas.blank = true :=
  ⟨by decide, by decide, rfl, _, rfl, rfl⟩

end OsdImage

end Projector
