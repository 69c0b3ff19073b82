import Projector.Proofs.ChromaAlignment
import Projector.Proofs.Clearing
import Projector.Proofs.Depiction
import Projector.Proofs.Scene

/-!
# What a picture is drawn with

A frame of the format that is shown goes straight to the textures. What it is
drawn with is computed from the format that is shown, and this is the format of
an earlier frame, whose rows may have been padded otherwise. It does not matter
as long as it cannot be seen: formats of one type and one size are taken for
each other if their slots have the same sizes.

The sizes of the slots say how wide and how high the luma texture is. So the
part of it that is shown, and the size of a texel, are those of the frame. They
do not say all that a stride correction depends on. Where a texel takes two
bytes, a row of chroma may have one more of them, and the slot has the same
size. The correction is then that of the format that is shown, and not the
frame's.
-/

namespace Projector

/-! ## The table -/

namespace PixelType

/-- A slot is corrected beside a luma slot of single bytes. It has single bytes,
too, or it has the pairs of the second plane. -/
theorem corrected_slot (t : PixelType) : ∀ slot ∈ t.layout.slots, slot.strideDivisor ≠ none →
    t.layout.plane0BytesPerPixel = 1 ∧ (slot.texel.bytes = 1 ∨ slot.sourcePlane = 1) := by
  cases t <;> decide

/-- A second plane has a slot of single bytes, unless it has pairs. -/
theorem second_plane (t : PixelType) : t.layout.planeCount ≤ 1 ∨
    (∃ slot, t.layout.slots[1]? = some slot ∧ slot.sourcePlane = 1 ∧ slot.texel.bytes = 1) ∨
    ∃ redFirst, t.layout.sampling = .semiPlanar redFirst := by
  cases t with
  | empty | yuy2 | uyvy | rgba | bgra => exact .inl (by decide)
  | i420 => exact .inr (.inl ⟨_, rfl, rfl, rfl⟩)
  | nv12 | nv21 => exact .inr (.inr ⟨_, rfl⟩)

/-- Pairs are in the second slot, beside a luma slot of single bytes, and are
corrected by the bytes of their row. -/
theorem semiPlanar_slots {t : PixelType} {redFirst : Bool}
    (h : t.layout.sampling = .semiPlanar redFirst) :
    t.layout.plane0BytesPerPixel = 1 ∧
      t.layout.slots[0]? = some ⟨0, .r8, ⟨0, 0⟩, ⟨0, 0⟩, none⟩ ∧
      t.layout.slots[1]? = some ⟨1, .rg8, ⟨1, 1⟩, ⟨1, 0⟩, some 1⟩ := by
  cases t with
  | nv12 | nv21 => exact ⟨rfl, rfl, rfl⟩
  | _ => cases h

end PixelType

/-! ## Formats that are taken for each other -/

namespace VideoFormat

/-- **Two formats that are taken for each other**, by layout code and by the
upload. -/
structure Akin (a b : VideoFormat) : Prop where
  /-- Both can be made. -/
  left : a.Formed
  /-- So can the other one. -/
  right : b.Formed
  /-- They have one type and one size. -/
  same : a.same b = true
  /-- Their slots have the same sizes. -/
  slots : a.sameSlots b = true

namespace Akin

variable {a b : VideoFormat}

theorem refl {f : VideoFormat} (h : f.Formed) : f.Akin f := ⟨h, h, same_self f, sameSlots_self f⟩

theorem type (h : a.Akin b) : a.pixelType = b.pixelType := (same_iff.1 h.same).1

theorem layout (h : a.Akin b) : a.layout = b.layout := congrArg PixelType.layout h.type

theorem isEmpty (h : a.Akin b) : a.isEmpty = b.isEmpty := by
  rw [Bool.eq_iff_iff, h.left.isEmpty_iff, h.right.isEmpty_iff, h.type]

/-- **The source plane of a slot has as many texels in a row, and as many
rows.** -/
theorem texels (h : a.Akin b) {i : Nat} {slot : SlotLayout}
    (hi : a.layout.slots[i]? = some slot) :
    a.byteWidth slot.sourcePlane / slot.texel.bytes =
        b.byteWidth slot.sourcePlane / slot.texel.bytes ∧
      a.byteHeight slot.sourcePlane = b.byteHeight slot.sourcePlane := by
  obtain ⟨ha, -⟩ := h.left.slot hi
  obtain ⟨hb, -⟩ := h.right.slot (h.layout ▸ hi)
  have hlt : i < 3 :=
    Nat.lt_of_lt_of_le (List.getElem?_eq_some_iff.1 hi).1 (PixelType.layout_slots_length_le _)
  have size := sameSlots_iff.1 h.slots i hlt
  rw [ha, hb, Option.some_inj, Prod.mk.injEq] at size
  exact size

/-- **The luma textures have the same size.** -/
theorem draw (h : a.Akin b) : a.drawWidth = b.drawWidth ∧ a.drawHeight = b.drawHeight := by
  by_cases typed : a.pixelType = .empty
  · -- neither has a plane
    have none : a.isEmpty = true := h.left.isEmpty_iff.2 typed
    have none' : b.isEmpty = true := h.isEmpty ▸ none
    unfold drawWidth drawHeight byteWidth byteHeight
    rw [List.isEmpty_iff.1 none, List.isEmpty_iff.1 none', h.layout]
    exact ⟨rfl, rfl⟩
  · obtain ⟨slot, hslot⟩ := PixelType.exists_first_slot typed
    obtain ⟨plane, bytes⟩ := PixelType.first_slot _ slot hslot
    have texels := h.texels hslot
    rw [plane, bytes] at texels
    unfold drawWidth drawHeight
    rw [← h.layout]
    exact texels

/-- So have their rows, where a column takes one byte. -/
theorem luma (h : a.Akin b) (single : a.layout.plane0BytesPerPixel = 1) :
    a.byteWidth 0 = b.byteWidth 0 := by
  have width := h.draw.1
  unfold drawWidth at width
  rwa [← h.layout, single, Nat.div_one, Nat.div_one] at width

/-- **A correction is the same if the rows of the second plane are.** -/
theorem slotCorrection {S D : Type} [Scalar S] [Scalar D] [Precision S D] (h : a.Akin b)
    (second : a.byteWidth 1 = b.byteWidth 1) (i : Nat) :
    (a.slotCorrection i : S) = b.slotCorrection i := by
  unfold VideoFormat.slotCorrection
  rw [← h.layout]
  cases hi : a.layout.slots[i]? with
  | none => rfl
  | some slot =>
    dsimp only
    cases hd : slot.strideDivisor with
    | none => rfl
    | some divisor =>
      obtain ⟨single, bytes⟩ := PixelType.corrected_slot a.pixelType slot
        (List.mem_of_getElem? hi) (hd ▸ Option.some_ne_none divisor)
      have luma := h.luma single
      have chroma : a.byteWidth slot.sourcePlane = b.byteWidth slot.sourcePlane := by
        obtain one | plane := bytes
        · have texels := (h.texels hi).1
          rwa [one, Nat.div_one, Nat.div_one] at texels
        · rw [plane]
          exact second
      dsimp only
      rw [luma, chroma]

/-- **Rows of the second plane differ in the last byte of a pair**, if they
differ at all. -/
theorem second (h : a.Akin b) : a.byteWidth 1 / 2 = b.byteWidth 1 / 2 ∧
    ((∀ redFirst, a.layout.sampling ≠ .semiPlanar redFirst) → a.byteWidth 1 = b.byteWidth 1) := by
  obtain few | ⟨slot, hslot, plane, bytes⟩ | ⟨redFirst, pairs⟩ :=
    PixelType.second_plane a.pixelType
  · have none {f : VideoFormat} (formed : f.Formed) (few : f.layout.planeCount ≤ 1) :
        f.byteWidth 1 = 0 := by
      unfold byteWidth
      rw [List.getElem?_eq_none (formed.length_planes ▸ few)]
      rfl
    rw [none h.left few, none h.right (h.layout ▸ few)]
    exact ⟨rfl, fun _ => rfl⟩
  · have texels := (h.texels hslot).1
    rw [plane, bytes, Nat.div_one, Nat.div_one] at texels
    exact ⟨congrArg (· / 2) texels, fun _ => texels⟩
  · exact ⟨(h.texels (PixelType.semiPlanar_slots pairs).2.2).1, fun other =>
      (other redFirst pairs).elim⟩

/-- **Where there are pairs, exact corrections tell the rows apart.** -/
theorem row_of_correction_rat (h : a.Akin b) {redFirst : Bool}
    (pairs : a.layout.sampling = .semiPlanar redFirst)
    (e : (a.slotCorrection 1 : Rat) = b.slotCorrection 1) : a.byteWidth 1 = b.byteWidth 1 := by
  obtain ⟨single, first, chroma⟩ := PixelType.semiPlanar_slots pairs
  have chroma' : b.layout.slots[1]? = some ⟨1, .rg8, ⟨1, 1⟩, ⟨1, 0⟩, some 1⟩ := by
    rw [← h.layout]
    exact chroma
  -- all three rows have bytes
  obtain ⟨-, luma, -⟩ := h.left.slot first
  obtain ⟨-, left, -⟩ := h.left.slot chroma
  obtain ⟨-, right, -⟩ := h.right.slot chroma'
  have luma : 0 < a.byteWidth 0 := luma
  have left : 2 ≤ a.byteWidth 1 := left
  have right : 2 ≤ b.byteWidth 1 := right
  have nonzero : (a.byteWidth 0 : Rat) ≠ 0 := by exact_mod_cast luma.ne'
  rw [slotCorrection_rat chroma rfl (show 0 < a.byteWidth 1 * 1 by omega),
    slotCorrection_rat chroma' rfl (show 0 < b.byteWidth 1 * 1 by omega), ← h.luma single,
    div_eq_mul_inv, div_eq_mul_inv, mul_right_inj' nonzero, inv_inj, Nat.cast_inj] at e
  exact Nat.eq_of_mul_eq_mul_right Nat.one_pos e

/-- **In exact arithmetic the corrections are the same only then.** -/
theorem strideCorrection_rat_iff (h : a.Akin b) :
    (a.strideCorrection : Rat × Rat) = b.strideCorrection ↔ a.byteWidth 1 = b.byteWidth 1 := by
  constructor
  · intro e
    by_cases pairs : ∃ redFirst, a.layout.sampling = .semiPlanar redFirst
    · obtain ⟨redFirst, pairs⟩ := pairs
      exact h.row_of_correction_rat pairs (congrArg Prod.fst e)
    · exact h.second.2 fun redFirst hp => pairs ⟨redFirst, hp⟩
  · intro second
    exact Prod.ext (h.slotCorrection second 1) (h.slotCorrection second 2)

/-- **The same part of the texture is shown**, with any effects. -/
theorem texCoords {S D : Type} [Scalar S] [Scalar D] [Precision S D] (h : a.Akin b)
    (effects : Effects) : (TexCoords.ofFormat a effects : TexCoords S) = .ofFormat b effects := by
  obtain ⟨-, width, -⟩ := same_iff.1 h.same
  unfold TexCoords.ofFormat
  rw [h.isEmpty, h.draw.1, width]

/-- **The same numbers are bound**, with any corrections. -/
theorem uniforms (h : a.Akin b) (p : ShaderParams) (correction : Float32 × Float32) :
    p.uniforms a correction = p.uniforms b correction := by
  unfold ShaderParams.uniforms
  rw [h.draw.1, h.draw.2]

end Akin

end VideoFormat

/-! ## What is drawn -/

/-- Making textures for a format leaves the corrections of this format. -/
theorem UploadEngine.ensureAllocated_corrects {δ : Type} [Device δ] (format : VideoFormat)
    (s : UploadEngine × Bench δ) : (ensureAllocated format).Ends s
      (fun _ t => t.1.correction = format.strideCorrection) (fun _ _ => True) fun _ => True := by
  unfold ensureAllocated
  rw [Step.ends_bind]
  refine (Step.ends_somehow _ s).mono (fun _ s _ => ?_) (fun _ _ => id) fun _ => id
  rw [Step.ends_bind]
  refine (Step.ends_somehow _ s).mono (fun _ s _ => ?_) (fun _ _ => id) fun _ => id
  rw [Step.ends_bind]
  refine (Step.ends_somehow _ s).mono (fun _ s _ => ?_) (fun _ _ => id) fun _ => id
  exact rfl

namespace Renderer

open Step

variable {δ : Type}

/-- **What the picture is drawn from**: the frame, the format and the
corrections. -/
def drawn (r : Renderer δ) : VideoFrame × VideoFormat × Float32 × Float32 :=
  (r.frame, r.format, r.textures.correction)

/-- **The corrections are those of the format that is shown.** -/
def Corrected (r : Renderer δ) : Prop := r.textures.correction = r.format.strideCorrection

theorem Corrected.congr {r t : Renderer δ} (h : r.Corrected) (same : t.drawn = r.drawn) :
    t.Corrected := by
  unfold Corrected at h ⊢
  rw [show t.textures.correction = r.textures.correction from congrArg (fun d => d.2.2) same,
    show t.format = r.format from congrArg (fun d => d.2.1) same]
  exact h

section Steps

variable {α β : Type}

/-- **A step that is answered keeps the frame**, and leaves corrections that are
those of the format if they were. -/
def Aligns (m : Step (Renderer δ) α) : Prop :=
  ∀ r, m.Ends r (fun _ t => t.frame = r.frame ∧ (r.Corrected → t.Corrected)) (fun _ _ => True)
    fun _ => True

theorem Aligns.of_keeps {m : Step (Renderer δ) α} (h : m.Keeps drawn) : Aligns m := fun r =>
  (h r).mono (fun _ _ same => ⟨congrArg Prod.fst same, fun h => h.congr same⟩)
    (fun _ _ _ => trivial) fun _ => id

theorem Aligns.bind {m : Step (Renderer δ) β} {f : β → Step (Renderer δ) α} (h : Aligns m)
    (hf : ∀ b, Aligns (f b)) : Aligns (m >>= f) := by
  intro r
  rw [ends_bind]
  refine (h r).mono (fun b t first => ?_) (fun _ _ => id) fun _ => id
  refine (hf b t).mono (fun _ _ next => ?_) (fun _ _ => id) fun _ => id
  exact ⟨next.1.trans first.1, fun h => next.2 (first.2 h)⟩

variable [Device δ]

theorem keeps_drawn_ensureProgram : (ensureProgram : Step (Renderer δ) Unit).Keeps drawn :=
  keeps_ensureProgram fun _ _ _ _ => rfl

theorem keeps_drawn_upload (frame : VideoFrame) :
    (onTextures (UploadEngine.upload frame) : Step (Renderer δ) Bool).Keeps drawn := by
  intro r
  have corrected {e : UploadEngine} {b : Bench δ} (h : e.correction = r.textures.correction) :
      Renderer.drawn { r with textures := e, bench := b } = r.drawn :=
    congrArg (fun c => (r.frame, r.format, c)) h
  rw [ends_onTextures]
  refine (UploadEngine.upload_engine frame (r.textures, r.bench)).mono ?_ ?_ fun _ => id
  · intro uploaded t engine
    have kept := congrArg UploadEngine.correction engine
    exact corrected kept
  · intro _ t engine
    have kept := congrArg UploadEngine.correction engine
    exact corrected kept

/-- **The textures of another format have its corrections.** -/
theorem aligns_resetFormat (format : VideoFormat) (notify : Bool) :
    Aligns (resetFormat format notify : Step (Renderer δ) Unit) := by
  intro r
  have frame (r : Renderer δ) : r.updateGeometry.drawn = r.drawn := by
    unfold updateGeometry
    dsimp only
    split <;> rfl
  unfold resetFormat
  rw [ends_bind, ends_modify, ends_bind]
  refine (keeps_onOverlay (p := fun r => (r.frame, r.format)) (fun _ _ _ => rfl) _ _).mono
    (fun _ s hs => ?_) (fun _ _ _ => trivial) fun _ => id
  rw [ends_bind, ends_onTextures]
  refine (UploadEngine.ensureAllocated_corrects format (s.textures, s.bench)).mono ?_
    (fun _ _ _ => trivial) fun _ => id
  rintro - ⟨e, b⟩ corrected
  have kept : s.frame = r.frame := congrArg Prod.fst hs
  have shown : s.format = format := congrArg Prod.snd hs
  have corrected : Corrected { s with textures := e, bench := b } := by
    unfold Corrected
    rw [shown]
    exact corrected
  rw [ends_bind, ends_modify]
  have aligned := frame { s with textures := e, bench := b }
  cases notify with
  | false => exact ⟨(congrArg Prod.fst aligned).trans kept, fun _ => corrected.congr aligned⟩
  | true => exact ⟨(congrArg Prod.fst aligned).trans kept, fun _ => corrected.congr aligned⟩

theorem aligns_uploadFrame (frame : VideoFrame) :
    Aligns (uploadFrame frame : Step (Renderer δ) Bool) := by
  have upload := keeps_drawn_upload (δ := δ) frame
  unfold uploadFrame
  refine Aligns.bind (.of_keeps upload.attempt) fun uploaded => ?_
  split
  · exact .of_keeps (keeps_pure _)
  · refine Aligns.bind (.of_keeps (keeps_modify fun _ => rfl)) fun _ => ?_
    refine Aligns.bind (aligns_resetFormat frame.format false) fun _ => ?_
    exact Aligns.bind (.of_keeps keeps_drawn_ensureProgram) fun _ => .of_keeps upload
  · exact .of_keeps fun _ => rfl

/-- **The frame that is taken is the one that is drawn.** -/
theorem takeFrame_aligns (frame : VideoFrame) (check : Bool) (r : Renderer δ) :
    (takeFrame frame check).Ends r (fun _ t => t.frame = frame ∧ (r.Corrected → t.Corrected))
      (fun _ _ => True) fun _ => True := by
  have rest (r : Renderer δ) : (fill frame).Ends r
      (fun _ t => t.frame = frame ∧ (r.Corrected → t.Corrected)) (fun _ _ => True)
      fun _ => True := by
    rw [ends_fill]
    refine (Aligns.of_keeps keeps_drawn_ensureProgram r).mono ?_ (fun _ _ => id) fun _ => id
    rintro - s ⟨-, first⟩
    refine (aligns_uploadFrame frame s).mono ?_ (fun _ _ => id) fun _ => id
    exact fun _ t ⟨_, next⟩ => ⟨rfl, fun h => next (first h)⟩
  refine takeFrame_ends_of (fun _ => ?_) fun _ => rest r
  rw [ends_bind]
  refine (aligns_resetFormat frame.format true r).mono ?_ (fun _ _ => id) fun _ => id
  rintro - s ⟨-, first⟩
  refine (rest s).mono ?_ (fun _ _ => id) fun _ => id
  exact fun _ t ⟨taken, next⟩ => ⟨taken, fun h => next (first h)⟩

theorem keeps_drawn_takeCanvas (pending : Pending) :
    (takeCanvas pending : Step (Renderer δ) Unit).Keeps drawn := by
  have upload := keeps_onOverlay (δ := δ) (p := drawn) (fun _ _ _ => rfl) OsdLayer.upload
  unfold takeCanvas
  split
  · exact Keeps.bind (keeps_modify fun _ => rfl) fun _ => upload
  · exact upload

/-- **Nothing but a preparation and a release changes what the picture is drawn
from.** -/
theorem drawn_perform {r t : Renderer δ} {request : Request} {answer : Answer}
    (prepares : request ≠ .prepare) (releases : request ≠ .release)
    (e : r.perform request = .ok (answer, t)) : t.drawn = r.drawn := by
  have of_core {c : Core δ} (h : t.core = c) :
      t.drawn = (c.frame, c.format, c.textures.correction) := by
    rw [← h]
    rfl
  by_cases setting : request.isSetting = true
  · exact of_core (core_perform_setting setting e)
  cases request with
  | prepare => exact (prepares rfl).elim
  | release => exact (releases rfl).elim
  | present frame check =>
    cases e
    exact of_core (core_present r frame check)
  | drawOsd bitmaps =>
    obtain ⟨r', hr, e⟩ := Checked.bind_eq_ok.1 e
    cases e
    obtain ⟨_, _, -, core⟩ := core_drawOsd hr
    exact of_core core
  | render =>
    have keeps := keeps_render (δ := δ) (p := drawn) (fun _ _ _ _ _ _ _ => rfl) r
    obtain ⟨_, hm, -⟩ | ⟨_, hm, -⟩ := answered_eq_ok e
    · exact keeps.of_ok hm
    · exact keeps.of_error hm
  | _ => exact (setting rfl).elim

theorem format_release (r : Renderer δ) : r.release.format = .empty :=
  congrArg Scene.format (scene_release r)

theorem textures_dropProgram (r : Renderer δ) : r.dropProgram.textures = r.textures := by
  unfold dropProgram
  split <;> rfl

theorem corrected_release (r : Renderer δ) : r.release.Corrected := by
  unfold Corrected
  rw [format_release]
  unfold release
  dsimp only
  rw [textures_dropProgram]
  rfl

end Steps

/-- **A preparation draws the frame that waits**, or the one that was drawn, and
answers no if none waits. -/
theorem prepare_aligns (r : Renderer Recorder) : prepare.Ends r
    (fun uploaded t => t.frame = (r.waiting.map Prod.fst).getD r.frame ∧
      (r.Corrected → t.Corrected) ∧ (r.waiting = none → uploaded = false))
    (fun _ _ => True) fun _ => True := by
  unfold waiting
  refine prepare_ends_of (fun mailbox htake => ?_) fun pending mailbox htake => ?_
  · rw [htake]
    exact ⟨rfl, id, fun _ => rfl⟩
  · rw [htake]
    have taken : (takePending pending).Ends { r with mailbox }
        (fun uploaded t => t.frame = (pending.frame.map Prod.fst).getD r.frame ∧
          (r.Corrected → t.Corrected) ∧ (pending.frame = none → uploaded = false))
        (fun _ _ => True) fun _ => True := by
      unfold takePending
      split
      · next frame check waits =>
        rw [waits]
        refine (takeFrame_aligns frame check { r with mailbox }).mono ?_ (fun _ _ => id) fun _ => id
        exact fun _ t ⟨taken, aligned⟩ => ⟨taken, aligned, nofun⟩
      · next waits =>
        rw [waits]
        exact ⟨rfl, id, fun _ => rfl⟩
    unfold consume
    rw [ends_bind]
    refine taken.mono ?_ (fun _ _ => id) fun _ => id
    rintro uploaded s ⟨taken, aligned, idle⟩
    rw [ends_bind]
    refine (keeps_drawn_takeCanvas pending s).mono ?_ (fun _ _ _ => trivial) fun _ => id
    exact fun _ t same => ⟨(congrArg Prod.fst same).trans taken,
      fun h => (aligned h).congr same, idle⟩

/-! ## The frame that is drawn -/

/-- **A frame whose format is looked at leaves a format that is taken for its
own.** -/
theorem formatAfter_akin {r : Renderer Recorder} {frame : VideoFrame} (formed : r.format.Formed)
    (sound : frame.Sound) : (r.formatAfter frame true).Akin frame.format := by
  unfold formatAfter
  split
  · exact .refl sound.formed
  · next kept =>
    rw [Bool.not_eq_true, Bool.or_eq_false_iff] at kept
    obtain ⟨unannounced, slots⟩ := kept
    have same : r.format.same frame.format = true := by
      unfold announces compares at unannounced
      rw [Bool.true_or, Bool.true_or, Bool.true_and] at unannounced
      exact (Bool.not_eq_eq_eq_not.1 unannounced).trans Bool.not_false
    exact ⟨formed, sound.formed, same, (Bool.not_eq_eq_eq_not.1 slots).trans Bool.not_false⟩

/-- **The format that is shown is taken for the one of the frame that is
drawn**, and the corrections are its own. -/
structure Faithful (r : Renderer Recorder) : Prop where
  /-- The corrections are those of the format that is shown. -/
  corrected : r.Corrected
  /-- Which is taken for the frame's, as long as a picture is shown. -/
  akin : r.hasFrame = true → r.format.Akin r.frame.format

theorem Faithful.congr {r t : Renderer Recorder} (h : r.Faithful) (same : t.drawn = r.drawn) :
    t.Faithful := by
  have frame : t.frame = r.frame := congrArg Prod.fst same
  have format : t.format = r.format := congrArg (fun d => d.2.1) same
  refine ⟨h.corrected.congr same, fun shown => ?_⟩
  unfold hasFrame at shown
  rw [format] at shown
  rw [frame, format]
  exact h.akin shown

/-- **A preparation that looks at the format is faithful.** -/
theorem Faithful.prepare {r t : Renderer Recorder} (h : r.Faithful) (tidy : r.core.Tidy)
    (sound : ∀ frame check, r.waiting = some (frame, check) → frame.Sound ∧ check = true)
    (shown : t.format = r.waiting.elim r.format fun x => r.formatAfter x.1 x.2)
    (frame : t.frame = (r.waiting.map Prod.fst).getD r.frame)
    (corrected : r.Corrected → t.Corrected) : t.Faithful := by
  refine ⟨corrected h.corrected, fun picture => ?_⟩
  cases waits : r.waiting with
  | none =>
    rw [waits] at shown frame
    have shown : t.format = r.format := shown
    unfold hasFrame at picture
    rw [shown] at picture
    rw [shown, frame]
    exact h.akin picture
  | some x =>
    obtain ⟨x, check⟩ := x
    obtain ⟨sound, rfl⟩ := sound x check waits
    rw [waits] at shown frame
    rw [shown, frame]
    exact formatAfter_akin tidy.formed sound

end Renderer

namespace Run

open Renderer History

variable {start r : Renderer Recorder} {past : List (Transition Recorder)}

/-- **If every frame is looked at, the frame that waits is.** -/
theorem waiting_checked (fresh : start.core = .initial .initial) (run : Run start past r)
    (checked : ∀ x ∈ past, ∀ frame check, x.move = .ask (.present frame check) → check = true)
    {frame : VideoFrame} {check : Bool} (waits : r.waiting = some (frame, check)) :
    check = true := by
  rw [run.waiting_eq fresh] at waits
  obtain ⟨f, hf, hfc⟩ := Option.map_eq_some_iff.1 waits
  cases hfc
  have mem := List.mem_of_mem_head? hf
  obtain ⟨x, hx, moved⟩ := exists_present_of_mem_frames mem
  exact List.any_eq_true.2 ⟨f, mem, checked x hx f.1 f.2 moved⟩

/-- **If every frame is looked at, the format is always taken for the one of the
frame that is drawn.** -/
theorem faithful (fresh : start.core = .initial .initial) (run : Run start past r)
    (proper : ∀ x ∈ past, x.Proper)
    (checked : ∀ x ∈ past, ∀ frame check, x.move = .ask (.present frame check) → check = true) :
    r.Faithful := by
  induction run with
  | start =>
    have format : start.format = .empty := congrArg Core.format fresh
    have textures : start.textures = .initial := congrArg Core.textures fresh
    refine ⟨?_, fun shown => ?_⟩
    · unfold Corrected
      rw [format, textures]
      rfl
    · unfold hasFrame at shown
      rw [format] at shown
      cases shown
  | adjust run change ih =>
    rw [List.forall_mem_cons] at proper checked
    exact (ih proper.2 checked.2).congr rfl
  | @ask past r request answer t run e ih =>
    rw [List.forall_mem_cons] at proper checked
    have faithful := ih proper.2 checked.2
    by_cases prepares : request = .prepare
    · subst prepares
      have tidy := (run.did fresh proper.2).1.tidy
      have sound := run.waiting_sound fresh proper.2
      have ends := (prepare_ends tidy sound).and (prepare_aligns r)
      obtain ⟨uploaded, hm, -⟩ | ⟨error, hm, -⟩ := answered_eq_ok e
      · obtain ⟨⟨prepared, -⟩, frame, corrected, -⟩ := ends.of_ok hm
        exact faithful.prepare tidy
          (fun frame check waits => ⟨sound frame check waits,
            run.waiting_checked fresh checked.2 waits⟩) prepared.shown frame corrected
      · exact (ends.of_error hm).1.elim
    by_cases releases : request = .release
    · subst releases
      cases e
      refine ⟨corrected_release r, fun shown => ?_⟩
      unfold hasFrame at shown
      rw [format_release] at shown
      cases shown
    · exact faithful.congr (drawn_perform prepares releases e)

end Run

/-! ## The numbers that are bound -/

namespace Recorder

open Step

variable {p q : ProgramId}

/-- Setting the numbers of a program leaves those of the others. -/
theorem bindUniforms_keeps (other : q ≠ p) (u : VideoUniforms) :
    (bindUniforms q u).Keeps fun d => d.uniforms.get? p := by
  intro d
  unfold bindUniforms
  rw [ends_bind, ends_get]
  dsimp only
  split
  · rfl
  · exact (Registry.get?_put _ _ _ _).trans (if_neg other.symm)

/-- Drawing a quad leaves all of them. -/
theorem drawQuad_keeps (textures : Bindings) (quad : Quad Float32) :
    (drawQuad q textures quad).Keeps fun d => d.uniforms.get? p := by
  intro d
  unfold drawQuad
  rw [ends_bind, ends_get]
  dsimp only
  split
  · rfl
  split
  · rfl
  split
  · rfl
  · rfl

end Recorder

namespace OsdLayer

open Step Recorder

variable {p : ProgramId} {s : OsdLayer × Bench Recorder}

/-- The program for the canvas is another one, whether it is there or is
compiled. -/
theorem ensureProgram_spares (other : s.1.program ≠ some p)
    (fresh : s.2.device.freshProgram ≠ p) :
    ensureProgram.Ends s
      (fun q t => q ≠ p ∧ t.2.device.uniforms.get? p = s.2.device.uniforms.get? p)
      (fun _ t => t.2.device.uniforms.get? p = s.2.device.uniforms.get? p) fun _ => True := by
  unfold ensureProgram
  rw [ends_bind, ends_get]
  split
  · next q there => exact ⟨fun same => other (same ▸ there), rfl⟩
  · rw [ends_bind, Bench.ends_call]
    refine (createProgram_ends s.2.device _).mono ?_ ?_ fun _ _ => trivial
    · rintro q d ⟨-, -, rfl, rfl⟩
      exact ⟨fresh, rfl⟩
    · rintro e d ⟨-, rfl, -⟩
      rfl

/-- **Drawing the canvas leaves the numbers of the video.** -/
theorem draw_spares (other : s.1.program ≠ some p) (fresh : s.2.device.freshProgram ≠ p)
    (rect : Rect Float32) :
    (draw rect).Ends s (fun _ t => t.2.device.uniforms.get? p = s.2.device.uniforms.get? p)
      (fun _ t => t.2.device.uniforms.get? p = s.2.device.uniforms.get? p) fun _ => True := by
  unfold draw
  rw [ends_bind, ends_get]
  dsimp only
  split
  · split
    · rfl
    rw [ends_bind]
    refine (ensureProgram_spares other fresh).mono ?_ (fun _ _ => id) fun _ => id
    rintro q t ⟨apart, kept⟩
    rw [ends_bind, Bench.ends_call]
    refine (bindUniforms_keeps apart _ t.2.device).mono (fun _ d hd => ?_)
      (fun _ d hd => hd.trans kept) fun _ => id
    rw [ends_bind, Bench.ends_call]
    exact (drawQuad_keeps _ _ d).mono (fun _ _ h => h.trans (hd.trans kept))
      (fun _ _ h => h.trans (hd.trans kept)) fun _ => id
  · rfl

end OsdLayer

namespace Renderer

open Step

variable {r t : Renderer Recorder}

/-- **A pass binds the numbers for the format that is shown**, with the
corrections of the textures, if there is a picture and a program. -/
def Binds (r t : Renderer Recorder) : Prop :=
  ∀ p, r.nextProgram r.format.pixelType = some p → r.showsPicture = true →
    t.bench.device.uniforms.get? p = some (r.shader.uniforms r.format r.textures.correction)

theorem render_binds (rest : r.core.AtRest) :
    render.Ends r (fun _ t => r.Binds t) (fun _ t => r.Binds t) fun _ => True := by
  refine render_ends_of (((ensureProgram_ends rest.tidy).and (ensureProgram_updates r)).mono ?_
    (fun _ _ h => h.1.elim) fun _ _ => trivial)
  rintro - s ⟨ensured, updated⟩
  have closed := ensured.calm.still.inPass.trans rest.closed
  refine ⟨closed, drawContents_films (ensured.tidy.begun closed) rfl fun t filmed => ?_⟩
  have tidy := filmed.tidy
  rw [ends_onOverlay]
  have draws := OsdLayer.draw_ends (s := (t.overlay, t.bench)) tidy.stocked.orderly tidy.osd
    tidy.programs filmed.inPass s.geometry.cached
  cases program : r.nextProgram r.format.pixelType with
  | none =>
    have unbound (u : Renderer Recorder) : r.Binds u := fun p hp => nomatch program.symm.trans hp
    exact draws.mono (fun _ u drawn => ⟨drawn.inPass.trans filmed.inPass, unbound _⟩)
      (fun _ u refused => ⟨refused.1.inPass.trans filmed.inPass, unbound _⟩) fun _ _ => trivial
  | some p =>
    have there : t.program = some p := filmed.program.trans (updated.program.trans program)
    obtain ⟨source, -, live⟩ := tidy.live_program there
    have fresh : t.bench.device.freshProgram ≠ p := by
      rintro rfl
      cases live.symm.trans tidy.stocked.orderly.freshProgram_get?
    have bound {d : Recorder} (kept : d.uniforms.get? p = t.bench.device.uniforms.get? p)
        (u : Renderer Recorder) (hu : u.bench.device = d.ended) : r.Binds u := by
      intro q hq shows
      cases program.symm.trans hq
      have first := filmed.bound p (updated.program.trans program)
      unfold showsPicture at shows first
      dsimp only at first
      rw [ensured.format, ensured.textures, ensured.shader] at first
      rw [hu]
      exact kept.trans (first shows)
    refine (draws.and (OsdLayer.draw_spares (s := (t.overlay, t.bench)) (tidy.programs_ne there)
      fresh s.geometry.cached)).mono ?_ ?_ fun _ _ => trivial
    · exact fun _ u ⟨drawn, kept⟩ => ⟨drawn.inPass.trans filmed.inPass, bound kept _ rfl⟩
    · exact fun _ u ⟨refused, kept⟩ => ⟨refused.1.inPass.trans filmed.inPass, bound kept _ rfl⟩

/-- **How a picture is drawn that has another format**, one that is taken for
the format that is shown. -/
structure DrawsAs (r : Renderer Recorder) (format : VideoFormat) : Prop where
  /-- The corrections are its own if the rows of the second plane are. -/
  correction : r.format.byteWidth 1 = format.byteWidth 1 →
    r.textures.correction = format.strideCorrection
  /-- In exact arithmetic they are its own only then. -/
  rational : (r.format.strideCorrection : Rat × Rat) = format.strideCorrection ↔
    r.format.byteWidth 1 = format.byteWidth 1
  /-- The rows differ in the last byte of a pair, -/
  pairs : r.format.byteWidth 1 / 2 = format.byteWidth 1 / 2
  /-- and only where chroma comes in pairs. -/
  single : (∀ redFirst, r.format.layout.sampling ≠ .semiPlanar redFirst) →
    r.format.byteWidth 1 = format.byteWidth 1
  /-- In a pass the numbers are bound that are computed for it, and the part of
  the texture is shown that it covers. -/
  pass : ∀ answer t p, r.perform .render = .ok (answer, t) → t.program = some p →
    t.bench.device.uniforms.get? p = some (r.shader.uniforms format r.textures.correction) ∧
    ∃ earlier later, t.bench.device.calls.toList = r.bench.device.calls.toList ++ earlier ++
      .drawQuad p r.textures.textureIds (Quad.of
        (r.geometry.updateVertex r.shader.effects).1.vertex
        (.ofFormat format r.shader.effects)) :: later

/-- **A pass shows a picture with the numbers of a format that is taken for the
one that is shown.** -/
theorem Core.AtRest.drawsAs (rest : r.core.AtRest) (agrees : r.scene.Agrees)
    (shows : r.showsPicture = true) (corrected : r.Corrected) {format : VideoFormat}
    (akin : r.format.Akin format) : r.DrawsAs format := by
  obtain ⟨pairs, single⟩ := akin.second
  refine ⟨fun second => ?_, akin.strideCorrection_rat_iff, pairs, single,
    fun answer t p e program => ⟨?_, ?_⟩⟩
  · rw [show r.textures.correction = r.format.strideCorrection from corrected]
    exact Prod.ext (akin.slotCorrection second 1) (akin.slotCorrection second 2)
  all_goals
    have passed := rest.passed e
    have next : r.nextProgram r.format.pixelType = some p := passed.program.symm.trans program
  · rw [← akin.uniforms]
    have binds := render_binds rest
    obtain ⟨_, hm, -⟩ | ⟨_, hm, -⟩ := answered_eq_ok e
    · exact binds.of_ok hm p next shows
    · exact binds.of_error hm p next shows
  · have known : r.geometry.format = r.format := agrees.format
    have quad : r.videoQuad = Quad.of (r.geometry.updateVertex r.shader.effects).1.vertex
        (.ofFormat format r.shader.effects) := by
      show Quad.of _ (TexCoords.ofFormat r.geometry.format r.shader.effects) = _
      rw [known, akin.texCoords]
    have video : r.videoCalls (some p) r.videoQuad =
        [.bindUniforms p, .drawQuad p r.textures.textureIds r.videoQuad] := by
      unfold showsPicture at shows
      unfold videoCalls
      rw [Bool.not_eq_true'] at shows
      dsimp only
      rw [shows]
      rfl
    have calls : ∃ later, r.passCalls = r.programCalls r.format.pixelType ++
        .beginPass r.item.size r.clearColor :: .bindUniforms p ::
          .drawQuad p r.textures.textureIds r.videoQuad :: later := by
      unfold passCalls contentCalls
      rw [next, video]
      exact ⟨_, rfl⟩
    obtain ⟨later, calls⟩ := calls
    refine ⟨r.programCalls r.format.pixelType ++ [.beginPass r.item.size r.clearColor,
      .bindUniforms p], later, ?_⟩
    rw [passed.calls, calls, quad]
    simp

end Renderer

/-- A picture that is shown was counted. -/
theorem Run.showsPicture {start r : Renderer Recorder} {past : List (Transition Recorder)}
    (fresh : start.core = .initial .initial) (run : Run start past r)
    (proper : ∀ x ∈ past, x.Proper) (shown : r.hasFrame = true) : r.showsPicture = true := by
  have picture : r.format.isEmpty = false := (Bool.not_eq_eq_eq_not.1 shown).trans Bool.not_true
  have reflects := run.reflects fresh proper
  cases last : History.lastTaken past with
  | none =>
    rw [last] at reflects
    have none : r.format = .empty := reflects
    rw [none] at picture
    cases picture
  | some frame =>
    rw [last] at reflects
    obtain ⟨sound, current⟩ := reflects
    have counted : r.textures.drawnFrames ≠ 0 :=
      current.counted ((current.isEmpty_eq (run.did fresh proper).1.tidy sound).symm.trans picture)
    unfold Renderer.showsPicture
    rw [picture, beq_false_of_ne counted]
    rfl

/-- A preparation that answers yes leaves a picture. -/
theorem Run.hasFrame_of_uploaded {start r t : Renderer Recorder}
    {past : List (Transition Recorder)} (fresh : start.core = .initial .initial)
    (run : Run start past r) (proper : ∀ x ∈ past, x.Proper)
    (e : r.perform .prepare = .ok (.flag true, t)) : t.hasFrame = true := by
  have tidy := (run.did fresh proper).1.tidy
  have sound := run.waiting_sound fresh proper
  have ends := (Renderer.prepare_ends tidy sound).and (Renderer.prepare_aligns r)
  obtain ⟨uploaded, hm, yes⟩ | ⟨error, -, failed⟩ := Renderer.answered_eq_ok e
  swap
  · cases failed
  cases yes
  obtain ⟨⟨prepared, -⟩, -, -, idle⟩ := ends.of_ok hm
  cases waits : r.waiting with
  | none => cases idle waits
  | some x =>
    obtain ⟨frame, check⟩ := x
    have same : t.format.isEmpty = frame.isEmpty :=
      (prepared.current frame check waits).isEmpty_eq prepared.tidy (sound frame check waits)
    unfold Renderer.hasFrame
    rw [same]
    cases empty : frame.isEmpty with
    | true => cases (Renderer.prepare_empty_ends waits empty).of_ok hm
    | false => rfl

/-- **A picture is drawn with its own numbers, but for a byte of chroma.** Let
every frame that is presented be looked at. Whenever a picture is shown, which
it is after a preparation that answered yes, the corrections are those of the
format that is shown. A pass binds the numbers, and shows the part of the
textures, that are computed from the format of the frame that is drawn.

So are the corrections, if the rows of the second plane have the same bytes in
the format that is shown and in the frame's. They have in all types but those
with pairs of chroma, and in these they differ in the last byte of a pair at
most. In exact arithmetic the corrections are others where the bytes differ. -/
theorem picture_drawn_with_own_numbers {config : RendererConfig}
    {past : List (Transition Recorder)} {r : Renderer Recorder}
    (run : Run (.withConfig .initial config) past r) (proper : ∀ x ∈ past, x.Proper)
    (checked : ∀ x ∈ past, ∀ frame check, x.move = .ask (.present frame check) → check = true) :
    (∀ t, r.perform .prepare = .ok (.flag true, t) → t.hasFrame = true) ∧
    (r.hasFrame = true → r.textures.correction = r.format.strideCorrection ∧
      r.DrawsAs r.frame.format) := by
  have fresh := Renderer.core_withConfig Recorder.initial config
  refine ⟨fun t e => run.hasFrame_of_uploaded fresh proper e, fun shown => ?_⟩
  obtain ⟨corrected, akin⟩ := run.faithful fresh proper checked
  exact ⟨corrected, (run.did fresh proper).1.drawsAs run.agrees
    (run.showsPicture fresh proper shown) corrected (akin shown)⟩

/-- Two black pixels in a row of eleven bytes. -/
def VideoFrame.paddedPixels : VideoFrame :=
  ⟨⟨.rgba, 2, 1, [⟨11, 1⟩]⟩, [⟨#[0, 0, 0, 255, 0, 0, 0, 255, 0, 0, 0], 11⟩]⟩

/-- Pixels in a padded row are shown in the format of others, with their own
corrections. -/
theorem picture_drawn_with_own_numbers_padded : ∃ past r,
    Run (.withConfig .initial .standard) past r ∧ (∀ x ∈ past, x.Proper) ∧
      past.map Transition.move = [.ask .prepare, .ask (.present .paddedPixels true),
        .ask .prepare, .ask (.present .blackPixels true)] ∧
      r.frame = .paddedPixels ∧ r.format ≠ r.frame.format ∧
      r.textures.correction = r.frame.format.strideCorrection := by
  have padded : VideoFrame.paddedPixels.Made := @VideoFrame.Made.ofPlanes .rgba 2 1
    [⟨#[0, 0, 0, 255, 0, 0, 0, 255, 0, 0, 0], 11⟩] .paddedPixels rfl
  let requests : List Request :=
    [.present .blackPixels true, .prepare, .present .paddedPixels true, .prepare]
  have made : ∀ request ∈ requests, request.Proper := by
    simp only [requests, List.forall_mem_cons]
    exact ⟨VideoFrame.made_blackPixels, trivial, padded, trivial, List.forall_mem_nil _⟩
  obtain ⟨past, r, run, proper, moves, found⟩ := Run.exists_carried (.withConfig .initial .standard)
    made (fun r => r.hasFrame = true ∧ r.frame = .paddedPixels ∧ r.format ≠ r.frame.format ∧
      r.format.layout.sampling = .rgb) (by decide +kernel)
  obtain ⟨shown, drawn, other, rgb⟩ := of_decide_eq_true found
  have looked : ∀ request ∈ requests, ∀ frame check, request = .present frame check →
      check = true := by
    simp only [requests, List.forall_mem_cons, Request.present.injEq]
    exact ⟨fun _ _ h => h.2.symm, nofun, fun _ _ h => h.2.symm, nofun, List.forall_mem_nil _⟩
  have checked : ∀ x ∈ past, ∀ frame check, x.move = .ask (.present frame check) →
      check = true := by
    intro x hx frame check presented
    obtain ⟨request, hrequest, asked⟩ := Run.exists_request moves hx
    cases presented.symm.trans asked
    exact looked _ hrequest frame check rfl
  obtain ⟨-, draws⟩ := (picture_drawn_with_own_numbers run proper checked).2 shown
  refine ⟨past, r, run, proper, moves, drawn, other, draws.correction (draws.single ?_)⟩
  intro redFirst pairs
  cases rgb.symm.trans pairs

/-- A picture of six by two, with a byte more than three pairs in its row of
chroma. -/
def VideoFrame.oddChroma : VideoFrame :=
  ⟨⟨.nv12, 6, 2, [⟨6, 2⟩, ⟨7, 1⟩]⟩, [⟨Array.replicate 12 16, 6⟩, ⟨Array.replicate 7 128, 7⟩]⟩

/-- **A byte of chroma is overlooked.** The frame is looked at, has the type and
the size of the one before, and slots of the same sizes. So the correction stays
one, where the frame's own is six sevenths. -/
theorem chroma_byte_overlooked : ∃ (tight : VideoFrame) (past : List (Transition Recorder))
    (r : Renderer Recorder), VideoFrame.blank .nv12 6 2 = .ok tight ∧
      Run (.withConfig .initial .standard) past r ∧ (∀ x ∈ past, x.Proper) ∧
      past.map Transition.move = [.ask .prepare, .ask (.present .oddChroma true),
        .ask .prepare, .ask (.present tight true)] ∧
      r.frame = .oddChroma ∧ r.hasFrame = true ∧ r.textures.correction = (1, 1) ∧
      r.frame.format.strideCorrection = (Float32.ofNat 6 / 7, (1 : Float32)) ∧
      r.textures.correction ≠ r.frame.format.strideCorrection := by
  obtain ⟨tight, blank, -⟩ := Checked.exists_ok_of_any
    (show (VideoFrame.blank .nv12 6 2).toOption.any (fun _ => true) = true from rfl)
  have odd : VideoFrame.oddChroma.Made := @VideoFrame.Made.ofPlanes .nv12 6 2
    [⟨Array.replicate 12 16, 6⟩, ⟨Array.replicate 7 128, 7⟩] .oddChroma rfl
  have made : ∀ request ∈ [.present tight true, .prepare, .present .oddChroma true, .prepare],
      Request.Proper request := by
    simp only [List.forall_mem_cons]
    exact ⟨.blank (by decide) blank, trivial, odd, trivial, List.forall_mem_nil _⟩
  cases blank
  obtain ⟨past, r, run, proper, moves, found⟩ := Run.exists_carried (.withConfig .initial .standard)
    made (fun r => r.frame = .oddChroma ∧ r.hasFrame = true ∧ r.textures.correction = (1, 1) ∧
      r.frame.format.strideCorrection = (Float32.ofNat 6 / 7, (1 : Float32)) ∧
      r.textures.correction ≠ r.frame.format.strideCorrection) (by decide +kernel)
  exact ⟨_, past, r, rfl, run, proper, moves, of_decide_eq_true found⟩

end Projector
