import Projector.Proofs.Overlay
import Projector.Proofs.Run
import Projector.Proofs.Upload

/-!
# A renderer on a recording device

The objects of a renderer are kept in four places: three slots, the texture
of the overlay, the video program and the program of the overlay. A
renderer is *tidy* if these are exactly the objects of the device, each
with the label, the size or the text that the renderer believes it has, and
if the texture of the overlay is the one for the format. Every operation
leaves a tidy renderer tidy, and on a device where it is, nothing is refused
but programs.

The specifications below say what each operation does to the core of the
renderer. The one of `takeFrame` is what the rest is about: after it the
textures suit the format, the program is the one for the format's type, and
a frame with a picture is what the device shows.
-/

namespace Projector.Renderer

open Step Recorder

/-! ## Tidiness -/

/-- **The video program, with its text.** -/
def Core.employed {δ : Type} (c : Core δ) : List (ProgramId × String) :=
  match c.program, c.programKey.bind Program.source? with
  | some p, some source => [(p, source)]
  | _, _ => []

/-- Whether a label is one of a part of the renderer. -/
def IsPartLabel (label : String) : Prop := label = "osd" ∨ UploadEngine.IsSlotLabel label

/-- **The objects of a renderer are those of its device.** -/
structure Core.Tidy (c : Core Recorder) : Prop where
  /-- The textures of the slots are there, and the books are in order. -/
  stocked : c.textures.Stocked c.device
  /-- They are the ones for the format. -/
  suits : c.textures.Suits c.format
  /-- The format was made. -/
  formed : c.format.Formed
  /-- The texture of the overlay is there. -/
  osd : c.device.Holds "osd" c.overlay.held
  /-- The programs are those of the overlay and of the video. -/
  programs : c.device.Employs (c.overlay.employed ++ c.employed)
  /-- The video program has the text of its key. -/
  keyed : ∀ p, c.program = some p → ∃ source, c.programKey.bind Program.source? = some source
  /-- There are no other textures. -/
  labelled : c.device.Labelled IsPartLabel
  /-- The texture of the overlay is made for the format. -/
  fitted : c.overlay.frameSize = c.format.size
  /-- The overlay shows the canvas that it was given. -/
  displays : c.overlay.Displays c.device

theorem Core.employed_of_none {δ : Type} {c : Core δ} (h : c.program = none) :
    c.employed = [] := by
  unfold employed
  rw [h]

theorem Core.employed_of_some {δ : Type} {c : Core δ} {p : ProgramId} {source : String}
    (h : c.program = some p) (hs : c.programKey.bind Program.source? = some source) :
    c.employed = [(p, source)] := by
  unfold employed
  rw [h, hs]

theorem Core.employed_congr {δ : Type} {c c' : Core δ} (program : c'.program = c.program)
    (key : c'.programKey = c.programKey) : c'.employed = c.employed := by
  unfold employed
  rw [program, key]

/-- The mailbox, what was told and the last frame are not what makes a
renderer tidy. -/
theorem Core.Tidy.congr {c c' : Core Recorder} (h : c.Tidy) (device : c'.device = c.device)
    (textures : c'.textures = c.textures) (format : c'.format = c.format)
    (overlay : c'.overlay = c.overlay) (program : c'.program = c.program)
    (key : c'.programKey = c.programKey) : c'.Tidy := by
  refine ⟨?_, ?_, ?_, ?_, ?_, ?_, ?_, ?_, ?_⟩
  · rw [textures, device]
    exact h.stocked
  · rw [textures, format]
    exact h.suits
  · rw [format]
    exact h.formed
  · rw [device, overlay]
    exact h.osd
  · rw [device, overlay, Core.employed_congr program key]
    exact h.programs
  · rw [program, key]
    exact h.keyed
  · rw [device]
    exact h.labelled
  · rw [overlay, format]
    exact h.fitted
  · rw [overlay, device]
    exact h.displays

/-- A tidy renderer is tidy on every device with the same objects. -/
theorem Core.Tidy.onDevice {c : Core Recorder} (h : c.Tidy) {d : Recorder} (orderly : d.Orderly)
    (same : c.device.SamePictures d) (programs : d.programs = c.device.programs) :
    Core.Tidy { c with device := d } := by
  refine ⟨h.stocked.samePictures same orderly, h.suits, h.formed, same.holds h.osd,
    ⟨fun p source => ?_, h.programs.once⟩, h.keyed, same.labelled h.labelled, h.fitted,
    h.displays.samePictures same⟩
  show d.programs.get? p = some source ↔ _
  rw [programs]
  exact h.programs.live p source

/-! ## The video -/

/-- The video program is on the device. -/
theorem Core.Tidy.live_program {c : Core Recorder} (h : c.Tidy) {p : ProgramId}
    (hp : c.program = some p) : ∃ source, c.programKey.bind Program.source? = some source ∧
      c.device.programs.get? p = some source := by
  obtain ⟨source, hsource⟩ := h.keyed p hp
  refine ⟨source, hsource, (h.programs.live p source).2 (List.mem_append_right _ ?_)⟩
  rw [employed_of_some hp hsource]
  exact List.mem_singleton.2 rfl

/-- The overlay has a program of its own. -/
theorem Core.Tidy.programs_ne {c : Core Recorder} (h : c.Tidy) {p : ProgramId}
    (hp : c.program = some p) : c.overlay.program ≠ some p := by
  intro ho
  -- both programs would be listed, with one number
  obtain ⟨source, hsource⟩ := h.keyed p hp
  have once := h.programs.once
  unfold OsdLayer.employed at once
  rw [ho, employed_of_some hp hsource] at once
  exact (List.nodup_cons.1 once).1 (List.mem_singleton.2 rfl)

/-- **No program was refused**: one is missing only if there is no text for
it. -/
def Core.Compiled {δ : Type} (c : Core δ) : Prop :=
  c.program = none → c.programKey.bind Program.source? = none

/-- **What work outside a pass does**: it draws nothing, and a device that
does not refuse programs compiles them. -/
structure Calm (r t : Renderer Recorder) : Prop where
  /-- Nothing was drawn. -/
  still : r.bench.device.Still t.bench.device
  /-- What is needed was compiled. -/
  compiled : r.bench.device.refusesPrograms = false → r.core.Compiled → t.core.Compiled

theorem Calm.refl (r : Renderer Recorder) : r.Calm r := ⟨.refl _, fun _ => id⟩

theorem Calm.trans {r s t : Renderer Recorder} (h : r.Calm s) (h' : s.Calm t) : r.Calm t :=
  ⟨h.still.trans h'.still, fun compiles compiled =>
    h'.compiled (h.still.refusesPrograms.trans compiles) (h.compiled compiles compiled)⟩

/-! ## Showing another format -/

/-- **What showing another format does.** -/
structure Reset (format : VideoFormat) (notify : Bool) (r t : Renderer Recorder) : Prop where
  /-- The renderer is tidy. -/
  tidy : t.core.Tidy
  /-- The format is shown. -/
  shown : t.format = format
  /-- It is told of, if it is to be. -/
  told : t.announced = r.announced ++ if notify then [format] else []
  /-- The mailbox is as it was. -/
  mailbox : t.core.mailbox = r.core.mailbox
  /-- So are the effects. -/
  shader : t.shader = r.shader
  /-- No canvas is new. -/
  forgets : r.core.overlay.Forgets t.core.overlay
  /-- Nothing was drawn. -/
  calm : r.Calm t
  /-- At most four numbers are handed out. -/
  lastId : t.bench.device.lastId ≤ r.bench.device.lastId + 4

theorem shader_updateGeometry {δ : Type} (r : Renderer δ) : r.updateGeometry.shader = r.shader := by
  unfold updateGeometry
  dsimp only
  split <;> rfl

/-- Work on the texture of the overlay leaves a texture of each part. -/
theorem isPartLabel_of_osd (label : String) (h : label = "osd") : IsPartLabel label := .inl h

theorem isPartLabel_of_slot (label : String) (h : UploadEngine.IsSlotLabel label) :
    IsPartLabel label := .inr h

theorem not_isSlotLabel_osd : ¬ UploadEngine.IsSlotLabel "osd" :=
  fun ⟨i, h⟩ => UploadEngine.slotLabel_ne_osd i h.symm

/-- What was not told of can be told of afterwards. -/
theorem Reset.tell {format : VideoFormat} {r t : Renderer Recorder} (h : Reset format false r t) :
    Reset format true r (t.emit (.formatChanged format)) := by
  have announced : t.announced = r.announced := h.told.trans (List.append_nil _)
  have told : (t.emit (.formatChanged format)).announced = r.announced ++ [format] := by
    rw [announced_emit, announced]
    rfl
  exact ⟨h.tidy.congr rfl rfl rfl rfl rfl rfl, h.shown, told, h.mailbox, h.shader, h.forgets,
    ⟨h.calm.still, h.calm.compiled⟩, h.lastId⟩

/-- **Another format is shown** unless the numbers are used up. -/
theorem resetFormat_ends {format : VideoFormat} (notify : Bool) {r : Renderer Recorder}
    (tidy : r.core.Tidy) (formed : format.Formed) :
    (resetFormat format notify).Ends r (fun _ t => Reset format notify r t) (fun _ _ => False)
      fun _ => UInt32.size ≤ r.bench.device.lastId + 4 := by
  unfold resetFormat
  simp only [ends_bind, ends_modify, ends_onOverlay, ends_onTextures]
  refine (OsdLayer.setFrameSize_ends format.size tidy.stocked.orderly tidy.osd
    (tidy.displays.layer rfl)).mono ?_ (fun _ _ => False.elim) fun _ hf => ?_
  · rintro - ⟨o, b⟩ resized
    have apart (i : Fin 3) : ¬ UploadEngine.slotLabel i = "osd" := UploadEngine.slotLabel_ne_osd i
    have stocked := tidy.stocked.spares resized.spares apart resized.orderly
    have first : b.device.lastId ≤ r.bench.device.lastId + 1 := resized.lastId
    have missing := r.textures.missing_le format
    refine (UploadEngine.ensureAllocated_ends format stocked).mono ?_ (fun _ _ => False.elim) ?_
    · rintro - ⟨e, b'⟩ allocated
      -- the state before the geometry follows
      generalize hu : ({ report _ r with
        textures := e, bench := b', overlay := o, format, geometry := _ } : Renderer Recorder) = u
      have core : u.updateGeometry.core = { r.core with
          device := b'.device, format := format, textures := e
          overlay := { o with enabled := false } } := by
        rw [core_updateGeometry, ← hu]
        rfl
      have reset : Reset format false r u.updateGeometry := by
        have device : u.updateGeometry.bench.device = b'.device := congrArg Core.device core
        refine ⟨?_, congrArg Core.format core, ?_, by rw [core], ?_, ?_, ?_, ?_⟩
        · rw [core]
          refine ⟨allocated.stocked, allocated.suits, formed, ?_, ?_, tidy.keyed, ?_,
            resized.frameSize, ?_⟩
          · exact allocated.spares.holds not_isSlotLabel_osd resized.holds
          · show b'.device.Employs (o.employed ++ r.core.employed)
            rw [OsdLayer.employed_congr resized.program]
            exact allocated.spares.employs (resized.spares.employs tidy.programs)
          · exact allocated.spares.labelled (resized.spares.labelled tidy.labelled
              isPartLabel_of_osd) isPartLabel_of_slot
          · have displays : o.Displays b'.device :=
              resized.displays.spares resized.holds allocated.spares not_isSlotLabel_osd
            exact displays.layer rfl
        · exact (congrArg Core.announced core).trans (List.append_nil _).symm
        · rw [shader_updateGeometry, ← hu]
          rfl
        · rw [core]
          exact resized.forgets
        · refine ⟨?_, fun _ compiled => ?_⟩
          · rw [device]
            exact resized.spares.still.trans allocated.spares.still
          · rw [core]
            exact compiled
        · rw [device]
          have second : b'.device.lastId = b.device.lastId + r.textures.missing format :=
            allocated.lastId
          omega
      cases notify with
      | false => exact reset
      | true => exact reset.tell
    · intro _ hf
      have : UInt32.size ≤ b.device.lastId + r.textures.missing format := hf
      omega
  · have : UInt32.size ≤ r.bench.device.lastId + 1 := hf
    omega

/-! ## The video program -/

/-- **What dropping the video program does**, beside programs `others` of
other parts. -/
structure Dropped (others : List (ProgramId × String)) (d d' : Recorder) : Prop where
  /-- The books are in order. -/
  orderly : d'.Orderly
  /-- The other programs are left. -/
  programs : d'.Employs others
  /-- So are the textures and their bytes. -/
  pictures : d.SamePictures d'
  /-- Nothing was drawn. -/
  still : d.Still d'
  /-- No number is handed out. -/
  lastId : d'.lastId = d.lastId

/-- **The video program is dropped**, if there is one. -/
theorem dropProgram_drops {others : List (ProgramId × String)} {r : Renderer Recorder}
    (orderly : r.bench.device.Orderly)
    (programs : r.bench.device.Employs (others ++ r.core.employed))
    (keyed : ∀ p, r.program = some p → ∃ source, r.programKey.bind Program.source? = some source) :
    ∃ bench, r.dropProgram = { r with program := none, bench := bench } ∧
      Dropped others r.bench.device bench.device := by
  unfold dropProgram
  split
  · next hnone =>
    rw [Core.employed_of_none hnone, List.append_nil] at programs
    refine ⟨r.bench, ?_, orderly, programs, .refl _, .refl _, rfl⟩
    rw [← hnone]
  · next p hp =>
    obtain ⟨source, hsource⟩ := keyed p hp
    rw [Core.employed_of_some hp hsource] at programs
    have live := (programs.live p source).2 (List.mem_append_right _ (List.mem_singleton.2 rfl))
    refine ⟨_, rfl, orderly.destroyProgram live, ?_, ⟨rfl, rfl⟩, ⟨rfl, rfl, ?_⟩, rfl⟩
    · exact (programs.perm List.perm_append_comm).destroyProgram
    · exact (drawings_record _ _).trans (List.append_nil _)

/-- **What bringing the program up to date does.** -/
structure Ensured (r t : Renderer Recorder) : Prop where
  /-- The renderer is tidy. -/
  tidy : t.core.Tidy
  /-- The program was asked for with the type and the effects. -/
  key : t.programKey = some (r.shader.programKey r.format.pixelType)
  /-- At most the program is another one. -/
  same : t = { r with bench := t.bench, program := t.program, programKey := t.programKey }
  /-- The textures and their bytes are the same. -/
  pictures : r.bench.device.SamePictures t.bench.device
  /-- Nothing was drawn. -/
  calm : r.Calm t
  /-- At most one number is handed out. -/
  lastId : t.bench.device.lastId ≤ r.bench.device.lastId + 1

namespace Ensured

variable {r t : Renderer Recorder}

theorem format (h : Ensured r t) : t.format = r.format := by rw [h.same]

theorem textures (h : Ensured r t) : t.textures = r.textures := by rw [h.same]

theorem overlay (h : Ensured r t) : t.overlay = r.overlay := by rw [h.same]

theorem shader (h : Ensured r t) : t.shader = r.shader := by rw [h.same]

theorem mailbox (h : Ensured r t) : t.mailbox = r.mailbox := by rw [h.same]

theorem announced (h : Ensured r t) : t.announced = r.announced := by
  rw [h.same]
  rfl

end Ensured

/-- A tidy renderer with another program is tidy. -/
theorem Core.Tidy.reprogram {c : Core Recorder} (h : c.Tidy) {d : Recorder}
    {program : Option ProgramId} {key : Option ProgramKey} (orderly : d.Orderly)
    (same : c.device.SamePictures d)
    (programs : d.Employs (c.overlay.employed ++
      Core.employed { c with program := program, programKey := key }))
    (keyed : ∀ p, program = some p → ∃ source, key.bind Program.source? = some source) :
    Core.Tidy { c with device := d, program := program, programKey := key } :=
  ⟨h.stocked.samePictures same orderly, h.suits, h.formed, same.holds h.osd, programs, keyed,
    same.labelled h.labelled, h.fitted, h.displays.samePictures same⟩

/-- **The program is brought up to date** unless the numbers are used up. A
program that is refused is none. -/
theorem ensureProgram_ends {r : Renderer Recorder} (tidy : r.core.Tidy) :
    ensureProgram.Ends r (fun _ t => Ensured r t) (fun _ _ => False)
      fun _ => UInt32.size ≤ r.bench.device.lastId + 1 := by
  unfold ensureProgram
  rw [ends_bind, ends_get]
  dsimp only
  split
  · next hkey => exact ⟨tidy, hkey, rfl, .refl _, .refl _, Nat.le_succ _⟩
  obtain ⟨bench, e, drop⟩ := dropProgram_drops tidy.stocked.orderly tidy.programs tidy.keyed
  have lastId := drop.lastId
  simp only [ends_bind, ends_modify]
  rw [e]
  -- without a program the renderer is tidy, and so it is with one that was made
  have without : Core.Tidy { r.core with
      device := bench.device
      program := none
      programKey := some (r.shader.programKey r.format.pixelType) } := by
    refine tidy.reprogram drop.orderly drop.pictures ?_ fun p h => by cases h
    rw [Core.employed_of_none rfl, List.append_nil]
    exact drop.programs
  split
  · next hsource =>
    exact ⟨without, rfl, rfl, drop.pictures, ⟨drop.still, fun _ _ _ => hsource⟩,
      Nat.le_succ_of_le (Nat.le_of_eq lastId)⟩
  · next source hsource =>
    simp only [ends_bind, ends_attempt, ends_onDevice]
    refine (createProgram_ends bench.device _).mono ?_ ?_ fun _ hf => ?_
    · rintro p d ⟨-, hn, rfl, rfl⟩
      refine ⟨?_, rfl, rfl, drop.pictures.trans ⟨rfl, rfl⟩, ⟨?_, fun _ _ h => by cases h⟩, ?_⟩
      · have text : (some (r.shader.programKey r.format.pixelType)).bind Program.source? =
            some source := hsource
        refine without.reprogram (drop.orderly.compiled hn source) ⟨rfl, rfl⟩ ?_ fun _ _ =>
          ⟨source, text⟩
        rw [Core.employed_of_some rfl text]
        exact (drop.programs.compiled drop.orderly source).perm
          (List.perm_append_singleton _ _).symm
      · exact drop.still.trans ⟨rfl, rfl, (drawings_record _ _).trans (List.append_nil _)⟩
      · exact Nat.le_of_eq (congrArg (· + 1) lastId)
    · rintro x d ⟨refuses, rfl, -⟩
      refine ⟨without, rfl, rfl, drop.pictures, ⟨drop.still, fun compiles _ => ?_⟩,
        Nat.le_succ_of_le (Nat.le_of_eq lastId)⟩
      -- this device does refuse programs
      rw [drop.still.refusesPrograms, compiles] at refuses
      cases refuses
    · rwa [lastId] at hf

end Projector.Renderer
