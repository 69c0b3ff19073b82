import Projector.Proofs.Tidy

/-!
# Taking a frame

After a frame was taken, the textures have its bytes, they are the ones for
its format, and the program is the one for its type. This is said by
`Core.Current`, and it does not matter how the frame came in: with a format
that differs and is looked at, with one that is not looked at and does not
fit, or with the one that is shown.

Which format is shown afterwards does depend on it. A frame that is neither
looked at nor found out by the upload leaves the format as it was, and one
that is found out replaces it without a word. Both are read off the sizes
of the slots, so `VideoFormat.sameSlots` is all that the upload sees of a
format.

A canvas is taken after the frame. So it meets the texture that was made
for the frame, and is uploaded if it has the size of it. What the canvas has
to do with the one that was there is said by `Overlaid`.
-/

namespace Projector

/-- **Whether the slots of two formats have the same sizes.** -/
def VideoFormat.sameSlots (a b : VideoFormat) : Bool :=
  (List.range 3).all fun i => a.slotSize? i == b.slotSize? i

theorem VideoFormat.sameSlots_iff {a b : VideoFormat} :
    a.sameSlots b = true ↔ ∀ i < 3, a.slotSize? i = b.slotSize? i := by
  unfold sameSlots
  simp

theorem VideoFormat.sameSlots_self (a : VideoFormat) : a.sameSlots a = true :=
  sameSlots_iff.2 fun _ _ => rfl

/-- Formats without slots have the same slots. -/
theorem VideoFormat.sameSlots_of_nil {a b : VideoFormat} (ha : a.layout.slots = [])
    (hb : b.layout.slots = []) : a.sameSlots b = true := by
  rw [sameSlots_iff]
  intro i _
  unfold slotSize?
  rw [ha, hb]
  rfl

/-- **The upload sees the sizes of the slots**, in formats of one type. -/
theorem UploadEngine.Suits.mismatch?_eq_none_iff {e : UploadEngine} {format other : VideoFormat}
    (hs : e.Suits format) (h : format.Formed) (ho : other.Formed)
    (hp : format.pixelType = other.pixelType) :
    e.mismatch? other = none ↔ format.sameSlots other = true := by
  have hlayout : format.layout = other.layout := congrArg PixelType.layout hp
  rw [UploadEngine.mismatch?_eq_none_iff ho, VideoFormat.sameSlots_iff]
  constructor
  · intro hall i _
    cases hi : other.layout.slots[i]? with
    | none =>
      -- neither format has this slot
      unfold VideoFormat.slotSize?
      rw [hlayout, hi]
      rfl
    | some slot =>
      obtain ⟨s, hslot, hsize⟩ := hall i slot hi
      obtain ⟨s', hslot', hsize', -⟩ := hs.slot h (hlayout ▸ hi)
      cases hslot.symm.trans hslot'
      exact hsize'.trans hsize.symm
  · intro hall i slot hi
    have hlt : i < 3 :=
      Nat.lt_of_lt_of_le (List.getElem?_eq_some_iff.1 hi).1 (PixelType.layout_slots_length_le _)
    obtain ⟨s, hslot, hsize, -⟩ := hs.slot h (hlayout ▸ hi)
    exact ⟨s, hslot, (hall i hlt).symm.trans hsize⟩

namespace Renderer

open Step Recorder

/-! ## Uploading -/

/-- **The device shows a frame.** -/
structure Core.Current (c : Core Recorder) (frame : VideoFrame) : Prop where
  /-- The format has its type. -/
  type : c.format.pixelType = frame.format.pixelType
  /-- The textures are the ones for its format. -/
  suits : c.textures.Suits frame.format
  /-- They have its bytes, if it has a picture. -/
  shows : frame.isEmpty = false → c.textures.Shows c.device frame
  /-- Then it is counted. -/
  counted : frame.isEmpty = false → c.textures.drawnFrames ≠ 0

/-- What is current is so in every core that shows it. -/
theorem Core.Current.congr {c c' : Core Recorder} {frame : VideoFrame} (h : c.Current frame)
    (format : c'.format = c.format) (textures : c'.textures = c.textures)
    (shows : c.textures.Shows c.device frame → c.textures.Shows c'.device frame) :
    c'.Current frame := by
  refine ⟨format ▸ h.type, textures ▸ h.suits, fun picture => ?_, textures ▸ h.counted⟩
  rw [textures]
  exact shows (h.shows picture)


/-- **What uploading a frame does**, whether it fits or not. -/
structure Pictured (frame : VideoFrame) (numbers : Nat) (r t : Renderer Recorder) : Prop where
  /-- The renderer is tidy. -/
  tidy : t.core.Tidy
  /-- The frame is shown. -/
  current : t.core.Current frame
  /-- The format is another one if the slots are. -/
  shown : t.format = if r.format.sameSlots frame.format then r.format else frame.format
  /-- Nobody is told. -/
  told : t.announced = r.announced
  /-- The mailbox is as it was. -/
  mailbox : t.core.mailbox = r.core.mailbox
  /-- So are the effects. -/
  shader : t.shader = r.shader
  /-- No canvas is new. -/
  forgets : r.core.overlay.Forgets t.core.overlay
  /-- Nothing was drawn. -/
  calm : r.Calm t
  /-- At most so many numbers are handed out. -/
  lastId : t.bench.device.lastId ≤ r.bench.device.lastId + numbers

/-- Filling the textures leaves a tidy renderer tidy. -/
theorem Core.Tidy.uploaded {c : Core Recorder} (h : c.Tidy) {frame : VideoFrame} {d : Recorder}
    (hd : d = c.device.fillAll (c.textures.fills frame)) :
    Core.Tidy { c with
      device := d
      textures := { c.textures with drawnFrames := c.textures.drawnFrames + 1 } } := by
  subst hd
  have targets : c.device.Targets (c.textures.fills frame) := fun x hx =>
    (h.stocked.live_of_mem_fills hx).imp fun _ => And.left
  have stocked := h.stocked.fillAll targets
  have spares := h.stocked.fills_spares frame
  exact ⟨⟨stocked.orderly, stocked.holds⟩, h.suits, h.formed,
    spares.holds not_isSlotLabel_osd h.osd, spares.employs h.programs, h.keyed,
    spares.labelled h.labelled isPartLabel_of_slot, h.fitted,
    h.displays.spares h.osd spares not_isSlotLabel_osd⟩

/-- **A frame that fits is uploaded.** -/
theorem upload_fits {frame : VideoFrame} {r : Renderer Recorder} (tidy : r.core.Tidy)
    (sound : frame.Sound) (type : r.format.pixelType = frame.format.pixelType)
    (suits : r.textures.Suits frame.format) (picture : frame.isEmpty = false)
    (slots : r.format.sameSlots frame.format = true) :
    (onTextures (UploadEngine.upload frame)).Ends r (fun _ t => Pictured frame 0 r t)
      (fun _ _ => False) fun _ => False := by
  rw [ends_onTextures]
  refine (UploadEngine.upload_ends tidy.stocked suits sound picture).mono ?_ (fun _ _ => id)
    fun _ => id
  rintro - ⟨e, b⟩ ⟨-, uploaded⟩
  have shows : e.Shows b.device frame := uploaded.shows tidy.stocked suits sound
  obtain ⟨rfl, device⟩ := uploaded
  have device : b.device = r.core.device.fillAll (r.core.textures.fills frame) := device
  have lastId : b.device.lastId = r.bench.device.lastId := by
    rw [device]
    exact lastId_fillAll _ _
  refine ⟨tidy.uploaded device, ⟨type, suits, fun _ => shows, fun _ => Nat.succ_ne_zero _⟩, ?_, rfl,
    rfl, rfl, .refl _, ⟨?_, fun _ => id⟩, ?_⟩
  · rw [slots]
    rfl
  · show r.core.device.Still b.device
    rw [device]
    exact (tidy.stocked.fills_spares frame).still
  · exact Nat.le_of_eq lastId

namespace Pictured

variable {frame : VideoFrame} {numbers : Nat} {r s t : Renderer Recorder}

/-- More numbers may be handed out. -/
theorem mono (h : Pictured frame numbers r t) {more : Nat} (hn : numbers ≤ more) :
    Pictured frame more r t :=
  { h with lastId := Nat.le_trans h.lastId (Nat.add_le_add_left hn _) }

/-- The program may be brought up to date before. -/
theorem after_ensured (h : Pictured frame numbers s t) (ensured : Ensured r s) :
    Pictured frame (numbers + 1) r t where
  tidy := h.tidy
  current := h.current
  shown := by rw [h.shown, ensured.format]
  told := h.told.trans ensured.announced
  mailbox := by
    rw [h.mailbox]
    exact congrArg (fun m : Mailbox => { m with redraw := false }) ensured.mailbox
  shader := h.shader.trans ensured.shader
  forgets := by
    have first : s.overlay.image = r.overlay.image := by rw [ensured.overlay]
    exact OsdLayer.Forgets.trans (.inr first) h.forgets
  calm := ensured.calm.trans h.calm
  lastId := by
    have first := ensured.lastId
    have second := h.lastId
    omega

/-- The textures may be made anew before, if they do not fit. -/
theorem after_reset (h : Pictured frame numbers s t) (reset : Reset frame.format false r s)
    (slots : ¬ r.format.sameSlots frame.format = true) : Pictured frame (numbers + 4) r t where
  tidy := h.tidy
  current := h.current
  shown := by rw [if_neg slots, h.shown, reset.shown, ite_self]
  told := h.told.trans (reset.told.trans (List.append_nil _))
  mailbox := h.mailbox.trans reset.mailbox
  shader := h.shader.trans reset.shader
  forgets := reset.forgets.trans h.forgets
  calm := reset.calm.trans h.calm
  lastId := by
    have first := reset.lastId
    have second := h.lastId
    omega

end Pictured

/-- **A frame that does not fit is uploaded after the textures were made
anew**, unless the numbers are used up. -/
theorem upload_refits {frame : VideoFrame} {r : Renderer Recorder} (tidy : r.core.Tidy)
    (sound : frame.Sound) (picture : frame.isEmpty = false)
    (slots : ¬ r.format.sameSlots frame.format = true) :
    (do
      resetFormat frame.format false
      ensureProgram
      onTextures (UploadEngine.upload frame) : Step (Renderer Recorder) Bool).Ends r
      (fun _ t => Pictured frame 5 r t) (fun _ _ => False)
      fun _ => UInt32.size ≤ r.bench.device.lastId + 5 := by
  rw [ends_bind]
  refine (resetFormat_ends false tidy sound.formed).mono ?_ (fun _ _ => id) fun _ hf => by omega
  rintro - s reset
  have first := reset.lastId
  rw [ends_bind]
  refine (ensureProgram_ends reset.tidy).mono ?_ (fun _ _ => id) fun _ hf => by omega
  rintro - t ensured
  have shown : t.format = frame.format := ensured.format.trans reset.shown
  have suits : t.textures.Suits frame.format := shown ▸ ensured.tidy.suits
  have fits : t.format.sameSlots frame.format = true := by
    rw [shown]
    exact VideoFormat.sameSlots_self _
  refine (upload_fits ensured.tidy sound (by rw [shown]) suits picture fits).mono ?_
    (fun _ _ => id) fun _ => False.elim
  exact fun _ u pictured => (pictured.after_ensured ensured).after_reset reset slots

/-- **A frame is uploaded, whether it fits or not**, unless the numbers are
used up. -/
theorem uploadFrame_ends {frame : VideoFrame} {r : Renderer Recorder} (tidy : r.core.Tidy)
    (sound : frame.Sound) (type : r.format.pixelType = frame.format.pixelType) :
    (uploadFrame frame).Ends r (fun _ t => Pictured frame 5 r t) (fun _ _ => False)
      fun _ => UInt32.size ≤ r.bench.device.lastId + 5 := by
  have layout : r.format.layout = frame.format.layout := congrArg PixelType.layout type
  unfold uploadFrame
  rw [ends_bind, ends_attempt]
  cases picture : frame.isEmpty with
  | true =>
    have nil := sound.isEmpty_iff.1 picture
    have slots := VideoFormat.sameSlots_of_nil (layout ▸ nil) nil
    have other : frame.isEmpty ≠ false := by
      rw [picture]
      exact Bool.noConfusion
    rw [ends_onTextures]
    refine (UploadEngine.upload_empty_ends picture).mono ?_ (fun _ _ => False.elim)
      fun _ => False.elim
    rintro - - ⟨rfl, rfl⟩
    refine ⟨tidy, ⟨type, tidy.suits.of_nil (layout ▸ nil) nil, fun h => (other h).elim,
      fun h => (other h).elim⟩, ?_, rfl, rfl, rfl, .refl _, .refl _, Nat.le_add_right _ _⟩
    rw [slots]
    rfl
  | false =>
    cases hm : r.textures.mismatch? frame.format with
    | none =>
      have suits := tidy.suits.of_mismatch? tidy.formed sound.formed type.symm hm
      have slots := (tidy.suits.mismatch?_eq_none_iff tidy.formed sound.formed type).1 hm
      refine (upload_fits tidy sound type suits picture slots).mono ?_ (fun _ _ => False.elim)
        fun _ => False.elim
      exact fun _ t pictured => pictured.mono (Nat.zero_le 5)
    | some x =>
      have slots : ¬ r.format.sameSlots frame.format = true := by
        intro h
        have fits := (tidy.suits.mismatch?_eq_none_iff tidy.formed sound.formed type).2 h
        cases hm.symm.trans fits
      rw [ends_onTextures]
      refine (UploadEngine.upload_mismatch_ends picture
        (sound.slots_isEmpty.trans picture) hm).mono (fun _ _ => False.elim) ?_ fun _ => False.elim
      rintro - - ⟨rfl, rfl⟩
      dsimp only
      rw [ends_bind, ends_modify]
      -- the report does not touch what the textures are made from
      refine (upload_refits (r := report _ r) tidy sound picture slots).mono ?_ (fun _ _ => id)
        fun _ => id
      rintro - t ⟨tidy, current, shown, told, mailbox, shader, forgets, calm, lastId⟩
      exact ⟨tidy, current, shown, told, mailbox, shader, forgets, ⟨calm.still, calm.compiled⟩,
        lastId⟩

/-! ## Taking -/

/-- Whether a frame's format is shown and told of. -/
def announces (r : Renderer Recorder) (frame : VideoFrame) (check : Bool) : Bool :=
  r.compares frame check && !r.format.same frame.format

/-- The format that is shown after a frame was taken. -/
def formatAfter (r : Renderer Recorder) (frame : VideoFrame) (check : Bool) : VideoFormat :=
  if r.announces frame check || !r.format.sameSlots frame.format then frame.format else r.format

/-- The format that is told of when a frame is taken. -/
def tells (r : Renderer Recorder) (frame : VideoFrame) (check : Bool) : List VideoFormat :=
  if r.announces frame check then [frame.format] else []

/-- A frame that is not told of has the type that is shown. -/
theorem type_of_not_announces {r : Renderer Recorder} {frame : VideoFrame} {check : Bool}
    (h : ¬ r.announces frame check = true) : r.format.pixelType = frame.format.pixelType := by
  refine Decidable.byContradiction fun differs => h ?_
  have compared : (r.format.pixelType != frame.pixelType) = true := bne_iff_ne.2 differs
  have same : r.format.same frame.format = false := by
    unfold VideoFormat.same
    rw [show (r.format.pixelType == frame.format.pixelType) = false from
      beq_eq_false_iff_ne.2 differs]
    rfl
  unfold announces compares
  rw [compared, same, Bool.or_true]
  rfl

/-- **What taking a frame does.** -/
structure Taken (frame : VideoFrame) (check : Bool) (r t : Renderer Recorder) : Prop where
  /-- The renderer is tidy. -/
  tidy : t.core.Tidy
  /-- The frame is shown. -/
  current : t.core.Current frame
  /-- The format is another one if it is told of, or if the slots are. -/
  shown : t.format = r.formatAfter frame check
  /-- It may be told of. -/
  told : t.announced = r.announced ++ r.tells frame check
  /-- The mailbox is as it was. -/
  mailbox : t.core.mailbox = r.core.mailbox
  /-- So are the effects. -/
  shader : t.shader = r.shader
  /-- No canvas is new. -/
  forgets : r.core.overlay.Forgets t.core.overlay
  /-- Nothing was drawn. -/
  calm : r.Calm t
  /-- At most ten numbers are handed out. -/
  lastId : t.bench.device.lastId ≤ r.bench.device.lastId + 10

/-- **A frame is taken** unless the numbers are used up. -/
theorem takeFrame_ends {frame : VideoFrame} (check : Bool) {r : Renderer Recorder}
    (tidy : r.core.Tidy) (sound : frame.Sound) :
    (takeFrame frame check).Ends r (fun _ t => Taken frame check r t) (fun _ _ => False)
      fun _ => UInt32.size ≤ r.bench.device.lastId + 10 := by
  -- whatever became of the format, the rest is an upload of a frame of its type
  have rest {s : Renderer Recorder} (tidy : s.core.Tidy)
      (type : s.format.pixelType = frame.format.pixelType) : (fill frame).Ends s
        (fun _ t => Pictured frame 6 s t) (fun _ _ => False)
        fun _ => UInt32.size ≤ s.bench.device.lastId + 6 := by
    rw [ends_fill]
    refine (ensureProgram_ends tidy).mono ?_ (fun _ _ => id) fun _ hf => by omega
    rintro - t ensured
    have first := ensured.lastId
    refine (uploadFrame_ends ensured.tidy sound (by rw [ensured.format, type])).mono ?_
      (fun _ _ => id) fun _ hf => by omega
    rintro - u pictured
    obtain ⟨tidy, current, shown, told, mailbox, shader, forgets, calm, lastId⟩ :=
      pictured.after_ensured ensured
    exact ⟨tidy.congr rfl rfl rfl rfl rfl rfl, current.congr rfl rfl id, shown, told, mailbox,
      shader, forgets, ⟨calm.still, calm.compiled⟩, lastId⟩
  refine takeFrame_ends_of (fun announces => ?_) fun announces => ?_
  · have announces : r.announces frame check = true := announces
    rw [ends_bind]
    refine (resetFormat_ends true tidy sound.formed).mono ?_ (fun _ _ => id) fun _ hf => by omega
    rintro - s reset
    have first := reset.lastId
    refine (rest reset.tidy (by rw [reset.shown])).mono ?_ (fun _ _ => id) fun _ hf => by omega
    rintro - t pictured
    have second := pictured.lastId
    refine ⟨pictured.tidy, pictured.current, ?_, ?_, pictured.mailbox.trans reset.mailbox,
      pictured.shader.trans reset.shader, reset.forgets.trans pictured.forgets,
      reset.calm.trans pictured.calm, by omega⟩
    · unfold formatAfter
      rw [announces, pictured.shown, reset.shown, ite_self]
      rfl
    · unfold tells
      rw [announces, pictured.told, reset.told]
  · have type : r.format.pixelType = frame.format.pixelType := type_of_not_announces announces
    have announces : r.announces frame check = false := Bool.eq_false_iff.2 announces
    refine (rest tidy type).mono ?_ (fun _ _ => id) fun _ hf => by omega
    rintro - t pictured
    have second := pictured.lastId
    refine ⟨pictured.tidy, pictured.current, ?_, ?_, pictured.mailbox, pictured.shader,
      pictured.forgets, pictured.calm, by omega⟩
    · unfold formatAfter
      rw [announces, pictured.shown]
      cases r.format.sameSlots frame.format <;> rfl
    · unfold tells
      rw [announces, pictured.told]
      exact (List.append_nil _).symm

/-! ## Preparing -/

/-- **What becomes of a canvas that waits**, if there is one. -/
structure Overlaid (canvas : Option OsdImage) (r t : Renderer Recorder) : Prop where
  /-- No canvas is there afterwards but the one that waits, or else the one
  that was there. -/
  image : ∀ image, t.overlay.image = some image → canvas.or r.overlay.image = some image
  /-- The one that waits is uploaded if it has pixels and the size of the
  format that is shown. -/
  uploads : ∀ image, canvas = some image → (image.width, image.height) = t.format.size →
    0 < image.width ∧ 0 < image.height → t.overlay.image = some image ∧ t.overlay.uploaded = true

/-- **What taking a canvas does**, if one waits. -/
structure Covered (canvas : Option OsdImage) (r t : Renderer Recorder) : Prop where
  /-- The renderer is tidy. -/
  tidy : t.core.Tidy
  /-- At most the overlay is another one. -/
  same : t = { r with overlay := t.overlay, bench := t.bench }
  /-- It has the canvas that waits. -/
  overlaid : Overlaid canvas r t
  /-- Only its texture is written. -/
  spares : r.bench.device.Spares t.bench.device (· = "osd")
  /-- No number is handed out. -/
  lastId : t.bench.device.lastId = r.bench.device.lastId

/-- What was uploaded from a layer with the canvas that waits, if one does. -/
theorem Covered.of_shown {canvas : Option OsdImage} {r : Renderer Recorder} (tidy : r.core.Tidy)
    {o o' : OsdLayer} {b : Bench Recorder} (shown : OsdLayer.Shown (o, r.bench) (o', b))
    (frameSize : o.frameSize = r.overlay.frameSize) (program : o.program = r.overlay.program)
    (image : o.image = canvas.or r.overlay.image) (displays : o.Displays r.bench.device) :
    Covered canvas r { r with overlay := o', bench := b } := by
  have apart (i : Fin 3) : ¬ UploadEngine.slotLabel i = "osd" := UploadEngine.slotLabel_ne_osd i
  have fitted : o.frameSize = r.format.size := frameSize.trans tidy.fitted
  refine ⟨⟨tidy.stocked.spares shown.spares apart shown.orderly, tidy.suits, tidy.formed,
    shown.holds, ?_, tidy.keyed, shown.spares.labelled tidy.labelled isPartLabel_of_osd,
    shown.frameSize.trans fitted, shown.displays.layer rfl⟩, rfl,
    ⟨fun canvas' kept => ?_, fun canvas' waits size pixels => ?_⟩, shown.spares, shown.lastId⟩
  · show b.device.Employs (o'.employed ++ r.core.employed)
    rw [OsdLayer.employed_congr (shown.program.trans program)]
    exact shown.spares.employs tidy.programs
  · rw [← image]
    exact (shown.forgets.or_eq_some kept : Option.or none o.image = some canvas')
  · have size : (canvas'.width, canvas'.height) = o.frameSize := size.trans fitted.symm
    rw [waits] at image
    exact shown.uploads canvas' image (displays.made (size ▸ pixels)) size

/-- **A canvas is taken** unless there is something to be seen on it, and a
row of it has more bytes than a word counts. -/
theorem takeCanvas_ends {pending : Pending} {r : Renderer Recorder} (tidy : r.core.Tidy) :
    (takeCanvas pending).Ends r (fun _ t => Covered pending.canvas r t) (fun _ _ => False)
      fun _ => ∃ image, pending.canvas.or r.overlay.image = some image ∧ image.Overwide := by
  -- the texture is the same, whether the layer has a new canvas or not
  have shown {o : OsdLayer} (held : o.held = r.overlay.held)
      (frameSize : o.frameSize = r.overlay.frameSize) (program : o.program = r.overlay.program)
      (image : o.image = pending.canvas.or r.overlay.image) (displays : o.Displays r.bench.device) :
      OsdLayer.upload.Ends (o, r.bench)
        (fun _ t => Covered pending.canvas r { r with overlay := t.1, bench := t.2 })
        (fun _ _ => False)
        fun _ => ∃ image, pending.canvas.or r.overlay.image = some image ∧ image.Overwide := by
    have osd : r.bench.device.Holds "osd" o.held := held ▸ tidy.osd
    rw [← image]
    exact (OsdLayer.upload_ends (s := (o, r.bench)) tidy.stocked.orderly osd displays).mono
      (fun _ _ shown => .of_shown tidy shown frameSize program image displays) (fun _ _ => id)
      fun _ => id
  have displays : r.overlay.Displays r.bench.device := tidy.displays.layer rfl
  unfold takeCanvas
  split
  · next canvas hcanvas =>
    rw [ends_bind, ends_modify, ends_onOverlay]
    refine shown (o := r.overlay.setImage canvas) rfl rfl rfl ?_ (displays.setImage canvas)
    rw [hcanvas]
    rfl
  · next none =>
    rw [ends_onOverlay]
    refine shown rfl rfl rfl ?_ displays
    rw [Option.eq_none_iff_forall_ne_some.2 none]
    rfl

/-- What is shown stays shown under another canvas. -/
theorem Covered.current {canvas : Option OsdImage} {frame : VideoFrame} {r t : Renderer Recorder}
    (h : Covered canvas r t) (tidy : r.core.Tidy) (current : r.core.Current frame) :
    t.core.Current frame := by
  have format : t.core.format = r.core.format := by rw [h.same]; rfl
  have textures : t.core.textures = r.core.textures := by rw [h.same]; rfl
  exact current.congr format textures fun shows =>
    shows.spares tidy.stocked h.spares fun i => UploadEngine.slotLabel_ne_osd i

/-- The frame that waits, and whether it is to be checked. -/
def waiting (r : Renderer Recorder) : Option (VideoFrame × Bool) :=
  r.mailbox.take.1.bind Pending.frame

/-- The canvas that waits. -/
def waitingCanvas (r : Renderer Recorder) : Option OsdImage :=
  r.mailbox.take.1.bind Pending.canvas

/-- **What a preparation does**, with the frame that waits. -/
structure Prepared (waiting : Option (VideoFrame × Bool)) (r t : Renderer Recorder) : Prop where
  /-- The renderer is tidy. -/
  tidy : t.core.Tidy
  /-- The frame is shown, -/
  current : ∀ frame check, waiting = some (frame, check) → t.core.Current frame
  /-- or the one that was. -/
  kept : waiting = none → ∀ frame, r.core.Current frame → t.core.Current frame
  /-- The format may be another one. -/
  shown : t.format = waiting.elim r.format fun x => r.formatAfter x.1 x.2
  /-- It may be told of. -/
  told : t.announced = r.announced ++ waiting.elim [] fun x => r.tells x.1 x.2
  /-- Nothing was drawn. -/
  calm : r.Calm t
  /-- At most ten numbers are handed out. -/
  lastId : t.bench.device.lastId ≤ r.bench.device.lastId + 10

/-- What was taken is covered by a canvas. -/
theorem Prepared.covered {waiting : Option (VideoFrame × Bool)} {canvas : Option OsdImage}
    {r t u : Renderer Recorder} (h : Prepared waiting r t) (covered : Covered canvas t u) :
    Prepared waiting r u where
  tidy := covered.tidy
  current frame check e := covered.current h.tidy (h.current frame check e)
  kept e frame current := covered.current h.tidy (h.kept e frame current)
  shown := by rw [covered.same]; exact h.shown
  told := by rw [covered.same]; exact h.told
  calm := by
    refine h.calm.trans ⟨covered.spares.still, fun _ => ?_⟩
    rw [covered.same]
    exact id
  lastId := covered.lastId ▸ h.lastId

theorem Taken.prepared {frame : VideoFrame} {check : Bool} {r t : Renderer Recorder}
    (h : Taken frame check r t) : Prepared (some (frame, check)) r t where
  tidy := h.tidy
  current _ _ e := by
    cases e
    exact h.current
  kept e := nomatch e
  shown := h.shown
  told := h.told
  calm := h.calm
  lastId := h.lastId

/-- **What waits is taken** unless the numbers are used up, or a canvas is
too wide. -/
theorem consume_ends {pending : Pending} {r : Renderer Recorder} (tidy : r.core.Tidy)
    (sound : ∀ frame check, pending.frame = some (frame, check) → frame.Sound) :
    (consume pending).Ends r
      (fun _ t => Prepared pending.frame r t ∧ Overlaid pending.canvas r t)
      (fun _ _ => False)
      fun _ => UInt32.size ≤ r.bench.device.lastId + 10 ∨
        ∃ image, pending.canvas.or r.overlay.image = some image ∧ image.Overwide := by
  have first : (takePending pending).Ends r
      (fun _ t => Prepared pending.frame r t ∧ r.core.overlay.Forgets t.core.overlay)
      (fun _ _ => False) fun _ => UInt32.size ≤ r.bench.device.lastId + 10 := by
    unfold takePending
    split
    · next frame check hframe =>
      refine (takeFrame_ends check tidy (sound frame check hframe)).mono ?_ (fun _ _ => id)
        fun _ => id
      rintro - t taken
      rw [hframe]
      exact ⟨taken.prepared, taken.forgets⟩
    · next hframe =>
      rw [hframe]
      refine ⟨⟨tidy, fun _ _ e => (nomatch e), fun _ _ => id, rfl, ?_, .refl _,
        Nat.le_add_right _ _⟩, .refl _⟩
      exact (List.append_nil _).symm
  unfold consume
  rw [ends_bind]
  refine first.mono ?_ (fun _ _ => id) fun _ => .inl
  rintro - t ⟨prepared, forgets⟩
  -- the canvas that is there may be dropped with the format, and is never another one
  have forgets : r.overlay.Forgets t.overlay := forgets
  rw [ends_bind]
  refine (takeCanvas_ends prepared.tidy).mono ?_ (fun _ _ => id) ?_
  · intro _ u covered
    refine ⟨prepared.covered covered, fun image himage => ?_, covered.overlaid.uploads⟩
    exact forgets.or_eq_some (covered.overlaid.image image himage)
  · rintro - ⟨image, himage, wide⟩
    exact .inr ⟨image, forgets.or_eq_some himage, wide⟩

/-- **A preparation is never refused**, and it is done unless the numbers are
used up, or a canvas is too wide. -/
theorem prepare_ends {r : Renderer Recorder} (tidy : r.core.Tidy)
    (sound : ∀ frame check, r.waiting = some (frame, check) → frame.Sound) :
    prepare.Ends r
      (fun _ t => Prepared r.waiting r t ∧ Overlaid r.waitingCanvas r t)
      (fun _ _ => False)
      fun _ => UInt32.size ≤ r.bench.device.lastId + 10 ∨
        ∃ image, r.waitingCanvas.or r.overlay.image = some image ∧ image.Overwide := by
  unfold waiting at sound ⊢
  unfold waitingCanvas
  have tidy' (mailbox : Mailbox) : Core.Tidy (Renderer.core { r with mailbox }) :=
    tidy.congr rfl rfl rfl rfl rfl rfl
  refine prepare_ends_of (fun mailbox htake => ?_) fun pending mailbox htake => ?_
  · rw [htake]
    refine ⟨⟨tidy' mailbox, fun _ _ e => (nomatch e), ?_, rfl, (List.append_nil _).symm,
      ⟨.refl _, fun _ => id⟩, Nat.le_add_right _ _⟩, fun _ => id, fun _ e => nomatch e⟩
    exact fun _ _ current => current.congr rfl rfl id
  · rw [htake] at sound ⊢
    refine (consume_ends (tidy' mailbox) sound).mono ?_ (fun _ _ => id) fun _ => id
    rintro - t ⟨⟨tidy, current, kept, shown, told, calm, lastId⟩, overlaid⟩
    refine ⟨⟨tidy, current, fun e frame c => ?_, shown, told, ⟨calm.still, calm.compiled⟩, lastId⟩,
      overlaid.image, overlaid.uploads⟩
    exact kept e frame (c.congr rfl rfl id)

end Renderer

end Projector
