import Projector.Proofs.Take

/-!
# How many numbers a preparation takes

A device hands out a number for every texture and every program that it
makes, and it has no more of them than a word counts. A call that asks for
one more breaks. So whether a preparation breaks is a matter of how many
objects it makes, and this can be told beforehand: a program if the one that
is there has another key, a texture for the overlay if its size differs, and a
texture for every slot that another format fits differently.

The bounds in the specifications of the operations are upper ones. Here the
numbers are exact, so that a device with one number left still makes one
object.

Which program there is afterwards is told by the same count. A key that is
remembered is not tried again, whether it was compiled or not.
-/

namespace Projector

open Step Recorder

/-- A device that refuses programs does not run out of numbers for them. -/
theorem Recorder.createProgram_numbers (d : Recorder) (desc : ProgramDesc) :
    (createProgram desc).Ends d (fun _ _ => True) (fun _ _ => True)
      fun _ => d.refusesPrograms = false := by
  unfold createProgram
  simp only [ends_bind, ends_get]
  split
  · exact trivial
  · next willing =>
    exact (ends_somehow _ d).mono (fun _ _ => id) (fun _ _ => id) fun _ _ =>
      Bool.eq_false_iff.2 willing

/-! ## The texture of the overlay -/

/-- **How many textures the overlay makes for a size.** -/
def OsdLayer.sizeNumbers (o : OsdLayer) (size : Nat × Nat) : Nat :=
  if o.frameSize = size ∧ o.texture.isSome then 0 else if 0 < size.1 ∧ 0 < size.2 then 1 else 0

theorem OsdLayer.sizeNumbers_le (o : OsdLayer) (size : Nat × Nat) : o.sizeNumbers size ≤ 1 := by
  unfold sizeNumbers
  split
  · exact Nat.zero_le 1
  · split <;> decide

/-- Dropping a texture takes no number. -/
theorem OsdLayer.dropTexture_numbers (s : OsdLayer × Bench Recorder) :
    dropTexture.Ends s (fun _ t => t.2.device.lastId = s.2.device.lastId) (fun _ _ => True)
      fun _ => False := by
  unfold dropTexture
  simp only [ends_bind, ends_get]
  split
  · simp only [ends_bind, Bench.ends_change, Bench.ends_tell]
    rfl
  · rfl

/-- **A texture is made for a size** unless it is the last one's, or has no
pixels. -/
theorem OsdLayer.setFrameSize_numbers (size : Nat × Nat) (s : OsdLayer × Bench Recorder) :
    (setFrameSize size).Ends s
      (fun _ t => t.2.device.lastId = s.2.device.lastId + s.1.sizeNumbers size) (fun _ _ => True)
      fun _ => UInt32.size ≤ s.2.device.lastId + s.1.sizeNumbers size := by
  unfold setFrameSize sizeNumbers
  simp only [ends_bind, ends_get]
  split
  · rfl
  simp only [ends_bind, Bench.ends_change]
  refine (dropTexture_numbers s).mono ?_ (fun _ _ => id) fun _ => False.elim
  rintro - t same
  unfold makeTexture
  split
  · next pixels =>
    simp only [ends_bind, Bench.ends_call, Bench.ends_change, Bench.ends_note]
    refine (createTexture_ends t.2.device pixels.1 pixels.2).mono ?_ (fun _ _ _ => trivial) ?_
    · rintro - d ⟨-, -, rfl⟩
      exact congrArg (· + 1) same
    · exact fun _ full => same ▸ full
  · exact same

namespace Renderer

/-! ## The video program -/

/-- **Whether a program is compiled** to draw pictures of a type. -/
def compiles (r : Renderer Recorder) (type : PixelType) : Bool :=
  r.programKey != some (r.shader.programKey type) && (r.shader.fragmentSource type).isSome &&
    !r.bench.device.refusesPrograms

/-- **The program to draw pictures of a type with**, once it is brought up to
date. -/
def nextProgram (r : Renderer Recorder) (type : PixelType) : Option ProgramId :=
  if r.programKey = some (r.shader.programKey type) then r.program
  else if r.compiles type then some r.bench.device.freshProgram else none

/-- **The calls that bring it up to date.** -/
def programCalls (r : Renderer Recorder) (type : PixelType) : List DeviceRecord :=
  if r.programKey = some (r.shader.programKey type) then []
  else (r.program.map .destroyProgram).toList ++
    if r.compiles type then [.createProgram r.bench.device.freshProgram] else []

/-- A key that is remembered is not compiled again. -/
theorem compiles_of_key {r : Renderer Recorder} {type : PixelType}
    (key : r.programKey = some (r.shader.programKey type)) : r.compiles type = false := by
  unfold compiles
  rw [key, bne_self_eq_false]
  rfl

/-- **What bringing the program up to date comes to.** -/
structure Updated (r t : Renderer Recorder) : Prop where
  /-- The program is the next one. -/
  program : t.program = r.nextProgram r.format.pixelType
  /-- The calls for it were made. -/
  calls : t.bench.device.calls.toList =
    r.bench.device.calls.toList ++ r.programCalls r.format.pixelType
  /-- A number is handed out if a program was compiled. -/
  lastId : t.bench.device.lastId =
    r.bench.device.lastId + (r.compiles r.format.pixelType).toNat

/-- What dropping the video program does to the device. -/
theorem device_dropProgram (r : Renderer Recorder) :
    r.dropProgram.bench.device.calls.toList =
        r.bench.device.calls.toList ++ (r.program.map .destroyProgram).toList ∧
      r.dropProgram.bench.device.lastId = r.bench.device.lastId ∧
      r.dropProgram.bench.device.refusesPrograms = r.bench.device.refusesPrograms ∧
      r.dropProgram.program = none := by
  unfold dropProgram
  cases hp : r.program with
  | none => exact ⟨(List.append_nil _).symm, rfl, rfl, hp⟩
  | some p => exact ⟨Array.toList_push, rfl, rfl, rfl⟩

/-- A program that has its key is up to date. -/
theorem Updated.of_key {r : Renderer Recorder}
    (key : r.programKey = some (r.shader.programKey r.format.pixelType)) : Updated r r where
  program := by
    unfold nextProgram
    rw [if_pos key]
  calls := by
    unfold programCalls
    rw [if_pos key, List.append_nil]
  lastId := by
    rw [compiles_of_key key]
    rfl

/-- Without a program that is compiled, the old one is dropped at most. -/
theorem Updated.of_dropped {r t : Renderer Recorder}
    (key : ¬ r.programKey = some (r.shader.programKey r.format.pixelType))
    (no : r.compiles r.format.pixelType = false) (program : t.program = r.dropProgram.program)
    (device : t.bench.device = r.dropProgram.bench.device) : Updated r t := by
  obtain ⟨calls, lastId, -, none⟩ := r.device_dropProgram
  refine ⟨?_, ?_, ?_⟩
  · unfold nextProgram
    rw [if_neg key, no, program, none]
    rfl
  · unfold programCalls
    rw [if_neg key, no, device, calls, if_neg Bool.false_ne_true, List.append_nil]
  · rw [no, device, lastId]
    rfl

/-- A program that is compiled replaces the old one. -/
theorem Updated.of_compiled {r t : Renderer Recorder} {source : String}
    (key : ¬ r.programKey = some (r.shader.programKey r.format.pixelType))
    (yes : r.compiles r.format.pixelType = true)
    (program : t.program = some r.dropProgram.bench.device.freshProgram)
    (device : t.bench.device = r.dropProgram.bench.device.compiled source) : Updated r t := by
  obtain ⟨calls, lastId, -, -⟩ := r.device_dropProgram
  have fresh : r.dropProgram.bench.device.freshProgram = r.bench.device.freshProgram :=
    congrArg (fun n => ProgramId.mk (n + 1)) lastId
  refine ⟨?_, ?_, ?_⟩
  · unfold nextProgram
    rw [if_neg key, if_pos yes, program, fresh]
  · unfold programCalls
    rw [if_neg key, if_pos yes, device, ← fresh]
    show (Array.push _ _).toList = _
    rw [Array.toList_push, calls, List.append_assoc]
  · rw [yes, device]
    exact congrArg (· + 1) lastId

/-- **The program is brought up to date** unless it is to be compiled and the
numbers are used up. -/
theorem ensureProgram_updates (r : Renderer Recorder) :
    ensureProgram.Ends r (fun _ t => Updated r t) (fun _ _ => False)
      fun _ => UInt32.size ≤ r.bench.device.lastId + (r.compiles r.format.pixelType).toNat := by
  have source : Program.source? (r.shader.programKey r.format.pixelType) =
    r.shader.fragmentSource r.format.pixelType := rfl
  unfold ensureProgram
  rw [ends_bind, ends_get]
  dsimp only
  split
  · next key => exact .of_key key
  next key =>
  obtain ⟨-, lastId, refuses, -⟩ := r.device_dropProgram
  simp only [ends_bind, ends_modify]
  split
  · next none =>
    refine .of_dropped key ?_ rfl rfl
    unfold compiles
    rw [source.symm.trans none, Option.isSome_none, Bool.and_false]
    rfl
  · next text some =>
    have asked : r.compiles r.format.pixelType = !r.dropProgram.bench.device.refusesPrograms := by
      unfold compiles
      rw [bne_iff_ne.2 key, source.symm.trans some, refuses]
      rfl
    simp only [ends_bind, ends_attempt, ends_onDevice]
    refine ((createProgram_ends r.dropProgram.bench.device _).and
      (createProgram_numbers _ _)).mono ?_ ?_ ?_
    · rintro p d ⟨⟨willing, -, rfl, rfl⟩, -⟩
      rw [willing] at asked
      exact .of_compiled key asked rfl rfl
    · rintro x d ⟨⟨unwilling, rfl, -⟩, -⟩
      rw [unwilling] at asked
      exact .of_dropped key asked rfl rfl
    · rintro - ⟨full, willing⟩
      rw [asked, willing, ← lastId]
      exact full

/-! ## Showing another format -/

/-- **How many textures are made to show a format.** -/
def resetNumbers (r : Renderer Recorder) (format : VideoFormat) : Nat :=
  r.overlay.sizeNumbers format.size + r.textures.missing format

/-- **What work on textures does**: so many numbers are handed out, and the
program is left alone. -/
structure Spends (numbers : Nat) (r t : Renderer Recorder) : Prop where
  /-- The program is the same. -/
  program : t.program = r.program
  /-- So is its key. -/
  key : t.programKey = r.programKey
  /-- So many numbers are handed out. -/
  lastId : t.bench.device.lastId = r.bench.device.lastId + numbers

/-- **Another format is shown** unless the textures for it are more than there
are numbers. -/
theorem resetFormat_spends {format : VideoFormat} (notify : Bool) {r : Renderer Recorder}
    (tidy : r.core.Tidy) :
    (resetFormat format notify).Ends r (fun _ t => Spends (r.resetNumbers format) r t)
      (fun _ _ => True) fun _ => UInt32.size ≤ r.bench.device.lastId + r.resetNumbers format := by
  have told {s : Renderer Recorder} (h : Spends (r.resetNumbers format) r s) :
      (if notify then modify (emit (.formatChanged format)) else pure () :
        Step (Renderer Recorder) PUnit).Ends s
        (fun _ t => Spends (r.resetNumbers format) r t) (fun _ _ => True)
        fun _ => UInt32.size ≤ r.bench.device.lastId + r.resetNumbers format := by
    cases notify with
    | false => exact h
    | true => exact ⟨h.program, h.key, h.lastId⟩
  have apart (i : Fin 3) : ¬ UploadEngine.slotLabel i = "osd" := UploadEngine.slotLabel_ne_osd i
  unfold resetFormat
  simp only [ends_bind, ends_modify, ends_onOverlay, ends_onTextures]
  refine ((OsdLayer.setFrameSize_ends format.size tidy.stocked.orderly tidy.osd
    (tidy.displays.layer rfl)).and (OsdLayer.setFrameSize_numbers format.size _)).mono ?_
    (fun _ _ _ => trivial) ?_
  · rintro - ⟨o, b⟩ ⟨resized, first⟩
    have first : b.device.lastId = r.bench.device.lastId + r.overlay.sizeNumbers format.size :=
      first
    have stocked := tidy.stocked.spares resized.spares apart resized.orderly
    refine (UploadEngine.ensureAllocated_ends format stocked).mono ?_ (fun _ _ => False.elim) ?_
    · rintro - ⟨e, b'⟩ allocated
      have second : b'.device.lastId = b.device.lastId + r.textures.missing format :=
        allocated.lastId
      refine told ?_
      generalize hu : ({ report _ r with
        textures := e, bench := b', overlay := o, format, geometry := _ } : Renderer Recorder) = u
      have core := core_updateGeometry u
      refine ⟨?_, ?_, ?_⟩
      · exact (congrArg Core.program core).trans (hu ▸ rfl)
      · exact (congrArg Core.programKey core).trans (hu ▸ rfl)
      · refine (congrArg (fun c => c.device.lastId) core).trans ?_
        unfold resetNumbers
        rw [← hu, ← Nat.add_assoc, ← first]
        exact second
    · rintro - full
      have full : UInt32.size ≤ b.device.lastId + r.textures.missing format := full
      unfold resetNumbers
      omega
  · rintro - ⟨-, full⟩
    have full : UInt32.size ≤ r.bench.device.lastId + r.overlay.sizeNumbers format.size := full
    unfold resetNumbers
    omega

/-! ## Uploading -/

/-- **How many textures are made to upload a frame.** -/
def uploadNumbers (r : Renderer Recorder) (frame : VideoFrame) : Nat :=
  if r.format.sameSlots frame.format then 0 else r.resetNumbers frame.format

/-- A program that has its key stays. -/
theorem Updated.spends {r t : Renderer Recorder} (h : Updated r t)
    (key : r.programKey = some (r.shader.programKey r.format.pixelType))
    (kept : t.programKey = some (r.shader.programKey r.format.pixelType)) : Spends 0 r t := by
  refine ⟨?_, kept.trans key.symm, ?_⟩
  · rw [h.program]
    unfold nextProgram
    rw [if_pos key]
  · rw [h.lastId, compiles_of_key key]
    rfl

/-- One piece of work after another. -/
theorem Spends.trans {n m : Nat} {r s t : Renderer Recorder} (h : Spends n r s)
    (h' : Spends m s t) : Spends (n + m) r t where
  program := h'.program.trans h.program
  key := h'.key.trans h.key
  lastId := by rw [h'.lastId, h.lastId, Nat.add_assoc]

/-- **A frame that fits takes no number.** -/
theorem upload_spends {frame : VideoFrame} {r : Renderer Recorder} (tidy : r.core.Tidy)
    (sound : frame.Sound) (suits : r.textures.Suits frame.format)
    (picture : frame.isEmpty = false) :
    (onTextures (UploadEngine.upload frame)).Ends r (fun _ t => Spends 0 r t) (fun _ _ => False)
      fun _ => False := by
  rw [ends_onTextures]
  refine (UploadEngine.upload_ends tidy.stocked suits sound picture).mono ?_ (fun _ _ => id)
    fun _ => id
  rintro - ⟨e, b⟩ ⟨-, uploaded⟩
  refine ⟨rfl, rfl, ?_⟩
  show b.device.lastId = _
  rw [uploaded.device, lastId_fillAll]
  rfl

/-- **Textures that do not fit are made anew**, unless they are more than there
are numbers. The program stays. -/
theorem refit_spends {frame : VideoFrame} {r : Renderer Recorder} (tidy : r.core.Tidy)
    (sound : frame.Sound) (picture : frame.isEmpty = false)
    (key : r.programKey = some (r.shader.programKey frame.format.pixelType)) :
    (do
      resetFormat frame.format false
      ensureProgram
      onTextures (UploadEngine.upload frame) : Step (Renderer Recorder) Bool).Ends r
      (fun _ t => Spends (r.resetNumbers frame.format) r t) (fun _ _ => True)
      fun _ => UInt32.size ≤ r.bench.device.lastId + r.resetNumbers frame.format := by
  rw [ends_bind]
  refine ((resetFormat_ends false tidy sound.formed).and (resetFormat_spends false tidy)).mono ?_
    (fun _ _ _ => trivial) fun _ => And.right
  rintro - s ⟨reset, spent⟩
  have key : s.programKey = some (s.shader.programKey s.format.pixelType) := by
    rw [spent.key, reset.shader, reset.shown, key]
  rw [ends_bind]
  refine ((ensureProgram_ends reset.tidy).and (ensureProgram_updates s)).mono ?_
    (fun _ _ _ => trivial) ?_
  · rintro - t ⟨ensured, updated⟩
    have suits : t.textures.Suits frame.format := by
      have suits := ensured.tidy.suits
      rw [show t.core.format = t.format from rfl, ensured.format, reset.shown] at suits
      exact suits
    refine (upload_spends ensured.tidy sound suits picture).mono ?_ (fun _ _ => False.elim)
      fun _ => False.elim
    exact fun _ u uploaded => (spent.trans (updated.spends key ensured.key)).trans uploaded
  · rintro - ⟨-, full⟩
    rw [compiles_of_key key, spent.lastId] at full
    exact full

/-- **A frame is uploaded**, and the textures for it are made if it does not
fit, unless they are more than there are numbers. -/
theorem uploadFrame_spends {frame : VideoFrame} {r : Renderer Recorder} (tidy : r.core.Tidy)
    (sound : frame.Sound) (type : r.format.pixelType = frame.format.pixelType)
    (key : r.programKey = some (r.shader.programKey frame.format.pixelType)) :
    (uploadFrame frame).Ends r (fun _ t => Spends (r.uploadNumbers frame) r t) (fun _ _ => True)
      fun _ => UInt32.size ≤ r.bench.device.lastId + r.uploadNumbers frame := by
  have layout : r.format.layout = frame.format.layout := congrArg PixelType.layout type
  unfold uploadFrame
  rw [ends_bind, ends_attempt]
  cases picture : frame.isEmpty with
  | true =>
    have nil := sound.isEmpty_iff.1 picture
    have numbers : r.uploadNumbers frame = 0 :=
      if_pos (VideoFormat.sameSlots_of_nil (layout ▸ nil) nil)
    rw [numbers, ends_onTextures]
    refine (UploadEngine.upload_empty_ends picture).mono ?_ (fun _ _ => False.elim)
      fun _ => False.elim
    rintro - - ⟨rfl, rfl⟩
    exact ⟨rfl, rfl, rfl⟩
  | false =>
    have fits := tidy.suits.mismatch?_eq_none_iff tidy.formed sound.formed type
    cases hm : r.textures.mismatch? frame.format with
    | none =>
      have numbers : r.uploadNumbers frame = 0 := if_pos (fits.1 hm)
      rw [numbers]
      refine (upload_spends tidy sound (tidy.suits.of_mismatch? tidy.formed sound.formed type.symm
        hm) picture).mono ?_ (fun _ _ => False.elim) fun _ => False.elim
      exact fun _ _ => id
    | some x =>
      have numbers : r.uploadNumbers frame = r.resetNumbers frame.format :=
        if_neg fun slots => nomatch hm.symm.trans (fits.2 slots)
      rw [numbers, ends_onTextures]
      refine (UploadEngine.upload_mismatch_ends picture
        (sound.slots_isEmpty.trans picture) hm).mono (fun _ _ => False.elim) ?_ fun _ => False.elim
      rintro - - ⟨rfl, rfl⟩
      dsimp only
      rw [ends_bind, ends_modify]
      -- the report does not touch what the textures are made from
      refine (refit_spends (r := report _ r) tidy sound picture key).mono ?_ (fun _ _ => id)
        fun _ => id
      exact fun _ t spent => ⟨spent.program, spent.key, spent.lastId⟩

/-! ## Taking -/

/-- **How many objects are made to take a frame.** -/
def takeNumbers (r : Renderer Recorder) (frame : VideoFrame) (check : Bool) : Nat :=
  (r.compiles frame.format.pixelType).toNat +
    if r.announces frame check then r.resetNumbers frame.format else r.uploadNumbers frame

/-- **What taking a frame of a type comes to**: there is a program if there is
to be one, and so many numbers are handed out. -/
structure Supplied (type : PixelType) (numbers : Nat) (r t : Renderer Recorder) : Prop where
  /-- The program was asked for with the type and the effects. -/
  key : t.programKey = some (r.shader.programKey type)
  /-- There is a program if there is a next one. -/
  program : t.program.isSome = (r.nextProgram type).isSome
  /-- So many numbers are handed out. -/
  lastId : t.bench.device.lastId = r.bench.device.lastId + numbers

/-- **Work on textures changes nothing about the program**, and neither does
the format. -/
theorem Spends.supplied {numbers more : Nat} {type : PixelType} {r s t : Renderer Recorder}
    (h : Spends numbers r s) (shader : s.shader = r.shader)
    (refuses : s.bench.device.refusesPrograms = r.bench.device.refusesPrograms)
    (supplied : Supplied type more s t) : Supplied type (numbers + more) r t where
  key := by rw [supplied.key, shader]
  program := by
    rw [supplied.program]
    unfold nextProgram compiles
    rw [h.key, h.program, shader, refuses]
    split
    · rfl
    · split <;> rfl
  lastId := by rw [supplied.lastId, h.lastId, Nat.add_assoc]

/-- **The program is brought up to date, and the frame is uploaded**, unless
what is to be made is more than there are numbers. -/
theorem fill_supplies {frame : VideoFrame} {r : Renderer Recorder} (tidy : r.core.Tidy)
    (sound : frame.Sound) (type : r.format.pixelType = frame.format.pixelType) :
    (fill frame).Ends r
      (fun _ t => Supplied frame.format.pixelType
        ((r.compiles frame.format.pixelType).toNat + r.uploadNumbers frame) r t)
      (fun _ _ => True)
      fun _ => UInt32.size ≤ r.bench.device.lastId +
        ((r.compiles frame.format.pixelType).toNat + r.uploadNumbers frame) := by
  rw [ends_fill]
  refine ((ensureProgram_ends tidy).and (ensureProgram_updates r)).mono ?_
    (fun _ _ _ => trivial) ?_
  · rintro - s ⟨ensured, updated⟩
    have lastId := updated.lastId
    have program := updated.program
    have key := ensured.key
    have numbers : s.uploadNumbers frame = r.uploadNumbers frame := by
      unfold uploadNumbers resetNumbers
      rw [ensured.format, ensured.overlay, ensured.textures]
    rw [type] at lastId program key
    refine (uploadFrame_spends ensured.tidy sound (by rw [ensured.format, type])
      (by rw [key, ensured.shader])).mono ?_ (fun _ _ _ => trivial) ?_
    · rintro - t spent
      refine ⟨spent.key.trans key, congrArg Option.isSome (spent.program.trans program), ?_⟩
      show t.bench.device.lastId = _
      rw [spent.lastId, lastId, numbers, Nat.add_assoc]
    · rintro - full
      rwa [numbers, lastId, Nat.add_assoc] at full
  · rintro - ⟨-, full⟩
    rw [type] at full
    omega

/-- **A frame is taken** unless what is to be made for it is more than there
are numbers. -/
theorem takeFrame_supplies {frame : VideoFrame} (check : Bool) {r : Renderer Recorder}
    (tidy : r.core.Tidy) (sound : frame.Sound) :
    (takeFrame frame check).Ends r
      (fun _ t => Supplied frame.format.pixelType (r.takeNumbers frame check) r t)
      (fun _ _ => True)
      fun _ => UInt32.size ≤ r.bench.device.lastId + r.takeNumbers frame check := by
  unfold takeNumbers
  refine takeFrame_ends_of (fun announces => ?_) fun announces => ?_
  · rw [if_pos (show r.announces frame check = true from announces), ends_bind]
    refine ((resetFormat_ends true tidy sound.formed).and (resetFormat_spends true tidy)).mono ?_
      (fun _ _ _ => trivial) ?_
    · rintro - s ⟨reset, spent⟩
      have refuses := reset.calm.still.refusesPrograms
      have compiles : s.compiles frame.format.pixelType = r.compiles frame.format.pixelType := by
        unfold compiles
        rw [spent.key, reset.shader, refuses]
      -- the textures were made for the frame, which therefore fits
      have none : s.uploadNumbers frame = 0 := by
        unfold uploadNumbers
        rw [reset.shown, if_pos (VideoFormat.sameSlots_self _)]
      refine (fill_supplies reset.tidy sound (by rw [reset.shown])).mono ?_ (fun _ _ => id) ?_
      · rintro - t supplied
        rw [compiles, none, Nat.add_zero] at supplied
        rw [Nat.add_comm (Bool.toNat _)]
        exact spent.supplied reset.shader refuses supplied
      · rintro - full
        rw [compiles, none, spent.lastId] at full
        omega
    · rintro - ⟨-, full⟩
      omega
  · rw [if_neg (show ¬ r.announces frame check = true from announces)]
    exact fill_supplies tidy sound (type_of_not_announces announces)

/-! ## Preparing -/

/-- **How many objects are made to take what waits.** -/
def waitingNumbers (r : Renderer Recorder) (waiting : Option (VideoFrame × Bool)) : Nat :=
  waiting.elim 0 fun x => r.takeNumbers x.1 x.2

/-- **How many objects a preparation makes.** -/
def prepareNumbers (r : Renderer Recorder) : Nat := r.waitingNumbers r.waiting

/-- **A preparation makes at most five objects**: a program, a texture for the
overlay and one for each slot. -/
theorem prepareNumbers_le (r : Renderer Recorder) : r.prepareNumbers ≤ 5 := by
  have reset (format : VideoFormat) : r.resetNumbers format ≤ 4 :=
    Nat.add_le_add (r.overlay.sizeNumbers_le _) (r.textures.missing_le _)
  unfold prepareNumbers waitingNumbers
  cases r.waiting with
  | none => exact Nat.zero_le 5
  | some x =>
    have program := Bool.toNat_le (r.compiles x.1.format.pixelType)
    have textures := reset x.1.format
    have upload : r.uploadNumbers x.1 ≤ 4 := by
      unfold uploadNumbers
      split
      · exact Nat.zero_le 4
      · exact textures
    show r.takeNumbers x.1 x.2 ≤ 5
    unfold takeNumbers
    split <;> omega

/-- **What a preparation comes to**, with the frame that waits. -/
structure Provided (waiting : Option (VideoFrame × Bool)) (r t : Renderer Recorder) : Prop where
  /-- So many numbers are handed out. -/
  lastId : t.bench.device.lastId = r.bench.device.lastId + r.waitingNumbers waiting
  /-- The effects are as they were. -/
  shader : t.shader = r.shader
  /-- The frame is taken. -/
  supplied : ∀ frame check, waiting = some (frame, check) →
    Supplied frame.format.pixelType (r.takeNumbers frame check) r t

/-- A canvas takes no number, and no program. -/
theorem Provided.covered {waiting : Option (VideoFrame × Bool)} {canvas : Option OsdImage}
    {r t u : Renderer Recorder} (h : Provided waiting r t) (covered : Covered canvas t u) :
    Provided waiting r u where
  lastId := covered.lastId.trans h.lastId
  shader := by rw [covered.same, ← h.shader]
  supplied frame check e := by
    have supplied := h.supplied frame check e
    have program : u.program = t.program := by rw [covered.same]
    have key : u.programKey = t.programKey := by rw [covered.same]
    exact ⟨key.trans supplied.key, (congrArg Option.isSome program).trans supplied.program,
      covered.lastId.trans supplied.lastId⟩

/-- **What waits is taken** unless what is to be made is more than there are
numbers, or a canvas is too wide. -/
theorem consume_supplies {pending : Pending} {r : Renderer Recorder} (tidy : r.core.Tidy)
    (sound : ∀ frame check, pending.frame = some (frame, check) → frame.Sound) :
    (consume pending).Ends r (fun _ t => Provided pending.frame r t) (fun _ _ => True)
      fun _ => UInt32.size ≤ r.bench.device.lastId + r.waitingNumbers pending.frame ∨
        ∃ image, pending.canvas.or r.overlay.image = some image ∧ image.Overwide := by
  have first : (takePending pending).Ends r
      (fun _ t => t.core.Tidy ∧ r.core.overlay.Forgets t.core.overlay ∧
        Provided pending.frame r t)
      (fun _ _ => True)
      fun _ => UInt32.size ≤ r.bench.device.lastId + r.waitingNumbers pending.frame := by
    unfold takePending
    split
    · next frame check hframe =>
      rw [hframe]
      refine ((takeFrame_ends check tidy (sound frame check hframe)).and
        (takeFrame_supplies check tidy (sound frame check hframe))).mono ?_ (fun _ _ _ => trivial)
        fun _ => And.right
      rintro - t ⟨taken, supplied⟩
      refine ⟨taken.tidy, taken.forgets, supplied.lastId, taken.shader, fun _ _ e => ?_⟩
      cases e
      exact supplied
    · next hframe =>
      rw [hframe]
      exact ⟨tidy, .refl _, rfl, rfl, fun _ _ e => nomatch e⟩
  unfold consume
  rw [ends_bind]
  refine first.mono ?_ (fun _ _ => id) fun _ => .inl
  rintro - t ⟨tidy, forgets, provided⟩
  have forgets : r.overlay.Forgets t.overlay := forgets
  rw [ends_bind]
  refine (takeCanvas_ends tidy).mono ?_ (fun _ _ => False.elim) ?_
  · exact fun _ _ covered => provided.covered covered
  · rintro - ⟨image, himage, wide⟩
    exact .inr ⟨image, forgets.or_eq_some himage, wide⟩

/-- **A preparation is done** unless what is to be made is more than there are
numbers, or a canvas is too wide. -/
theorem prepare_supplies {r : Renderer Recorder} (tidy : r.core.Tidy)
    (sound : ∀ frame check, r.waiting = some (frame, check) → frame.Sound) :
    prepare.Ends r (fun _ t => Provided r.waiting r t) (fun _ _ => True)
      fun _ => UInt32.size ≤ r.bench.device.lastId + r.prepareNumbers ∨
        ∃ image, r.waitingCanvas.or r.overlay.image = some image ∧ image.Overwide := by
  unfold prepareNumbers
  unfold waiting at sound ⊢
  unfold waitingCanvas
  refine prepare_ends_of (fun mailbox htake => ?_) fun pending mailbox htake => ?_
  · rw [htake]
    exact ⟨rfl, rfl, fun _ _ e => nomatch e⟩
  · have tidy' : Core.Tidy (Renderer.core { r with mailbox }) :=
      tidy.congr rfl rfl rfl rfl rfl rfl
    rw [htake] at sound ⊢
    refine (consume_supplies tidy' sound).mono ?_ (fun _ _ => id) fun _ => id
    rintro - t ⟨lastId, shader, supplied⟩
    refine ⟨lastId, shader, fun frame check e => ?_⟩
    obtain ⟨key, program, lastId⟩ := supplied frame check e
    exact ⟨key, program, lastId⟩

end Renderer

end Projector
