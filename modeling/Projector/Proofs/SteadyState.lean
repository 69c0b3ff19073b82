import Projector.Proofs.Subtitles

/-!
# The steady state

A stream has one format, and what a frame needs is made once. Afterwards a
preparation only writes: the planes of the frame into the textures that are
there, and a canvas if a new one waits.

Four caches have to agree for that. The format is not shown anew if the frame
has the type and the size of the one that is shown, the program is not compiled
anew if it was asked for with this type and these effects, and no texture is
made anew if the slots of the frame have the sizes of the textures. The fourth
one is the mark of the overlay that its canvas is uploaded. It is the only one
that does not stand in the state alone: a canvas without the mark is written by
any preparation. So it has to be seen from the run that a canvas never waits in
the layer where there is a texture (`OsdLayer.Settled`).

How many frames were presented before, and which of them asked for a check, does
not matter, since only the last one is taken.
-/

namespace Projector

open History Step Recorder

/-- **The writes of a frame**: one for each slot, in the order of the slots, with the
rows of the plane that the slot takes. -/
structure UploadEngine.Writes (e : UploadEngine) (frame : VideoFrame) (writes : List Fill) :
    Prop where
  /-- There is one for each slot. -/
  length : writes.length = frame.format.layout.slots.length
  /-- It goes into the texture of the slot. -/
  slots : ∀ (i : Nat) layout, frame.format.layout.slots[i]? = some layout → ∃ slot plane,
    e.slot? i = some slot ∧ frame.planes[layout.sourcePlane]? = some plane ∧
      plane.stride * slot.height ≤ plane.data.size ∧
      writes[i]? = some ⟨slot.id, plane.data.extract 0 (plane.stride * slot.height),
        plane.stride % UInt32.size⟩

/-! ## The overlay -/

namespace OsdLayer

/-- **The write of a canvas**, if it has a size and there is something to be seen
on it. -/
def fill? (o : OsdLayer) (size : Nat × Nat) (canvas : OsdImage) : Option Fill :=
  if (canvas.width, canvas.height) = size ∧ canvas.blank = false then
    o.texture.map fun t => ⟨t, canvas.canvas.bytes, canvas.width * 4⟩
  else none

/-- **What the layer has yet to write.** -/
def due? (o : OsdLayer) : Option Fill :=
  if o.uploaded then none else o.image.bind (o.fill? o.frameSize)

/-- **No canvas waits in the layer** where there is a texture for it. -/
def Settled (o : OsdLayer) : Prop :=
  o.texture ≠ none → o.image ≠ none → o.uploaded = true

theorem settled_initial (enabled : Bool) : (initial enabled).Settled := fun h => (h rfl).elim

/-- A layer without a texture or a canvas is settled. -/
theorem settled_of_missing {o : OsdLayer}
    (missing : ∀ texture image, (o.texture, o.image) = (some texture, some image) → False) :
    o.Settled := by
  intro texture image
  obtain ⟨t, ht⟩ := Option.ne_none_iff_exists'.1 texture
  obtain ⟨i, hi⟩ := Option.ne_none_iff_exists'.1 image
  exact (missing t i (Prod.ext ht hi)).elim

/-- A layer that is settled has nothing to write. -/
theorem Settled.due?_eq_none {o : OsdLayer} (h : o.Settled) : o.due? = none := by
  unfold due? fill?
  split
  · rfl
  next waits =>
  cases himage : o.image with
  | none => rfl
  | some image =>
    cases htexture : o.texture with
    | none =>
      show (if _ then _ else _) = _
      split <;> rfl
    | some texture => exact (waits (h (by simp [htexture]) (by simp [himage]))).elim

/-- **An upload settles the layer**, on every device. -/
theorem upload_settles {δ : Type} [Device δ] (s : OsdLayer × Bench δ) :
    upload.Ends s (fun _ t => t.1.Settled) (fun _ _ => True) fun _ => True := by
  obtain ⟨o, b⟩ := s
  unfold upload
  simp only [ends_bind, ends_get]
  split
  · next uploaded => exact fun _ _ => uploaded
  split
  · split
    · simp only [ends_bind, Bench.ends_note, Bench.ends_change]
      exact fun _ there => (there rfl).elim
    split
    · simp only [ends_bind, ends_ofChecked, Bench.ends_call, Bench.ends_change]
      refine ⟨fun row _ => ?_, fun _ _ => trivial⟩
      exact (ends_somehow _ _).mono (fun _ _ _ _ _ => rfl) (fun _ _ => id) fun _ => id
    · exact fun _ _ => rfl
  · next nothing => exact settled_of_missing nothing

/-- **An upload writes what is due**, unless a row of it has more bytes than a
word counts. -/
theorem upload_writes_due {s : OsdLayer × Bench Recorder} (orderly : s.2.device.Orderly)
    (holds : s.2.device.Holds "osd" s.1.held) :
    upload.Ends s
      (fun _ t => t.2.device = s.2.device.fillAll s.1.due?.toList ∧
        ∀ x, s.1.due? = some x → x.bytesPerRow < UInt32.size)
      (fun _ _ => False)
      fun _ => ∃ x, s.1.due? = some x ∧ UInt32.size ≤ x.bytesPerRow := by
  obtain ⟨o, b⟩ := s
  have quiet (nothing : o.due? = none) : b.device = b.device.fillAll o.due?.toList ∧
      ∀ x, o.due? = some x → x.bytesPerRow < UInt32.size := by
    rw [nothing]
    exact ⟨rfl, nofun⟩
  unfold upload
  simp only [ends_bind, ends_get]
  split
  · next uploaded => exact quiet (if_pos uploaded)
  next waits =>
  split
  · next texture image both =>
    obtain ⟨htexture, himage⟩ := Prod.mk.inj both
    have due : o.due? = o.fill? o.frameSize image := by
      unfold due?
      rw [if_neg waits, himage]
      rfl
    split
    · next hsize => exact quiet (due.trans (if_neg fun h => hsize h.1))
    next hsize =>
    have size : (image.width, image.height) = o.frameSize := Decidable.not_not.1 hsize
    split
    · next hseen =>
      have seen : image.blank = false := by simpa using hseen
      have due : o.due? = some ⟨texture, image.canvas.bytes, image.width * 4⟩ := by
        rw [due, fill?, if_pos ⟨size, seen⟩, htexture]
        rfl
      simp only [ends_bind, ends_ofChecked, Checked.fit32_eq_ok, Bench.ends_call,
        Bench.ends_change, due]
      refine ⟨?_, fun f hf => ⟨_, rfl, Checked.le_of_fit32_eq_error hf⟩⟩
      rintro - ⟨row, rfl⟩
      have live := holds
      rw [held_of_texture htexture, ← size] at live
      refine (writeImage_ends orderly live.live.1 row).mono ?_ (fun _ _ => id) fun _ => False.elim
      rintro - d rfl
      refine ⟨rfl, ?_⟩
      rintro - ⟨⟩
      exact row
    · next blank =>
      refine quiet (due.trans (if_neg fun h => blank ?_))
      rw [h.2]
      rfl
  · next nothing => exact quiet (settled_of_missing nothing).due?_eq_none

end OsdLayer

namespace Renderer

/-! ## Writing and nothing else -/

/-- **Textures are filled, and nothing else is done**: no texture and no program
is another one, and layout code is told nothing. -/
structure Refilled (writes : List Fill) (r t : Renderer Recorder) : Prop where
  /-- The device has the writes. -/
  device : t.bench.device = r.bench.device.fillAll writes
  /-- The slots have the same textures. -/
  slots : t.textures.slots = r.textures.slots
  /-- The program is the same. -/
  program : t.program = r.program
  /-- So is the format. -/
  format : t.format = r.format
  /-- Nothing is told. -/
  events : t.events = r.events

theorem Refilled.trans {writes more : List Fill} {r s t : Renderer Recorder}
    (h : Refilled writes r s) (h' : Refilled more s t) : Refilled (writes ++ more) r t where
  device := by rw [h'.device, h.device, fillAll_append]
  slots := h'.slots.trans h.slots
  program := h'.program.trans h.program
  format := h'.format.trans h.format
  events := h'.events.trans h.events

/-- The mailbox does not matter. -/
theorem Refilled.of_mailbox {writes : List Fill} {r t : Renderer Recorder} {mailbox : Mailbox}
    (h : Refilled writes { r with mailbox } t) : Refilled writes r t :=
  ⟨h.device, h.slots, h.program, h.format, h.events⟩

/-- **The steady state**: all that is there was made for frames as this one. -/
structure Steady (r : Renderer Recorder) (frame : VideoFrame) : Prop where
  /-- The renderer is tidy. -/
  tidy : r.core.Tidy
  /-- The frame was made. -/
  sound : frame.Sound
  /-- It has a picture. -/
  picture : frame.isEmpty = false
  /-- It has the type and the size that are shown. -/
  same : r.format.same frame.format = true
  /-- The program was asked for with the type and the effects. -/
  key : r.programKey = some (r.shader.programKey r.format.pixelType)
  /-- The textures have the sizes of the slots. -/
  fits : r.textures.mismatch? frame.format = none

/-- A program that was asked for is not asked for again. -/
theorem ensureProgram_ends_of_key {δ : Type} [Device δ] {r : Renderer δ}
    (key : r.programKey = some (r.shader.programKey r.format.pixelType)) :
    ensureProgram.Ends r (fun _ t => t = r) (fun _ _ => False) fun _ => False := by
  unfold ensureProgram
  rw [ends_bind, ends_get]
  dsimp only
  rw [if_pos key]
  rfl

/-- The textures are the ones for the frame. -/
theorem Steady.suits {r : Renderer Recorder} {frame : VideoFrame} (h : r.Steady frame) :
    r.textures.Suits frame.format := by
  obtain ⟨type, -, -⟩ := VideoFormat.same_iff.1 h.same
  exact h.tidy.suits.of_mismatch? h.tidy.formed h.sound.formed type.symm h.fits

/-- **In the steady state a frame is written**, and nothing else is done. -/
theorem Steady.takeFrame_ends {r : Renderer Recorder} {frame : VideoFrame} (h : r.Steady frame)
    (check : Bool) :
    (takeFrame frame check).Ends r
      (fun uploaded t => uploaded = true ∧ Refilled (r.textures.fills frame) r t ∧
        t.overlay = r.overlay ∧ t.core.Tidy)
      (fun _ _ => False) fun _ => False := by
  refine takeFrame_ends_of (fun announces => ?_) fun _ => ?_
  · rw [h.same, Bool.not_true, Bool.and_false] at announces
    cases announces
  rw [ends_fill]
  refine (ensureProgram_ends_of_key h.key).mono ?_ (fun _ _ => id) fun _ => id
  rintro - s e
  rw [e]
  unfold uploadFrame
  rw [ends_bind, ends_attempt, ends_onTextures]
  refine (UploadEngine.upload_ends h.tidy.stocked h.suits h.sound h.picture).mono ?_
    (fun _ _ => False.elim) fun _ => False.elim
  rintro - ⟨e, b⟩ ⟨rfl, rfl, device⟩
  exact ⟨rfl, ⟨device, rfl, rfl, rfl, rfl⟩, rfl,
    (h.tidy.uploaded device).congr rfl rfl rfl rfl rfl rfl⟩

/-- **A canvas is written** if it has the size of the format and there is something
to be seen on it, unless a row of it has more bytes than a word counts. -/
theorem takeCanvas_writes {pending : Pending} {r : Renderer Recorder} (tidy : r.core.Tidy)
    (settled : r.overlay.Settled) {write : Option Fill}
    (due : write = pending.canvas.bind (r.overlay.fill? r.format.size)) :
    (takeCanvas pending).Ends r
      (fun _ t => Refilled write.toList r t ∧ ∀ x, write = some x → x.bytesPerRow < UInt32.size)
      (fun _ _ => False) fun _ => ∃ x, write = some x ∧ UInt32.size ≤ x.bytesPerRow := by
  have fitted : r.overlay.frameSize = r.format.size := tidy.fitted
  -- the texture is the same, whether the layer has a new canvas or not
  have writes {o : OsdLayer} (held : o.held = r.overlay.held) (h : o.due? = write) :
      OsdLayer.upload.Ends (o, r.bench)
        (fun _ t => Refilled write.toList r { r with overlay := t.1, bench := t.2 } ∧
          ∀ x, write = some x → x.bytesPerRow < UInt32.size)
        (fun _ _ => False) fun _ => ∃ x, write = some x ∧ UInt32.size ≤ x.bytesPerRow := by
    have osd : r.bench.device.Holds "osd" o.held := held ▸ tidy.osd
    rw [← h]
    exact (OsdLayer.upload_writes_due (s := (o, r.bench)) tidy.stocked.orderly osd).mono
      (fun _ _ written => ⟨⟨written.1, rfl, rfl, rfl, rfl⟩, written.2⟩) (fun _ _ => id) fun _ => id
  unfold takeCanvas
  split
  · next canvas hcanvas =>
    rw [ends_bind, ends_modify, ends_onOverlay]
    refine writes (o := r.overlay.setImage canvas) rfl ?_
    rw [due, hcanvas, ← fitted]
    rfl
  · next none =>
    rw [ends_onOverlay]
    refine writes rfl ?_
    rw [due, Option.eq_none_iff_forall_ne_some.2 none, settled.due?_eq_none]
    rfl

/-- The write of the canvas that waits, if one does that is to be written. -/
def canvasWrite? (r : Renderer Recorder) : Option Fill :=
  r.waitingCanvas.bind (r.overlay.fill? r.format.size)

namespace Steady

variable {r : Renderer Recorder} {frame : VideoFrame}

/-- The mailbox does not matter. -/
theorem onMailbox (h : r.Steady frame) (mailbox : Mailbox) : Steady { r with mailbox } frame :=
  ⟨h.tidy.congr rfl rfl rfl rfl rfl rfl, h.sound, h.picture, h.same, h.key, h.fits⟩

/-- **A frame that waits is written by the first part of a preparation.** -/
theorem takePending_ends (h : r.Steady frame) {pending : Pending} {check : Bool}
    (waits : pending.frame = some (frame, check)) :
    (takePending pending).Ends r
      (fun uploaded t => uploaded = true ∧ Refilled (r.textures.fills frame) r t ∧
        t.overlay = r.overlay ∧ t.core.Tidy)
      (fun _ _ => False) fun _ => False := by
  unfold takePending
  rw [waits]
  exact h.takeFrame_ends check

/-- **A preparation writes the frame and then the canvas**, unless a row of the
canvas has more bytes than a word counts. -/
theorem prepare_ends (h : r.Steady frame) (settled : r.overlay.Settled) {check : Bool}
    (waits : r.waiting = some (frame, check)) :
    prepare.Ends r
      (fun uploaded t => uploaded = true ∧
        Refilled (r.textures.fills frame ++ r.canvasWrite?.toList) r t ∧
        ∀ x, r.canvasWrite? = some x → x.bytesPerRow < UInt32.size)
      (fun _ _ => False) fun _ => ∃ x, r.canvasWrite? = some x ∧ UInt32.size ≤ x.bytesPerRow := by
  unfold waiting at waits
  unfold canvasWrite? waitingCanvas
  refine prepare_ends_of (fun mailbox htake => ?_) fun pending mailbox htake => ?_
  · rw [htake] at waits
    cases waits
  rw [htake] at waits ⊢
  unfold consume
  rw [ends_bind]
  refine ((h.onMailbox mailbox).takePending_ends waits).mono ?_ (fun _ _ => False.elim)
    fun _ => False.elim
  rintro - s ⟨rfl, refilled, overlay, tidy⟩
  rw [ends_bind]
  refine (takeCanvas_writes tidy (overlay ▸ settled) ?_).mono ?_ (fun _ _ => id) fun _ => id
  · rw [overlay, refilled.format]
    rfl
  · rintro - t ⟨more, narrow⟩
    exact ⟨rfl, (refilled.trans more).of_mailbox, narrow⟩

/-- **A frame is written slot by slot.** -/
theorem writes (h : r.Steady frame) : r.textures.Writes frame (r.textures.fills frame) := by
  have stocked : r.textures.Stocked r.bench.device := h.tidy.stocked
  have ready {i : Nat} {layout : SlotLayout}
      (hi : frame.format.layout.slots[i]? = some layout) :
      ∃ slot plane, r.textures.Ready r.bench.device frame (0 + i) layout slot plane := by
    rw [Nat.zero_add]
    exact stocked.exists_ready h.suits h.sound hi
  obtain ⟨length, each⟩ := UploadEngine.getElem?_fillsFrom fun _ _ hi => ready hi
  refine ⟨length, fun i layout hi => ?_⟩
  obtain ⟨slot, plane, ready⟩ := ready hi
  have written := (each i layout hi).trans ready.fill?_eq
  rw [Nat.zero_add] at ready
  exact ⟨slot, plane, ready.known, ready.feeds.source, ready.height ▸ ready.feeds.rows, written⟩

/-- **No texture is written twice**: the overlay has one of its own. -/
theorem nodup (h : r.Steady frame) :
    ((r.textures.fills frame ++ r.canvasWrite?.toList).map Fill.texture).Nodup := by
  have stocked : r.textures.Stocked r.bench.device := h.tidy.stocked
  rw [List.map_append]
  refine List.nodup_append.2 ⟨stocked.fillsFrom_nodup _ _ _, ?_, ?_⟩
  · cases r.canvasWrite? with
    | none => exact List.nodup_nil
    | some x => exact List.nodup_cons.2 ⟨List.not_mem_nil, List.nodup_nil⟩
  · intro t ht u hu
    obtain ⟨x, hx, rfl⟩ := List.mem_map.1 ht
    obtain ⟨y, hy, rfl⟩ := List.mem_map.1 hu
    obtain ⟨canvas, -, hy⟩ := Option.bind_eq_some_iff.1 (Option.mem_toList.1 hy)
    obtain ⟨j, slot, -, hslot, hx⟩ := UploadEngine.slot?_of_mem_fillsFrom hx
    obtain ⟨k, rfl⟩ := UploadEngine.exists_of_slot?_eq_some hslot
    have held : r.bench.device.Holds "osd" r.overlay.held := h.tidy.osd
    unfold OsdLayer.fill? at hy
    split at hy
    · obtain ⟨texture, htexture, rfl⟩ := Option.map_eq_some_iff.1 hy
      rw [OsdLayer.held_of_texture htexture] at held
      rw [hx]
      exact (stocked.holds_slot hslot).ne held (UploadEngine.slotLabel_ne_osd k)
    · cases hy

end Steady

/-- **Some writes were recorded, and nothing else.** -/
structure Repainted (writes : List Fill) (r t : Renderer Recorder) : Prop where
  /-- They are recorded, in order. -/
  calls : t.bench.device.calls.toList = r.bench.device.calls.toList ++ writes.map Fill.record
  /-- The textures have the bytes. -/
  contents : ∀ x ∈ writes, t.bench.device.contents.get? x.texture = some x.data
  /-- The picture is drawn with the same textures, -/
  textureIds : t.textures.textureIds = r.textures.textureIds
  /-- and with the same program. -/
  program : t.program = r.program
  /-- The same format is shown. -/
  format : t.format = r.format
  /-- Nothing is told. -/
  events : t.events = r.events

/-- Writes into different textures are all to be seen. -/
theorem Refilled.repainted {writes : List Fill} {r t : Renderer Recorder} (h : Refilled writes r t)
    (nodup : (writes.map Fill.texture).Nodup) : Repainted writes r t where
  calls := by rw [h.device, calls_fillAll]
  contents x hx := by rw [h.device, contents_fillAll nodup hx]
  textureIds := by
    unfold UploadEngine.textureIds
    rw [h.slots]
  program := h.program
  format := h.format
  events := h.events

/-- **A frame that waits is written first**, whatever becomes of the canvas. -/
theorem Steady.exists_written {r : Renderer Recorder} {frame : VideoFrame} (h : r.Steady frame)
    {check : Bool} (waits : r.waiting = some (frame, check)) :
    ∃ pending mailbox s, r.mailbox.take = (some pending, mailbox) ∧
      (takePending pending).outcome { r with mailbox } = .ok (.ok true, s) ∧
      Repainted (r.textures.fills frame) r s := by
  unfold waiting at waits
  cases htake : r.mailbox.take with
  | mk pending mailbox =>
    rw [htake] at waits
    cases pending with
    | none => cases waits
    | some pending =>
      obtain ⟨uploaded, s, hm, rfl, refilled, -⟩ :=
        ((h.onMailbox mailbox).takePending_ends waits).exists_ok
      exact ⟨pending, mailbox, s, rfl, hm,
        refilled.of_mailbox.repainted (h.tidy.stocked.fillsFrom_nodup _ _ _)⟩

/-- **A preparation settles the overlay**, on every device. -/
theorem prepare_settles {δ : Type} [Device δ] (r : Renderer δ) :
    prepare.Ends r (fun _ t => r.overlay.Settled → t.overlay.Settled) (fun _ _ => True)
      fun _ => True := by
  refine prepare_ends_of (fun mailbox _ => id) fun pending mailbox _ => ?_
  unfold consume
  rw [ends_bind]
  refine (ends_somehow _ _).mono (fun uploaded s _ => ?_) (fun _ _ => id) fun _ => id
  have upload (o : OsdLayer) : OsdLayer.upload.Ends (o, s.bench)
      (fun _ t => r.overlay.Settled → t.1.Settled) (fun _ _ => True) fun _ => True :=
    (OsdLayer.upload_settles (o, s.bench)).mono (fun _ _ settled _ => settled) (fun _ _ => id)
      fun _ => id
  rw [ends_bind]
  unfold takeCanvas
  split
  · rw [ends_bind, ends_modify, ends_onOverlay]
    exact upload _
  · rw [ends_onOverlay]
    exact upload _

end Renderer

/-! ## Runs -/

/-- **No canvas waits in the layer after a run.** -/
theorem Run.settled {start r : Renderer Recorder} {past : List (Transition Recorder)}
    (fresh : start.core = .initial .initial) (run : Run start past r)
    (proper : ∀ x ∈ past, x.Proper) : r.overlay.Settled := by
  induction run with
  | start =>
    have overlay : start.core.overlay = .initial false := by rw [fresh]; rfl
    have settled : start.core.overlay.Settled := overlay ▸ OsdLayer.settled_initial false
    exact settled
  | adjust run change ih => exact ih fun x hx => proper x (List.mem_cons_of_mem _ hx)
  | @ask past r request answer r' run e ih =>
    have proper' : ∀ x ∈ past, x.Proper := fun x hx => proper x (List.mem_cons_of_mem _ hx)
    have settled := ih proper'
    obtain ⟨rest, -⟩ := run.did fresh proper'
    cases Run.did_ask rest (run.waiting_sound fresh proper') e with
    | stored idle mailbox refuses core =>
      have same : r'.core.overlay = r.core.overlay := by rw [core]
      have settled : r'.core.overlay.Settled := same ▸ settled
      exact settled
    | prepared hx answered =>
      cases hx
      obtain ⟨yes, hyes⟩ := answered
      obtain ⟨a, hm, -⟩ | ⟨error, -, failed⟩ := Renderer.answered_eq_ok e
      · exact (Renderer.prepare_settles r).of_ok hm settled
      · cases hyes.symm.trans failed
    | rendered hx rendered =>
      rw [rendered.layer]
      exact settled
    | released hx released =>
      rw [released.layer]
      exact OsdLayer.settled_initial _

/-- **In the steady state a preparation only writes.** Whatever was asked of a
renderer, let a format be shown, and let the program be asked for with its type
and the effects. If the last one of the frames that wait has the type and the size
of this format, and its slots have the sizes of the textures, then the next
preparation writes one plane into each slot, in the order of the slots, and then
the canvas that waits, if there is one of this size with something to be seen on
it. It makes and drops nothing, the same textures and the same program are drawn
with, and layout code is told nothing.

If a row of the canvas has more bytes than a word counts, the preparation breaks
at it, after the planes were written. -/
theorem steady_preparation_only_writes {config : RendererConfig}
    {past : List (Transition Recorder)} {r : Renderer Recorder}
    (run : Run (.withConfig .initial config) past r) (proper : ∀ x ∈ past, x.Proper)
    (shown : r.format.isEmpty = false)
    (key : r.programKey = some (r.shader.programKey r.format.pixelType)) {frame : VideoFrame}
    {check : Bool} {others : List (VideoFrame × Bool)}
    (presented : frames past = (frame, check) :: others)
    (same : r.format.same frame.format = true)
    (fits : ∀ (i : Nat) layout, frame.format.layout.slots[i]? = some layout →
      ∃ s, r.textures.slot? i = some s ∧ frame.format.slotSize? i = some (s.width, s.height)) :
    ∃ writes, r.textures.Writes frame writes ∧
      ((∀ x, r.canvasWrite? = some x → x.bytesPerRow < UInt32.size) →
        ∃ t, r.perform .prepare = .ok (.flag true, t) ∧
          Renderer.Repainted (writes ++ r.canvasWrite?.toList) r t) ∧
      ∀ x, r.canvasWrite? = some x → UInt32.size ≤ x.bytesPerRow →
        (∃ fault, r.perform .prepare = .error fault) ∧
        ∃ pending mailbox s, r.mailbox.take = (some pending, mailbox) ∧
          (Renderer.takePending pending).outcome { r with mailbox } = .ok (.ok true, s) ∧
          Renderer.Repainted writes r s := by
  have fresh := Renderer.core_withConfig Recorder.initial config
  obtain ⟨rest, -⟩ := run.did fresh proper
  have sound : frame.Sound := sound_of_mem_frames proper (f := (frame, check)) <| by
    rw [presented]
    exact List.mem_cons_self
  have settled := run.settled fresh proper
  have formed : r.format.Formed := rest.tidy.formed
  have picture : frame.isEmpty = false := by
    -- formats of one type have a picture, or both have none
    obtain ⟨type, -, -⟩ := VideoFormat.same_iff.1 same
    rw [← Bool.not_eq_true, formed.isEmpty_iff] at shown
    rw [← Bool.not_eq_true]
    exact fun empty => shown (type.trans (sound.formed.isEmpty_iff.1 empty))
  have steady : r.Steady frame := ⟨rest.tidy, sound, picture, same, key,
    (UploadEngine.mismatch?_eq_none_iff sound.formed).2 fits⟩
  have waits : r.waiting = some (frame, (frames past).any Prod.snd) := by
    rw [run.waiting_eq fresh, presented]
    rfl
  have ends := steady.prepare_ends settled waits
  refine ⟨_, steady.writes, fun narrow => ?_, fun x hx wide => ⟨?_, ?_⟩⟩
  · obtain ⟨uploaded, t, hm, rfl, refilled, -⟩ := (ends.mono (fun _ _ => id) (fun _ _ => id)
      fun _ ⟨x, hx, wide⟩ => absurd (narrow x hx) (Nat.not_lt.2 wide)).exists_ok
    refine ⟨t, ?_, refilled.repainted steady.nodup⟩
    show Except.bind _ _ = _
    rw [hm]
    rfl
  · show ∃ fault, Except.bind _ _ = _
    cases hm : Renderer.prepare.outcome r with
    | error fault => exact ⟨fault, rfl⟩
    | ok outcome =>
      obtain ⟨error | uploaded, t⟩ := outcome
      · exact (ends.of_error hm).elim
      · obtain ⟨-, -, narrow⟩ := ends.of_ok hm
        exact absurd (narrow x hx) (Nat.not_lt.2 wide)
  · exact steady.exists_written waits

/-- A black pixel is shown, and then another two with a white one drawn over them:
one plane is written, and one canvas. -/
theorem steady_preparation_only_writes_pixel : ∃ past r t writes canvasWrite,
    Run (.withConfig .initial .standard) past r ∧ (∀ x ∈ past, x.Proper) ∧
      past.map Transition.move = [.ask (.present .blackPixel true),
        .ask (.present .blackPixel false), .ask (.drawOsd [.whitePixel]), .ask .prepare,
        .ask (.present .blackPixel true)] ∧
      writes.length = 1 ∧ r.canvasWrite? = some canvasWrite ∧
      r.perform .prepare = .ok (.flag true, t) ∧
      Renderer.Repainted (writes ++ [canvasWrite]) r t := by
  let requests : List Request := [.present .blackPixel true, .prepare, .drawOsd [.whitePixel],
    .present .blackPixel false, .present .blackPixel true]
  have made : ∀ request ∈ requests, request.Proper := by
    simp only [requests, List.forall_mem_cons]
    exact ⟨VideoFrame.made_blackPixel, trivial, trivial, VideoFrame.made_blackPixel,
      VideoFrame.made_blackPixel, List.forall_mem_nil _⟩
  obtain ⟨past, r, run, proper, moves, found⟩ := Run.exists_carried (.withConfig .initial .standard)
    made (fun r => r.format = VideoFrame.blackPixel.format ∧
      r.programKey = some (r.shader.programKey r.format.pixelType) ∧
      r.waiting.map Prod.fst = some .blackPixel ∧
      r.textures.mismatch? VideoFrame.blackPixel.format = none ∧
      r.canvasWrite?.map Fill.bytesPerRow = some 4) (by decide +kernel)
  obtain ⟨format, key, waits, fits, canvas⟩ := of_decide_eq_true found
  rw [run.waiting_eq (Renderer.core_withConfig _ _), Option.map_map] at waits
  obtain ⟨⟨frame, check⟩, hhead, last⟩ := Option.map_eq_some_iff.1 waits
  obtain ⟨others, presented⟩ := List.head?_eq_some_iff.1 hhead
  cases last
  obtain ⟨canvasWrite, write, four⟩ := Option.map_eq_some_iff.1 canvas
  have sound : VideoFrame.blackPixel.Sound := VideoFrame.made_blackPixel.sound
  obtain ⟨writes, written, only, -⟩ := steady_preparation_only_writes run proper
    (by rw [format]; rfl) key presented (by rw [format]; rfl)
    ((UploadEngine.mismatch?_eq_none_iff sound.formed).1 fits)
  obtain ⟨t, e, repainted⟩ := only fun x hx => by
    cases write.symm.trans hx
    rw [four]
    decide
  rw [write] at repainted
  exact ⟨past, r, t, writes, canvasWrite, run, proper, moves, written.length, write, e, repainted⟩

end Projector
