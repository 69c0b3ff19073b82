import Projector.Overlay.Layer
import Projector.Proofs.Recorder

/-!
# The overlay on a recording device

The overlay owns at most one texture and at most one program. Its texture
is the one with its label, of the size that the layer was told last, and
its program has the text of every overlay. On a device where this is so, no
call of the layer is refused, but for the program, which the device may
refuse to compile.

A canvas is written only if it has the size of the texture. Its bytes are
then exactly those of the texture, so the write is never short. What the
texture has after that is said by `Displays`: as long as the layer counts its
canvas as uploaded, the texture has the canvas's bytes, unless there is
nothing to be seen on it.
-/

namespace Projector

/-- An image has four bytes a pixel. -/
theorem Image.size_bytes (image : Image) : image.bytes.size = image.width * image.height * 4 := by
  unfold bytes
  have four (l : List Pixel) : (l.map fun p => p.bytes.size).sum = l.length * 4 := by
    induction l with
    | nil => rfl
    | cons p l ih =>
      rw [List.map_cons, List.sum_cons, ih, List.length_cons, Nat.succ_mul, Nat.add_comm]
      rfl
  rw [Array.size_flatMap, ← image.size_cells, ← Array.length_toList, ← four, ← Array.sum_toList,
    Array.toList_map]

/-- **A canvas with rows of more bytes than a word counts.** A blank one is
not written, so it does not matter how wide it is. -/
structure OsdImage.Overwide (image : OsdImage) : Prop where
  /-- There is something to be seen. -/
  seen : image.blank = false
  /-- A row has too many bytes. -/
  row : UInt32.size ≤ image.width * 4

namespace OsdLayer

open Step Recorder

/-- **The texture of the layer, with what it was made from.** -/
def held (o : OsdLayer) : Option (TextureId × TextureDesc) :=
  o.texture.map fun t => (t, ⟨"osd", o.frameSize.1, o.frameSize.2, .rgba8⟩)

theorem held_of_texture {o : OsdLayer} {t : TextureId} (h : o.texture = some t) :
    o.held = some (t, ⟨"osd", o.frameSize.1, o.frameSize.2, .rgba8⟩) := by
  unfold held
  rw [h]
  rfl

theorem held_of_texture_none {o : OsdLayer} (h : o.texture = none) : o.held = none := by
  unfold held
  rw [h]
  rfl

/-- **The program of the layer, with its text.** -/
def employed (o : OsdLayer) : List (ProgramId × String) :=
  (o.program.map fun p => (p, Program.overlaySource)).toList

theorem employed_congr {o o' : OsdLayer} (h : o'.program = o.program) :
    o'.employed = o.employed := by
  unfold employed
  rw [h]

/-- **A canvas is kept, or none is.** -/
def Forgets (o o' : OsdLayer) : Prop := o'.image = none ∨ o'.image = o.image

theorem Forgets.refl (o : OsdLayer) : o.Forgets o := .inr rfl

theorem Forgets.trans {o o' o'' : OsdLayer} (h : o.Forgets o') (h' : o'.Forgets o'') :
    o.Forgets o'' := by
  obtain h' | h' := h'
  · exact .inl h'
  · obtain h | h := h
    · exact .inl (h'.trans h)
    · exact .inr (h'.trans h)

/-- **The layer shows its canvas once it was uploaded.** -/
structure Displays (o : OsdLayer) (d : Recorder) : Prop where
  /-- There is a texture if the size has pixels. -/
  made : 0 < o.frameSize.1 ∧ 0 < o.frameSize.2 → o.texture ≠ none
  /-- A canvas that was uploaded has the size of the texture, which has its
  bytes, unless the canvas is blank. It is not too wide for that. -/
  shows : o.uploaded = true → ∃ image texture, o.image = some image ∧ o.texture = some texture ∧
    (image.width, image.height) = o.frameSize ∧ ¬ image.Overwide ∧
    (image.blank = false → d.contents.get? texture = some image.canvas.bytes)

theorem displays_initial (enabled : Bool) (d : Recorder) : (initial enabled).Displays d where
  made h := absurd h.1 (Nat.lt_irrefl 0)
  shows h := by cases h

/-- What is shown stays shown while the texture has its bytes. -/
theorem Displays.congr {o : OsdLayer} {d d' : Recorder} (h : o.Displays d)
    (same : ∀ t, o.texture = some t → d'.contents.get? t = d.contents.get? t) : o.Displays d' where
  made := h.made
  shows uploaded := by
    obtain ⟨image, texture, himage, htexture, size, narrow, bytes⟩ := h.shows uploaded
    exact ⟨image, texture, himage, htexture, size, narrow, fun seen =>
      (same texture htexture).trans (bytes seen)⟩

/-- A canvas that was just taken does not count as uploaded. -/
theorem Displays.setImage {o : OsdLayer} {d : Recorder} (h : o.Displays d) (image : OsdImage) :
    (o.setImage image).Displays d where
  made := h.made
  shows uploaded := by cases uploaded

/-- Whether the layer is hidden, and which program it has, does not matter. -/
theorem Displays.layer {o o' : OsdLayer} {d : Recorder} (h : o.Displays d)
    (same : o' = { o with enabled := o'.enabled, program := o'.program }) : o'.Displays d := by
  rw [same]
  exact ⟨h.made, h.shows⟩

/-- Work on other labels leaves what is shown. -/
theorem Displays.spares {o : OsdLayer} {d d' : Recorder} {touched : String → Prop}
    (h : o.Displays d) (holds : d.Holds "osd" o.held) (spares : d.Spares d' touched)
    (apart : ¬ touched "osd") : o.Displays d' := by
  refine h.congr fun t ht => ?_
  rw [held_of_texture ht] at holds
  exact spares.contents_of_holds apart holds

/-- So does work on programs. -/
theorem Displays.samePictures {o : OsdLayer} {d d' : Recorder} (h : o.Displays d)
    (same : d.SamePictures d') : o.Displays d' :=
  h.congr fun t _ => by rw [same.contents]

/-- A canvas that takes the place of the one that is there takes the place of
the one that was. -/
theorem Forgets.or_eq_some {o o' : OsdLayer} (h : o.Forgets o') {canvas : Option OsdImage}
    {image : OsdImage} (e : canvas.or o'.image = some image) :
    canvas.or o.image = some image := by
  cases canvas with
  | some _ => exact e
  | none =>
    obtain h | h := h
    · cases h.symm.trans e
    · exact h.symm.trans e

/-- **What making the texture for a size does.** -/
structure Resized (size : Nat × Nat) (s t : OsdLayer × Bench Recorder) : Prop where
  /-- The books are in order. -/
  orderly : t.2.device.Orderly
  /-- The texture of the layer is there. -/
  holds : t.2.device.Holds "osd" t.1.held
  /-- Other textures are left alone. -/
  spares : s.2.device.Spares t.2.device (· = "osd")
  /-- So is the program. -/
  program : t.1.program = s.1.program
  /-- The size is the one that was asked for. -/
  frameSize : t.1.frameSize = size
  /-- A canvas that counts as uploaded is shown. -/
  displays : t.1.Displays t.2.device
  /-- No canvas is new. -/
  forgets : s.1.Forgets t.1
  /-- At most one number is handed out. -/
  lastId : t.2.device.lastId ≤ s.2.device.lastId + 1

/-- **A texture that was dropped is not held.** -/
theorem dropTexture_ends {s : OsdLayer × Bench Recorder} (orderly : s.2.device.Orderly)
    (holds : s.2.device.Holds "osd" s.1.held) :
    dropTexture.Ends s
      (fun _ t => t.2.device.Orderly ∧ t.2.device.Holds "osd" none ∧
        t.1 = { s.1 with texture := none } ∧ s.2.device.Spares t.2.device (· = "osd") ∧
        t.2.device.lastId = s.2.device.lastId)
      (fun _ _ => False) fun _ => False := by
  obtain ⟨o, b⟩ := s
  unfold dropTexture
  simp only [ends_bind, ends_get]
  split
  · next old hold =>
    rw [held_of_texture hold] at holds
    simp only [ends_bind, Bench.ends_change, Bench.ends_tell]
    exact ⟨orderly.destroyTexture holds.live.1, holds.destroyTexture, trivial,
      destroyTexture_spares holds.live.1, rfl⟩
  · next hnone =>
    have hempty : o.texture = none := Option.eq_none_iff_forall_ne_some.2 hnone
    rw [held_of_texture_none hempty] at holds
    refine ⟨orderly, holds, ?_, .refl _ _, rfl⟩
    show o = { o with texture := none }
    rw [← hempty]

/-- **A texture that was made is held**, if there was none. -/
theorem makeTexture_ends (size : Nat × Nat) {s : OsdLayer × Bench Recorder}
    (orderly : s.2.device.Orderly) (holds : s.2.device.Holds "osd" none)
    (texture : s.1.texture = none) (frameSize : s.1.frameSize = size) (image : s.1.image = none)
    (uploaded : s.1.uploaded = false) :
    (makeTexture size.1 size.2).Ends s (fun _ t => Resized size s t) (fun _ _ => False)
      fun _ => UInt32.size ≤ s.2.device.lastId + 1 := by
  obtain ⟨o, b⟩ := s
  unfold makeTexture
  split
  · next hpos =>
    simp only [ends_bind, Bench.ends_call, Bench.ends_change, Bench.ends_note]
    refine (createTexture_ends b.device hpos.1 hpos.2).mono ?_ (fun _ _ => id) fun _ => id
    rintro t d ⟨hn, rfl, rfl⟩
    refine ⟨orderly.added hn hpos.1 hpos.2, ?_, added_spares orderly _, rfl, frameSize,
      ⟨fun _ => Option.some_ne_none _, fun h => ?_⟩, .inl image, Nat.le_refl _⟩
    · dsimp only at frameSize
      subst frameSize
      exact Holds.added holds
    · cases uploaded.symm.trans h
  · next hpos =>
    refine ⟨orderly, ?_, .refl _ _, rfl, frameSize, ⟨fun h => ?_, fun h => ?_⟩, .refl _,
      Nat.le_succ _⟩
    · rw [held_of_texture_none texture]
      exact holds
    · rw [frameSize] at h
      exact absurd h hpos
    · cases uploaded.symm.trans h

/-- **The texture for a size is made** unless the numbers are used up. -/
theorem setFrameSize_ends (size : Nat × Nat) {s : OsdLayer × Bench Recorder}
    (orderly : s.2.device.Orderly) (holds : s.2.device.Holds "osd" s.1.held)
    (displays : s.1.Displays s.2.device) :
    (setFrameSize size).Ends s (fun _ t => Resized size s t) (fun _ _ => False)
      fun _ => UInt32.size ≤ s.2.device.lastId + 1 := by
  unfold setFrameSize
  simp only [ends_bind, ends_get]
  split
  · next hsame =>
    exact ⟨orderly, holds, .refl _ _, rfl, hsame.1, displays, .refl _, Nat.le_succ _⟩
  simp only [ends_bind, Bench.ends_change]
  refine (dropTexture_ends orderly holds).mono ?_ (fun _ _ => False.elim) fun _ => False.elim
  rintro - ⟨o, b⟩ ⟨orderly', holds', rfl, spares, lastId⟩
  have make := makeTexture_ends size orderly' holds'
    (s := ({ s.1 with texture := none, frameSize := size, image := none, uploaded := false }, b))
    rfl rfl rfl rfl
  refine make.mono ?_ (fun _ _ => id) fun _ hf => ?_
  · rintro - t made
    have image : t.1.image = none := by
      obtain h | h := made.forgets
      · exact h
      · exact h
    exact ⟨made.orderly, made.holds, spares.trans made.spares, made.program, made.frameSize,
      made.displays, .inl image, lastId ▸ made.lastId⟩
  · rwa [lastId] at hf

/-- **An image fills a texture of its size.** -/
theorem writeImage_ends {d : Recorder} {t : TextureId} {label : String} {image : Image}
    (orderly : d.Orderly)
    (live : d.textures.get? t = some ⟨label, image.width, image.height, .rgba8⟩)
    (row : image.width * 4 < UInt32.size) :
    (writeTexture t image.bytes (image.width * 4)).Ends d
      (fun _ d' => d' = d.filled t image.bytes (image.width * 4)) (fun _ _ => False)
      fun _ => False := by
  refine writeTexture_ends live row ?_
  obtain ⟨-, height⟩ := orderly.texels _ _ live
  dsimp only at height
  -- the last row ends where the bytes of the image end
  have last : image.width * 4 * (image.height - 1) + image.width * 4 =
      image.width * image.height * 4 := by
    rw [← Nat.mul_succ, Nat.succ_eq_add_one, Nat.sub_add_cancel height, Nat.mul_right_comm]
  unfold fills
  rw [Image.size_bytes, Bool.and_eq_true, decide_eq_true_iff, decide_eq_true_iff]
  exact ⟨Nat.le_refl _, Nat.le_of_eq last⟩

/-- **What uploading the canvas does.** -/
structure Shown (s t : OsdLayer × Bench Recorder) : Prop where
  /-- The books are in order. -/
  orderly : t.2.device.Orderly
  /-- The texture is the same, -/
  held : t.1.held = s.1.held
  /-- and so is its size. -/
  frameSize : t.1.frameSize = s.1.frameSize
  /-- Other textures are left alone. -/
  spares : s.2.device.Spares t.2.device (· = "osd")
  /-- The texture is there still. -/
  holds : t.2.device.Holds "osd" t.1.held
  /-- The program is the same. -/
  program : t.1.program = s.1.program
  /-- A canvas that counts as uploaded is shown. -/
  displays : t.1.Displays t.2.device
  /-- A canvas of the size of the texture is uploaded. -/
  uploads : ∀ image, s.1.image = some image → s.1.texture ≠ none →
    (image.width, image.height) = s.1.frameSize → t.1.image = some image ∧ t.1.uploaded = true
  /-- No canvas is new. -/
  forgets : s.1.Forgets t.1
  /-- No number is handed out. -/
  lastId : t.2.device.lastId = s.2.device.lastId

/-- **The canvas is uploaded** unless there is something to be seen on it, and
a row of it has more bytes than a word counts. -/
theorem upload_ends {s : OsdLayer × Bench Recorder} (orderly : s.2.device.Orderly)
    (holds : s.2.device.Holds "osd" s.1.held) (displays : s.1.Displays s.2.device) :
    upload.Ends s (fun _ t => Shown s t) (fun _ _ => False)
      fun _ => ∃ image, s.1.image = some image ∧ image.Overwide := by
  obtain ⟨o, b⟩ := s
  unfold upload
  simp only [ends_bind, ends_get]
  split
  · next uploaded =>
    exact ⟨orderly, rfl, rfl, .refl _ _, holds, rfl, displays, fun _ himage _ _ =>
      ⟨himage, uploaded⟩, .refl _, rfl⟩
  next waits =>
  split
  · next texture image both =>
    obtain ⟨htexture, himage⟩ := Prod.mk.inj both
    split
    · next hsize =>
      -- the canvas of another size is dropped, and none was uploaded before
      refine ⟨orderly, rfl, rfl, .refl _ _, holds, rfl, ⟨displays.made, fun h => absurd h waits⟩,
        fun other hother _ size => ?_, .inl rfl, rfl⟩
      cases himage.symm.trans hother
      exact absurd size hsize
    next hsize =>
    have size : (image.width, image.height) = o.frameSize := Decidable.not_not.1 hsize
    split
    · next hseen =>
      have seen : image.blank = false := by simpa using hseen
      simp only [ends_bind, ends_ofChecked, Checked.fit32_eq_ok, Bench.ends_call,
        Bench.ends_change]
      refine ⟨?_, fun f hf => ⟨image, himage, seen, Checked.le_of_fit32_eq_error hf⟩⟩
      · rintro - ⟨row, rfl⟩
        have live := holds
        rw [held_of_texture htexture, ← size] at live
        have live := live.live.1
        refine (writeImage_ends orderly live row).mono ?_ (fun _ _ => id) fun _ => False.elim
        rintro - d rfl
        refine ⟨orderly.filled live _ _, rfl, rfl, filled_spares live _ _,
          (holds_filled _ _).2 holds, rfl, ⟨displays.made, fun _ => ?_⟩,
          fun _ h _ _ => ⟨h, rfl⟩, .inr rfl, rfl⟩
        have narrow : ¬ image.Overwide := fun wide => Nat.not_lt.2 wide.row row
        exact ⟨image, texture, himage, htexture, size, narrow, fun _ =>
          (contents_filled _ _ _).trans (if_pos rfl)⟩
    · next blank =>
      refine ⟨orderly, rfl, rfl, .refl _ _, holds, rfl, ⟨displays.made, fun _ => ?_⟩,
        fun _ h _ _ => ⟨h, rfl⟩, .inr rfl, rfl⟩
      have nothing : ¬ image.blank = false := fun seen => blank (by rw [seen]; rfl)
      exact ⟨image, texture, himage, htexture, size, fun wide => nothing wide.seen, fun seen =>
        absurd seen nothing⟩
  · next nothing =>
    refine ⟨orderly, rfl, rfl, .refl _ _, holds, rfl, displays, fun image himage there _ => ?_,
      .refl _, rfl⟩
    obtain ⟨texture, htexture⟩ := Option.ne_none_iff_exists'.1 there
    exact (nothing texture image (Prod.ext htexture himage)).elim

/-- A texture and two empty places are what a quad is drawn with. -/
theorem size_bindings (texture : TextureId) : #[some texture, none, none].size = 3 := rfl

/-- **The quads of the overlay**: one, if there is a canvas to be seen, with a
texture and a program. -/
def drawings (o : OsdLayer) (rect : Rect Float32) : List Drawing :=
  match o.texture, o.program with
  | some texture, some program =>
    if o.isVisible then
      [⟨program, ⟨#[some texture, none, none], size_bindings texture⟩, Quad.of rect .whole⟩]
    else []
  | _, _ => []

theorem mem_drawings {o : OsdLayer} {rect : Rect Float32} {q : Drawing} :
    q ∈ o.drawings rect ↔ o.isVisible = true ∧ ∃ texture program,
      o.texture = some texture ∧ o.program = some program ∧
        q = ⟨program, #v[some texture, none, none], Quad.of rect .whole⟩ := by
  unfold drawings
  split
  · next texture program htexture hprogram =>
    simp [htexture, hprogram]
  · next none =>
    refine ⟨fun h => (nomatch h), ?_⟩
    rintro ⟨-, texture, program, htexture, hprogram, -⟩
    exact (none texture program htexture hprogram).elim

/-- What is drawn is drawn with the program. -/
theorem program_of_mem_drawings {o : OsdLayer} {rect : Rect Float32} {q : Drawing}
    (h : q ∈ o.drawings rect) : o.program = some q.program := by
  obtain ⟨-, texture, program, -, hprogram, rfl⟩ := mem_drawings.1 h
  exact hprogram

theorem drawings_eq_nil {o : OsdLayer} (rect : Rect Float32)
    (h : o.texture = none ∨ o.program = none ∨ o.isVisible = false) : o.drawings rect = [] := by
  refine List.eq_nil_iff_forall_not_mem.2 fun q hq => ?_
  obtain ⟨visible, texture, program, htexture, hprogram, -⟩ := mem_drawings.1 hq
  obtain h | h | h := h
  · cases h.symm.trans htexture
  · cases h.symm.trans hprogram
  · cases h.symm.trans visible

/-- **What drawing quads of the overlay does**, beside programs `others` of
other parts. -/
structure Drawn (others : List (ProgramId × String)) (quads : List Drawing)
    (s t : OsdLayer × Bench Recorder) : Prop where
  /-- The books are in order. -/
  orderly : t.2.device.Orderly
  /-- At most the program is another one. -/
  layer : t.1 = { s.1 with program := t.1.program }
  /-- The textures and their bytes are the same. -/
  pictures : s.2.device.SamePictures t.2.device
  /-- The program is one of the device. -/
  programs : t.2.device.Employs (t.1.employed ++ others)
  /-- The pass is open still. -/
  inPass : t.2.device.inPass = s.2.device.inPass
  /-- Programs are refused if they were. -/
  refusesPrograms : t.2.device.refusesPrograms = s.2.device.refusesPrograms
  /-- The quads were drawn. -/
  drawings : t.2.device.drawings = s.2.device.drawings ++ quads
  /-- At most one number is handed out. -/
  lastId : t.2.device.lastId ≤ s.2.device.lastId + 1

theorem Drawn.nothing {others : List (ProgramId × String)} {s : OsdLayer × Bench Recorder}
    (orderly : s.2.device.Orderly) (programs : s.2.device.Employs (s.1.employed ++ others)) :
    Drawn others [] s s :=
  ⟨orderly, rfl, .refl _, programs, rfl, rfl, (List.append_nil _).symm, Nat.le_succ _⟩

/-- **The program is there** unless it is refused, or the numbers are used
up. -/
theorem ensureProgram_ends {others : List (ProgramId × String)} {s : OsdLayer × Bench Recorder}
    (orderly : s.2.device.Orderly) (programs : s.2.device.Employs (s.1.employed ++ others)) :
    ensureProgram.Ends s (fun p t => Drawn others [] s t ∧ t.1.program = some p)
      (fun e t => t = s ∧ s.1.program = none ∧ s.2.device.refusesPrograms = true ∧
        e = .shader "osd")
      fun _ => UInt32.size ≤ s.2.device.lastId + 1 := by
  obtain ⟨o, b⟩ := s
  unfold ensureProgram
  simp only [ends_bind, ends_get]
  split
  · next p hp => exact ⟨.nothing orderly programs, hp⟩
  · next hnone =>
    simp only [ends_bind, Bench.ends_call, Bench.ends_change, ends_pure]
    refine (createProgram_ends b.device _).mono ?_ ?_ fun _ => id
    · rintro p d ⟨-, hn, rfl, rfl⟩
      refine ⟨⟨orderly.compiled hn _, rfl, ⟨rfl, rfl⟩, ?_, rfl, rfl, drawings_record _ _,
        Nat.le_refl _⟩, trivial⟩
      have hmade := programs.compiled orderly Program.overlaySource
      unfold employed at hmade
      rw [hnone] at hmade
      exact hmade
    · rintro e d ⟨refuses, rfl, rfl⟩
      exact ⟨rfl, hnone, refuses, rfl⟩

/-- **The canvas is drawn** if there is one to be seen, unless the program is
refused or the numbers are used up. -/
theorem draw_ends {others : List (ProgramId × String)} {s : OsdLayer × Bench Recorder}
    (orderly : s.2.device.Orderly) (holds : s.2.device.Holds "osd" s.1.held)
    (programs : s.2.device.Employs (s.1.employed ++ others))
    (opened : s.2.device.inPass = true) (rect : Rect Float32) :
    (draw rect).Ends s (fun _ t => Drawn others (t.1.drawings rect) s t)
      (fun e t => Drawn others (t.1.drawings rect) s t ∧ s.2.device.refusesPrograms = true ∧
        e = .shader "osd")
      fun _ => UInt32.size ≤ s.2.device.lastId + 1 := by
  have nothing (none : s.1.texture = none ∨ s.1.program = none ∨ s.1.isVisible = false) :
      Drawn others (s.1.drawings rect) s s := by
    rw [drawings_eq_nil rect none]
    exact .nothing orderly programs
  unfold draw
  simp only [ends_bind, ends_get]
  split
  · next texture htexture =>
    split
    · next hidden => exact nothing (.inr (.inr (by simpa using hidden)))
    next hvisible =>
    have visible : s.1.isVisible = true := by simpa using hvisible
    simp only [ends_bind, Bench.ends_call, ends_pure]
    refine (ensureProgram_ends orderly programs).mono ?_ ?_ fun _ => id
    · rintro p ⟨o, b⟩ ⟨drawn, hp⟩
      have live : b.device.programs.get? p = some Program.overlaySource := by
        refine (drawn.programs.live _ _).2 (List.mem_append_left _ ?_)
        unfold employed
        dsimp only at hp ⊢
        rw [hp]
        exact List.mem_singleton.2 rfl
      refine (bindUniforms_ends live .standard).mono ?_ (fun _ _ => False.elim) fun _ => False.elim
      rintro - d rfl
      have held := drawn.pictures.holds holds
      rw [held_of_texture htexture] at held
      have there : ∀ t, some t ∈ (#v[some texture, none, none] : Bindings).toList →
          ∃ desc, b.device.textures.get? t = some desc := by
        intro t ht
        have : t = texture := by simpa using ht
        exact this ▸ ⟨_, held.live.1⟩
      have inPass : b.device.inPass = true := drawn.inPass.trans opened
      refine (drawQuad_ends (d := b.device.bound p .standard) inPass live there
        (Quad.of rect .whole)).mono ?_ (fun _ _ => False.elim) fun _ => False.elim
      rintro - d rfl
      refine ⟨(drawn.orderly.bound live _).drew inPass live there _, drawn.layer,
        ⟨drawn.pictures.textures, drawn.pictures.contents⟩,
        ⟨drawn.programs.live, drawn.programs.once⟩, drawn.inPass, drawn.refusesPrograms, ?_,
        drawn.lastId⟩
      -- only the program of the layer is another one
      have same : o.texture = some texture ∧ o.isVisible = true := by
        rw [show o = { s.1 with program := o.program } from drawn.layer]
        exact ⟨htexture, visible⟩
      have quads : o.drawings rect = [⟨p, #v[some texture, none, none], Quad.of rect .whole⟩] := by
        unfold drawings
        rw [same.1, show o.program = some p from hp, same.2]
        rfl
      have before : b.device.drawings = s.2.device.drawings ++ [] := drawn.drawings
      show (Recorder.record _ _).drawings = _ ++ o.drawings rect
      rw [quads, drawings_record, drawings_bound, before, List.append_nil]
      rfl
    · rintro e t ⟨rfl, none, refuses, he⟩
      exact ⟨nothing (.inr (.inl none)), refuses, he⟩
  · next hnone => exact nothing (.inl (Option.eq_none_iff_forall_ne_some.2 hnone))

/-- **What a release does**, beside programs `others` of other parts. -/
structure Released (others : List (ProgramId × String)) (s t : OsdLayer × Bench Recorder) :
    Prop where
  /-- The books are in order. -/
  orderly : t.2.device.Orderly
  /-- Nothing is left in the layer. -/
  layer : t.1 = initial s.1.enabled
  /-- There is no texture. -/
  holds : t.2.device.Holds "osd" t.1.held
  /-- There is no program. -/
  programs : t.2.device.Employs (t.1.employed ++ others)
  /-- The texture was dropped, and then the program. -/
  dropped : ∃ d, s.2.device.Spares d (· = "osd") ∧ d.SamePictures t.2.device
  /-- Nothing was drawn. -/
  still : s.2.device.Still t.2.device

/-- **A release drops the texture and the program.** -/
theorem release_releases {others : List (ProgramId × String)} {s : OsdLayer × Bench Recorder}
    (orderly : s.2.device.Orderly) (holds : s.2.device.Holds "osd" s.1.held)
    (programs : s.2.device.Employs (s.1.employed ++ others)) : Released others s (release s) := by
  obtain ⟨o, b⟩ := s
  have texture : ∃ d, d = o.texture.elim b.device (fun t => Device.destroyTexture t b.device) ∧
      d.Orderly ∧ d.Holds "osd" none ∧ b.device.Spares d (· = "osd") := by
    refine ⟨_, rfl, ?_⟩
    cases ht : o.texture with
    | none =>
      rw [held_of_texture_none ht] at holds
      exact ⟨orderly, holds, .refl _ _⟩
    | some t =>
      rw [held_of_texture ht] at holds
      have live := holds.live.1
      exact ⟨orderly.destroyTexture live, holds.destroyTexture, destroyTexture_spares live⟩
  obtain ⟨d, hd, orderly', holds', spares⟩ := texture
  have employs : d.Employs (o.employed ++ others) := spares.employs programs
  have device : (release (o, b)).2.device =
      o.program.elim d (fun p => Device.destroyProgram p d) := by
    rw [hd]
    rfl
  have dropped : Recorder.Orderly (o.program.elim d fun p => Device.destroyProgram p d) ∧
      Recorder.Employs (o.program.elim d fun p => Device.destroyProgram p d) others ∧
      d.SamePictures (o.program.elim d fun p => Device.destroyProgram p d) ∧
      d.Still (o.program.elim d fun p => Device.destroyProgram p d) := by
    unfold employed at employs
    cases hp : o.program with
    | none =>
      rw [hp] at employs
      exact ⟨orderly', employs, .refl _, .refl _⟩
    | some p =>
      rw [hp] at employs
      have live := (employs.live p Program.overlaySource).2 List.mem_cons_self
      exact ⟨orderly'.destroyProgram live, employs.destroyProgram, ⟨rfl, rfl⟩, ⟨rfl, rfl,
        (drawings_record _ _).trans (List.append_nil _)⟩⟩
  rw [← device] at dropped
  obtain ⟨orderly'', programs', pictures, still⟩ := dropped
  exact ⟨orderly'', rfl, pictures.holds holds', programs', ⟨d, spares, pictures⟩,
    spares.still.trans still⟩

end OsdLayer

end Projector
