import Projector.Proofs.Announcement
import Projector.Proofs.Composition
import Projector.Proofs.Depiction
import Projector.Proofs.Numbers

/-!
# Subtitles over a picture

A canvas is composed for the frame that was presented last, and the texture of
the overlay is made for the format that is shown. The two need not agree: a
canvas may wait while the format changes, and a frame may wait while the
canvas is drawn. A canvas that was uploaded stays where it is when the overlay
is hidden, and a blank one leaves the texture as it was.

What is drawn is right all the same. The layer draws only what it counts as
uploaded, and what it counts as uploaded has the size of the format, and is in
the texture (`OsdLayer.Displays`). That it is the canvas that was taken last
is read off the run, as the frame is: `lastCanvas` is that canvas, and the
layer keeps it or none.

Nothing that is drawn for a frame is lost with the former format either. A
preparation takes the frame first, so a canvas that was drawn after the frame
meets the texture that was made for it.

It is lost in other ways. There is no canvas if a bitmap overruns, or if the
canvas itself cannot be addressed. And the preparation breaks if the device
runs out of numbers, or at a canvas that is `Overwide`: the bytes of a row are
counted in a word before it is written. These are all the ways that there are,
so the theorem is an equivalence.
-/

namespace Projector

open History

/-! ## The canvas that was taken last -/

/-- **The canvas that a preparation took last.** -/
def History.lastCanvas {δ : Type} : List (Transition δ) → Option OsdImage
  | [] => none
  | x :: past =>
    match x.move with
    | .ask .prepare => (canvases past).head?.or (lastCanvas past)
    | _ => lastCanvas past

namespace Renderer

/-- **The overlay of a renderer has a canvas**, in a texture. -/
structure Subtitled (r : Renderer Recorder) (canvas : OsdImage) (texture : TextureId) : Prop where
  /-- The canvas is the one that is kept. -/
  image : r.overlay.image = some canvas
  /-- It is uploaded. -/
  uploaded : r.overlay.uploaded = true
  /-- The texture is the one of the overlay. -/
  held : r.overlay.texture = some texture
  /-- The canvas has the size of the format, -/
  size : (canvas.width, canvas.height) = r.format.size
  /-- and so has the texture. -/
  made : ∃ desc, r.bench.device.textures.get? texture = some desc ∧
    (desc.width, desc.height) = r.format.size
  /-- The texture has the bytes of the canvas, unless it is blank. -/
  bytes : canvas.blank = false →
    r.bench.device.contents.get? texture = some canvas.canvas.bytes

/-- **What counts as uploaded is there**, and it was not too wide to be written. -/
theorem Core.Tidy.subtitled {r : Renderer Recorder} (tidy : r.core.Tidy)
    (uploaded : r.overlay.uploaded = true) :
    ∃ canvas texture, r.Subtitled canvas texture ∧ ¬ canvas.Overwide := by
  have displays : r.overlay.Displays r.bench.device := tidy.displays.layer rfl
  have fitted : r.overlay.frameSize = r.format.size := tidy.fitted
  have held : r.bench.device.Holds "osd" r.overlay.held := tidy.osd
  obtain ⟨canvas, texture, himage, htexture, size, narrow, bytes⟩ := displays.shows uploaded
  rw [OsdLayer.held_of_texture htexture] at held
  exact ⟨canvas, texture, ⟨himage, uploaded, htexture, size.trans fitted,
    ⟨_, held.live.1, fitted⟩, bytes⟩, narrow⟩

/-- **A quad of the overlay shows its canvas.** -/
theorem Rendered.subtitled {r t : Renderer Recorder} (h : Rendered r t) {q : Drawing}
    {rect : Rect Float32} (hq : q ∈ t.overlay.drawings rect) :
    r.overlay.enabled = true ∧ ∃ canvas texture, t.Subtitled canvas texture ∧
      canvas.blank = false ∧ q.textures = #v[some texture, none, none] := by
  obtain ⟨visible, texture, program, htexture, -, rfl⟩ := OsdLayer.mem_drawings.1 hq
  unfold OsdLayer.isVisible at visible
  rw [Bool.and_eq_true, Bool.and_eq_true] at visible
  obtain ⟨⟨enabled, uploaded⟩, seen⟩ := visible
  obtain ⟨canvas, texture', subtitled, -⟩ := h.tidy.subtitled uploaded
  cases htexture.symm.trans subtitled.held
  rw [subtitled.image] at seen
  have same : t.overlay.enabled = r.overlay.enabled := by rw [h.layer]
  exact ⟨same.symm.trans enabled, canvas, texture, subtitled, by simpa using seen, rfl⟩

/-- A frame that asks for a check leaves its size. -/
theorem formatAfter_size (r : Renderer Recorder) (frame : VideoFrame) :
    (r.formatAfter frame true).size = frame.format.size := by
  unfold formatAfter announces compares
  cases same : r.format.same frame.format with
  | false => rfl
  | true =>
    obtain ⟨-, width, height⟩ := VideoFormat.same_iff.1 same
    split
    · rfl
    · exact Prod.ext width height

/-- The canvas is composed for the frame that was just presented. -/
theorem mailbox_frame_present (r : Renderer Recorder) (frame : VideoFrame) (check : Bool) :
    (r.present frame check).mailbox.frame = frame :=
  congrArg (·.mailbox.frame) (r.core_present frame check)

/-- **Drawing breaks if no canvas can be composed** for the frame. -/
theorem perform_drawOsd_fault (r : Renderer Recorder) {frame : VideoFrame} (check : Bool)
    {bitmaps : List SubtitleBitmap} {fault : Fault}
    (e : OsdImage.compose frame.format.width frame.format.height bitmaps = .error fault) :
    (r.present frame check).perform (.drawOsd bitmaps) = .error fault := by
  have broken : (r.present frame check).drawOsd bitmaps = .error fault := by
    unfold drawOsd
    rw [r.mailbox_frame_present]
    dsimp only [VideoFormat.size]
    rw [e]
    rfl
  show Except.bind _ _ = _
  rw [broken]
  rfl

/-- A canvas that is composed for the frame is drawn. -/
theorem exists_drawOsd (r : Renderer Recorder) {frame : VideoFrame} (check : Bool)
    {bitmaps : List SubtitleBitmap} {out : OsdImage × List LogEvent}
    (e : OsdImage.compose frame.format.width frame.format.height bitmaps = .ok out) :
    ∃ s, (r.present frame check).drawOsd bitmaps = .ok s ∧
      (r.present frame check).perform (.drawOsd bitmaps) = .ok (.done, s) := by
  obtain ⟨s, drawn⟩ : ∃ s, (r.present frame check).drawOsd bitmaps = .ok s := by
    unfold drawOsd
    rw [r.mailbox_frame_present]
    dsimp only [VideoFormat.size]
    rw [e]
    exact ⟨_, rfl⟩
  refine ⟨s, drawn, ?_⟩
  show Except.bind _ _ = _
  rw [drawn]
  rfl

end Renderer

/-! ## Runs -/

namespace Run

variable {start r : Renderer Recorder} {past : List (Transition Recorder)}

/-- **The canvas that is kept is the one that was taken last.** -/
theorem lastCanvas_eq (fresh : start.core = .initial .initial) (run : Run start past r)
    (proper : ∀ x ∈ past, x.Proper) {image : OsdImage} (kept : r.overlay.image = some image) :
    lastCanvas past = some image := by
  have did := (run.did fresh proper).2
  refine run.keeps (p := fun c past => ∀ image, c.overlay.image = some image →
    lastCanvas past = some image) ?_ ?_ image kept
  · rw [fresh]
    intro image h
    cases h
  · rintro x hx earlier before ih image h
    have other (hm : x.move ≠ .ask .prepare) (same : x.before.overlay.image = some image) :
        lastCanvas (x :: earlier) = some image := by
      have last : lastCanvas (x :: earlier) = lastCanvas earlier := by
        rw [lastCanvas]
        split
        · next hp => exact (hm hp).elim
        · rfl
      exact last.trans (ih image same)
    cases did x hx with
    | stored idle mailbox refuses core =>
      refine other ?_ ?_
      · intro hm
        rw [hm] at idle
        cases idle
      · rw [core] at h
        exact h
    | prepared hm _ _ _ overlaid =>
      rw [lastCanvas, hm]
      dsimp only
      rw [← before.waitingCanvas_eq fresh]
      have taken := overlaid.image image h
      cases waits : x.before.waitingCanvas with
      | some canvas =>
        rw [waits] at taken
        exact taken
      | none =>
        rw [waits] at taken
        exact ih image taken
    | rendered hm rendered =>
      refine other (by rw [hm]; exact nofun) ?_
      have same : x.after.overlay.image = x.before.overlay.image := by rw [rendered.layer]
      exact same.symm.trans h
    | released hm released =>
      have none : x.after.overlay.image = none := by rw [released.layer]; rfl
      cases none.symm.trans h

/-- **A canvas drawn after a frame is shown with it**, unless the preparation
breaks. It breaks only if there is no number for some object that it makes, or
the canvas is too wide; and if it does not break, neither is so. -/
theorem subtitle (fresh : start.core = .initial .initial) (run : Run start past r)
    (proper : ∀ x ∈ past, x.Proper) {frame : VideoFrame} (made : frame.Made)
    (picture : frame.isEmpty = false) {bitmaps : List SubtitleBitmap} {canvas : OsdImage}
    {skipped : List LogEvent}
    (e : OsdImage.compose frame.format.width frame.format.height bitmaps = .ok (canvas, skipped)) :
    ∃ s, (r.present frame true).perform (.drawOsd bitmaps) = .ok (.done, s) ∧
      Renderer.prepare.Ends s
        (fun _ t => (∃ texture, t.Subtitled canvas texture) ∧
          r.bench.device.lastId + s.prepareNumbers < UInt32.size ∧ ¬ canvas.Overwide)
        (fun _ _ => False)
        fun _ => UInt32.size ≤ r.bench.device.lastId + s.prepareNumbers ∨ canvas.Overwide := by
  have first := Renderer.core_present r frame true
  have e₁ : r.perform (.present frame true) = .ok (.done, r.present frame true) := rfl
  obtain ⟨s, drawn, e₂⟩ := r.exists_drawOsd true e
  refine ⟨s, e₂, ?_⟩
  obtain ⟨_, _, -, second⟩ := Renderer.core_drawOsd drawn
  have device : s.bench.device = r.bench.device :=
    (congrArg Renderer.Core.device second).trans (congrArg Renderer.Core.device first)
  have run' := (run.ask e₁).ask e₂
  have proper' : ∀ x ∈ ⟨r.present frame true, .ask (.drawOsd bitmaps), .done, s⟩ ::
      ⟨r, .ask (.present frame true), .done, r.present frame true⟩ :: past, x.Proper :=
    List.forall_mem_cons.2 ⟨trivial, List.forall_mem_cons.2 ⟨made, proper⟩⟩
  have rest := (run'.did fresh proper').1
  -- the frame waits with its check, and the canvas was composed for it
  have waits : s.waiting = some (frame, true) := run'.waiting_eq fresh
  have covers : s.waitingCanvas = some canvas := by
    rw [run'.waitingCanvas_eq fresh]
    show ((canvas? frame bitmaps).toList ++ canvases past).head? = some canvas
    unfold canvas?
    rw [e]
    rfl
  have sound := run'.waiting_sound fresh proper'
  have ends := (Renderer.prepare_ends rest.tidy sound).and
    (Renderer.prepare_supplies rest.tidy sound)
  rw [covers, device] at ends
  refine ends.mono ?_ (fun _ _ => And.left) ?_
  · rintro - t ⟨⟨prepared, overlaid⟩, provided⟩
    have shown := prepared.shown
    rw [waits] at shown
    have size : t.format.size = frame.format.size :=
      (congrArg VideoFormat.size shown).trans (s.formatAfter_size frame)
    obtain ⟨width, height⟩ := OsdImage.size_compose e
    have fits : (canvas.width, canvas.height) = t.format.size := by
      rw [size, width, height]
      rfl
    have pixels : 0 < canvas.width ∧ 0 < canvas.height := by
      rw [width, height]
      exact made.sound.formed.pixels picture
    obtain ⟨image, uploaded⟩ := overlaid.uploads canvas rfl fits pixels
    obtain ⟨canvas', texture, subtitled, narrow⟩ := prepared.tidy.subtitled uploaded
    cases image.symm.trans subtitled.image
    refine ⟨⟨texture, subtitled⟩, ?_, narrow⟩
    -- what was handed out is a word
    have counter : t.bench.device.lastId < UInt32.size := prepared.tidy.stocked.orderly.counter
    rw [provided.lastId, device] at counter
    exact counter
  · rintro - ⟨-, full | ⟨image, himage, wide⟩⟩
    · exact .inl full
    · cases himage
      exact .inr wide

end Run

/-! ## A row that is too wide -/

/-- A black row, whose canvas is too wide. -/
theorem VideoFrame.exists_wide : ∃ frame : VideoFrame,
    frame.Made ∧ frame.isEmpty = false ∧ frame.format.size = (2 ^ 30, 1) := by
  have tight : VideoFormat.tight .i420 (2 ^ 30) 1 =
      .ok ⟨.i420, 2 ^ 30, 1, [⟨2 ^ 30, 1⟩, ⟨2 ^ 29, 1⟩, ⟨2 ^ 29, 1⟩]⟩ := rfl
  -- the bytes of the row itself are never looked at
  obtain ⟨frame, blank⟩ : ∃ frame, VideoFrame.blank .i420 (2 ^ 30) 1 = .ok frame :=
    ⟨_, (blank_eq_ok_iff tight).2 ⟨by decide, by decide, rfl⟩⟩
  refine ⟨frame, .blank (by decide) blank, ?_⟩
  obtain ⟨-, -, e⟩ := (blank_eq_ok_iff tight).1 blank
  rw [e]
  exact ⟨rfl, rfl⟩

/-- The white pixel can be seen on a canvas of such a row. -/
theorem OsdImage.exists_overwide : ∃ canvas : OsdImage,
    compose (2 ^ 30) 1 [.whitePixel] = .ok (canvas, []) ∧ canvas.Overwide := by
  obtain ⟨canvas, composed⟩ : ∃ canvas, compose (2 ^ 30) 1 [.whitePixel] = .ok (canvas, []) :=
    ⟨_, compose_eq_ok_iff.2 ⟨by decide, by decide, Prod.ext rfl rfl⟩⟩
  refine ⟨canvas, composed, ?_, ?_⟩
  · obtain ⟨-, -, e⟩ := compose_eq_ok_iff.1 composed
    rw [(Prod.mk.inj e).1, ← Bool.not_eq_true, blank_layAll]
    exact fun ⟨_, malformed⟩ => malformed .whitePixel (List.mem_singleton_self _) (by decide)
  · rw [(size_compose composed).1]
    decide

/-! ## What is shown -/

/-- **What the overlay shows is the canvas that was taken last.** Whatever was
asked of a renderer, a quad of the overlay is drawn only while the overlay is
to be seen. It has one texture, of the size of the format, with the bytes of
the canvas that a preparation took last. This canvas has the size of the
format, too, and is not blank.

And whatever was asked before, a canvas that is drawn after a frame with a
picture is shown by the next preparation, exactly if the device has a number
for each object that the preparation makes, and the canvas is not too wide. If
no canvas can be composed, drawing breaks with the same fault. -/
theorem overlay_shows_last_canvas {config : RendererConfig} {past : List (Transition Recorder)}
    {r : Renderer Recorder} (run : Run (.withConfig .initial config) past r)
    (proper : ∀ x ∈ past, x.Proper) :
    (∀ answer r', r.perform .render = .ok (answer, r') →
      ∃ new, r'.bench.device.drawings = r.bench.device.drawings ++ new ∧
        ∀ q ∈ new, r'.overlay.program = some q.program →
          r.overlay.enabled = true ∧ ∃ canvas texture, lastCanvas past = some canvas ∧
            canvas.blank = false ∧ r'.Subtitled canvas texture ∧
            q.textures = #v[some texture, none, none]) ∧
    ∀ frame bitmaps, frame.Made → frame.isEmpty = false →
      (∀ fault, OsdImage.compose frame.format.width frame.format.height bitmaps = .error fault →
        (r.present frame true).perform (.drawOsd bitmaps) = .error fault) ∧
      ∀ canvas skipped,
        OsdImage.compose frame.format.width frame.format.height bitmaps = .ok (canvas, skipped) →
        ∃ s, (r.present frame true).perform (.drawOsd bitmaps) = .ok (.done, s) ∧
          ((∃ yes t texture, s.perform .prepare = .ok (.flag yes, t) ∧
              t.Subtitled canvas texture) ↔
            r.bench.device.lastId + s.prepareNumbers < UInt32.size ∧ ¬ canvas.Overwide) := by
  have fresh := Renderer.core_withConfig Recorder.initial config
  obtain ⟨rest, -⟩ := run.did fresh proper
  refine ⟨fun answer r' e => ?_, fun frame bitmaps made picture =>
    ⟨fun _ => r.perform_drawOsd_fault true, fun canvas skipped composed => ?_⟩⟩
  · have rendered := rest.rendered e
    obtain ⟨quad, rect, drawings⟩ := rendered.quads
    refine ⟨_, drawings.trans (List.append_assoc _ _ _), fun q hq program => ?_⟩
    obtain video | overlay := List.mem_append.1 hq
    · -- the quads of the video have another program
      exact (rendered.tidy.overlay_program_ne video program).elim
    · obtain ⟨enabled, canvas, texture, subtitled, seen, bound⟩ := rendered.subtitled overlay
      have kept : r.overlay.image = some canvas := by
        have image := subtitled.image
        rw [rendered.layer] at image
        exact image
      exact ⟨enabled, canvas, texture, run.lastCanvas_eq fresh proper kept, seen, subtitled, bound⟩
  · obtain ⟨s, drawn, ends⟩ := run.subtitle fresh proper made picture composed
    refine ⟨s, drawn, ?_, ?_⟩
    · rintro ⟨yes, t, texture, e, -⟩
      obtain ⟨uploaded, hm, -⟩ | ⟨error, hm, -⟩ := Renderer.answered_eq_ok e
      · exact (ends.of_ok hm).2
      · exact (ends.of_error hm).elim
    · rintro ⟨numbers, narrow⟩
      obtain ⟨yes, t, hm, ⟨texture, subtitled⟩, -⟩ := (ends.mono (fun _ _ => id) (fun _ _ => id)
        fun _ broken => broken.elim (Nat.not_le.2 numbers) narrow).exists_ok
      refine ⟨yes, t, texture, ?_, subtitled⟩
      show Except.bind _ _ = _
      rw [hm]
      rfl

/-- A white pixel drawn over a black one is taken with it. -/
theorem overlay_shows_last_canvas_pixel : ∃ past r canvas texture,
    Run (.withConfig .initial .standard) past r ∧ (∀ x ∈ past, x.Proper) ∧
      past.map Transition.move =
        [.ask .prepare, .ask (.drawOsd [.whitePixel]), .ask (.present .blackPixel true)] ∧
      lastCanvas past = some canvas ∧ canvas.blank = false ∧ r.Subtitled canvas texture := by
  have fresh := Renderer.core_withConfig Recorder.initial .standard
  obtain ⟨start, hs⟩ : ∃ start, start = Renderer.withConfig Recorder.initial .standard := ⟨_, rfl⟩
  rw [← hs] at fresh ⊢
  have unused : start.bench.device = .initial := congrArg Renderer.Core.device fresh
  obtain ⟨canvas, composed, width, seen⟩ : ∃ canvas,
      OsdImage.compose 1 1 [.whitePixel] = .ok (canvas, []) ∧ canvas.width = 1 ∧
        canvas.blank = false := ⟨_, rfl, rfl, rfl⟩
  have e₁ : start.perform (.present .blackPixel true) =
      .ok (.done, start.present .blackPixel true) := rfl
  have began : Run (.withConfig .initial .standard) [] start := hs ▸ .start
  obtain ⟨-, shown⟩ := overlay_shows_last_canvas began (List.forall_mem_nil _)
  obtain ⟨-, shown⟩ := shown .blackPixel [.whitePixel] VideoFrame.made_blackPixel rfl
  obtain ⟨s, e₂, shown⟩ := shown canvas [] composed
  have numbers : start.bench.device.lastId + s.prepareNumbers < UInt32.size := by
    -- no number was handed out yet
    have few := s.prepareNumbers_le
    rw [unused]
    show 0 + s.prepareNumbers < 4294967296
    omega
  have narrow : ¬ canvas.Overwide := by
    intro wide
    have row := wide.row
    rw [width] at row
    exact absurd row (by decide)
  obtain ⟨yes, t, texture, e₃, subtitled⟩ := shown.2 ⟨numbers, narrow⟩
  have run := ((Run.start.ask e₁).ask e₂).ask e₃
  have proper : ∀ x ∈ [⟨s, .ask .prepare, .flag yes, t⟩,
      ⟨start.present .blackPixel true, .ask (.drawOsd [.whitePixel]), .done, s⟩,
      ⟨start, .ask (.present .blackPixel true), .done, start.present .blackPixel true⟩],
      Transition.Proper x := by
    simp only [List.forall_mem_cons]
    exact ⟨trivial, trivial, VideoFrame.made_blackPixel, List.forall_mem_nil _⟩
  exact ⟨_, t, canvas, texture, run, proper, rfl,
    run.lastCanvas_eq fresh proper subtitled.image, seen, subtitled⟩

/-- **Subtitles are lost on a frame that is too wide, and with a bitmap that
overruns.** A black frame of `2 ^ 30` columns does not take a white pixel, since
the bytes of a row of its canvas are more than a word counts. A black pixel does
not take one that is drawn with a bitmap without bytes, though this is malformed. -/
theorem subtitles_lost :
    let start := Renderer.withConfig Recorder.initial .standard
    (∃ frame canvas s, frame.Made ∧ frame.isEmpty = false ∧
      OsdImage.compose frame.format.width frame.format.height [.whitePixel] = .ok (canvas, []) ∧
      (start.present frame true).perform (.drawOsd [.whitePixel]) = .ok (.done, s) ∧
      ∃ fault, s.perform .prepare = .error fault) ∧
    let overrunning : SubtitleBitmap := ⟨0, 0, 1, 3, 2 ^ 63, #[]⟩
    ¬ overrunning.WellFormed ∧
      (start.present .blackPixel true).perform (.drawOsd [overrunning, .whitePixel]) =
        .error .overflow := by
  intro start
  refine ⟨?_, SubtitleBitmap.Overruns.not_wellFormed (by decide) (by decide),
    start.perform_drawOsd_fault true rfl⟩
  have fresh : start.core = .initial .initial := Renderer.core_withConfig _ _
  obtain ⟨frame, made, picture, size⟩ := VideoFrame.exists_wide
  obtain ⟨canvas, composed, wide⟩ := OsdImage.exists_overwide
  have composed : OsdImage.compose frame.format.width frame.format.height [.whitePixel] =
      .ok (canvas, []) := by
    rw [show frame.format.width = 2 ^ 30 from congrArg Prod.fst size,
      show frame.format.height = 1 from congrArg Prod.snd size]
    exact composed
  obtain ⟨s, drawn, ends⟩ := Run.start.subtitle fresh (List.forall_mem_nil _) made picture composed
  refine ⟨frame, canvas, s, made, picture, composed, drawn, ?_⟩
  cases e : s.perform .prepare with
  | error fault => exact ⟨fault, rfl⟩
  | ok answered =>
    obtain ⟨uploaded, hm, -⟩ | ⟨error, hm, -⟩ := Renderer.answered_eq_ok e
    · obtain ⟨-, -, narrow⟩ := ends.of_ok hm
      exact (narrow wide).elim
    · exact (ends.of_error hm).elim

end Projector
