import Projector.Proofs.Take

/-!
# A pass

A pass draws at most one quad of the video, and then at most one of the
overlay. Nothing that was taken before it is touched: the textures and
their bytes are the same afterwards, and so is the format. What the quad of
the video shows is thus what the last preparation left, under the program
that the pass itself brought up to date.

A pass may be refused, if the overlay needs a program. It is ended all the
same.
-/

namespace Projector.Renderer

open Step Recorder

/-- **The quads of the video**: one, if there is a program and a picture. -/
def Core.videoDrawings {δ : Type} (c : Core δ) (quad : Quad Float32) : List Drawing :=
  match c.program with
  | none => []
  | some program =>
    if c.format.isEmpty || c.textures.drawnFrames == 0 then []
    else [⟨program, c.textures.textureIds, quad⟩]

/-- **What drawing quads does.** -/
structure Traced (quads : List Drawing) (r t : Renderer Recorder) : Prop where
  /-- The renderer is tidy. -/
  tidy : t.core.Tidy
  /-- Only the device is another one. -/
  same : t = { r with bench := t.bench }
  /-- The textures and their bytes are the same. -/
  pictures : r.bench.device.SamePictures t.bench.device
  /-- The pass is open still. -/
  inPass : t.bench.device.inPass = r.bench.device.inPass
  /-- Programs are refused if they were. -/
  refusesPrograms : t.bench.device.refusesPrograms = r.bench.device.refusesPrograms
  /-- The quads were drawn. -/
  drawings : t.bench.device.drawings = r.bench.device.drawings ++ quads
  /-- No number is handed out. -/
  lastId : t.bench.device.lastId = r.bench.device.lastId

/-- The textures of the slots are there. -/
theorem Core.Tidy.live_textureIds {c : Core Recorder} (h : c.Tidy) {t : TextureId}
    (ht : some t ∈ c.textures.textureIds.toList) :
    ∃ desc, c.device.textures.get? t = some desc := by
  unfold UploadEngine.textureIds at ht
  obtain ⟨x, hx, hid⟩ := Vector.mem_map.1 (Vector.mem_toList_iff.1 ht)
  obtain ⟨s, rfl, rfl⟩ := Option.map_eq_some_iff.1 hid
  obtain ⟨i, hi, hs⟩ := Vector.getElem_of_mem hx
  have known : c.textures.slot? i = some s := (UploadEngine.slot?_eq_getElem _ hi).trans hs
  exact ⟨_, (h.stocked.holds_slot (i := ⟨i, hi⟩) known).live.1⟩

/-- **The picture is drawn**, if there is one. -/
theorem drawVideo_ends {r : Renderer Recorder} (tidy : r.core.Tidy)
    (opened : r.bench.device.inPass = true) (update : VertexUpdate Float32) :
    (drawVideo update).Ends r
      (fun _ t => Traced (r.core.videoDrawings (Quad.of update.vertex update.tex)) r t)
      (fun _ _ => False) fun _ => False := by
  have nothing : Traced [] r r :=
    ⟨tidy, rfl, .refl _, rfl, rfl, (List.append_nil _).symm, rfl⟩
  unfold drawVideo Core.videoDrawings
  rw [ends_bind, ends_get, show r.core.program = r.program from rfl]
  cases hp : r.program with
  | none => exact nothing
  | some p =>
    dsimp only
    rw [show r.core.format.isEmpty = r.format.isEmpty from rfl,
      show r.core.textures.drawnFrames = r.textures.drawnFrames from rfl]
    cases r.format.isEmpty || r.textures.drawnFrames == 0 with
    | true => exact nothing
    | false =>
      obtain ⟨source, -, live⟩ := tidy.live_program hp
      simp only [Bool.false_eq_true, if_false, ends_bind, ends_onDevice]
      have there (t : TextureId) (ht : some t ∈ r.textures.textureIds.toList) :
          ∃ desc, r.bench.device.textures.get? t = some desc := tidy.live_textureIds ht
      refine (bindUniforms_ends live _).mono ?_ (fun _ _ => id) fun _ => id
      rintro - d rfl
      refine (drawQuad_ends (d := r.bench.device.bound p _) opened live there _).mono ?_
        (fun _ _ => id) fun _ => id
      rintro - d rfl
      have orderly := (tidy.stocked.orderly.bound live
        (r.shader.uniforms r.format r.textures.correction)).drew opened live there
        (Quad.of update.vertex update.tex)
      refine ⟨tidy.onDevice orderly ⟨rfl, rfl⟩ rfl, rfl, ⟨rfl, rfl⟩, rfl, rfl, ?_, rfl⟩
      show (Recorder.record _ _).drawings = _
      rw [drawings_record, drawings_bound]
      rfl

/-! ## The video and the overlay -/

/-- **What drawing the picture and the overlay does** to a core, and to the
overlay, which may be hidden. -/
structure Painted (c : Core Recorder) (o : OsdLayer) (t : Renderer Recorder) : Prop where
  /-- The renderer is tidy. -/
  tidy : t.core.Tidy
  /-- At most the device and the overlay are others. -/
  same : t.core = { c with device := t.bench.device, overlay := t.core.overlay }
  /-- At most the program of the overlay is another one. -/
  layer : t.overlay = { o with program := t.overlay.program }
  /-- The textures and their bytes are the same. -/
  pictures : c.device.SamePictures t.bench.device
  /-- The pass is open still. -/
  inPass : t.bench.device.inPass = c.device.inPass
  /-- Programs are refused if they were. -/
  refusesPrograms : t.bench.device.refusesPrograms = c.device.refusesPrograms
  /-- The quads of the video come before those of the overlay. -/
  drawings : ∃ quad rect, t.bench.device.drawings =
    c.device.drawings ++ c.videoDrawings quad ++ t.overlay.drawings rect
  /-- At most one number is handed out. -/
  lastId : t.bench.device.lastId ≤ c.device.lastId + 1

/-- What the overlay draws comes after the video. -/
theorem Traced.painted {r s : Renderer Recorder} {quad : Quad Float32}
    (h : Traced (r.core.videoDrawings quad) r s) {o : OsdLayer} {b : Bench Recorder}
    {rect : Rect Float32}
    (drawn : OsdLayer.Drawn s.core.employed (o.drawings rect) (s.overlay, s.bench) (o, b)) :
    Painted r.core r.overlay { s with overlay := o, bench := b } := by
  have tidy := h.tidy
  have layer : o = { s.overlay with program := o.program } := drawn.layer
  have held : o.held = s.overlay.held := by
    rw [layer]
    rfl
  refine ⟨?_, ?_, ?_, h.pictures.trans drawn.pictures, drawn.inPass.trans h.inPass,
    drawn.refusesPrograms.trans h.refusesPrograms, ⟨quad, rect, ?_⟩, ?_⟩
  · refine ⟨tidy.stocked.samePictures drawn.pictures drawn.orderly, tidy.suits, tidy.formed, ?_,
      drawn.programs, tidy.keyed, drawn.pictures.labelled tidy.labelled, ?_, ?_⟩
    · show b.device.Holds "osd" o.held
      rw [held]
      exact drawn.pictures.holds tidy.osd
    · show o.frameSize = s.format.size
      rw [layer]
      exact tidy.fitted
    · have displays : s.overlay.Displays b.device :=
        (tidy.displays.layer rfl).samePictures drawn.pictures
      have hidden : OsdLayer.Displays { o with enabled := false } b.device := by
        refine displays.layer ?_
        rw [layer]
      exact hidden
  · rw [h.same]
    rfl
  · have overlay : s.overlay = r.overlay := by rw [h.same]
    rw [← overlay]
    exact layer
  · have after : b.device.drawings = s.bench.device.drawings ++ o.drawings rect := drawn.drawings
    rw [h.drawings] at after
    exact after
  · have last : b.device.lastId ≤ s.bench.device.lastId + 1 := drawn.lastId
    rw [h.lastId] at last
    exact last

/-- **The picture and the overlay are drawn** unless the overlay needs a
program and the numbers are used up. If the program is refused, only the
picture is. -/
theorem drawContents_ends {r : Renderer Recorder} (tidy : r.core.Tidy)
    (opened : r.bench.device.inPass = true) :
    drawContents.Ends r (fun _ t => Painted r.core r.overlay t)
      (fun e t => Painted r.core r.overlay t ∧ r.core.device.refusesPrograms = true ∧
        e = .shader "osd")
      fun _ => UInt32.size ≤ r.core.device.lastId + 1 := by
  -- the geometry and its event come first, and are no part of the core
  have rest {s : Renderer Recorder} (core : s.core = r.core) (overlay : s.overlay = r.overlay)
      (update : VertexUpdate Float32) (rect : Rect Float32) : (do
        drawVideo update
        let _ ← onOverlay (OsdLayer.draw rect) : Step (Renderer Recorder) Unit).Ends s
        (fun _ t => Painted r.core r.overlay t)
        (fun e t => Painted r.core r.overlay t ∧ r.core.device.refusesPrograms = true ∧
          e = .shader "osd")
        fun _ => UInt32.size ≤ r.core.device.lastId + 1 := by
    rw [← core] at tidy ⊢
    rw [← overlay]
    have opened : s.bench.device.inPass = true :=
      (congrArg (fun c => c.device.inPass) core).trans opened
    rw [ends_bind]
    refine (drawVideo_ends tidy opened update).mono ?_ (fun _ _ => False.elim) fun _ => False.elim
    rintro - t traced
    have tidy := traced.tidy
    rw [ends_bind, ends_onOverlay]
    refine (OsdLayer.draw_ends (s := (t.overlay, t.bench)) tidy.stocked.orderly tidy.osd
      tidy.programs (traced.inPass.trans opened) rect).mono ?_ ?_ fun _ hf => ?_
    · exact fun _ _ drawn => traced.painted drawn
    · exact fun _ _ ⟨drawn, refuses, he⟩ =>
        ⟨traced.painted drawn, traced.refusesPrograms.symm.trans refuses, he⟩
    · have : UInt32.size ≤ t.bench.device.lastId + 1 := hf
      rw [traced.lastId] at this
      exact this
  unfold drawContents
  rw [ends_bind, ends_get]
  dsimp only
  rw [ends_bind, ends_set]
  split
  · rw [ends_bind, ends_modify]
    refine rest ?_ ?_ _ _
    · exact core_emit rfl _
    · rfl
  · refine rest ?_ ?_ _ _
    · rfl
    · rfl

/-! ## The pass -/

/-- **What a pass does.** -/
structure Rendered (r t : Renderer Recorder) : Prop where
  /-- The renderer is tidy. -/
  tidy : t.core.Tidy
  /-- The pass is ended. -/
  closed : t.bench.device.inPass = false
  /-- The program was asked for with the type and the effects. -/
  key : t.programKey = some (r.shader.programKey r.format.pixelType)
  /-- The textures are the same, -/
  textures : t.textures = r.textures
  /-- and so is the format. -/
  format : t.format = r.format
  /-- At most the program of the overlay is another one. -/
  layer : t.overlay = { r.overlay with program := t.overlay.program }
  /-- Nobody is told of a format. -/
  announced : t.announced = r.announced
  /-- The bytes of the textures are the same. -/
  pictures : r.bench.device.SamePictures t.bench.device
  /-- Programs are refused if they were. -/
  refusesPrograms : t.bench.device.refusesPrograms = r.bench.device.refusesPrograms
  /-- What is needed was compiled. -/
  compiled : r.bench.device.refusesPrograms = false → r.core.Compiled → t.core.Compiled
  /-- The quads of the video come before those of the overlay. -/
  quads : ∃ quad rect, t.bench.device.drawings =
    r.bench.device.drawings ++ t.core.videoDrawings quad ++ t.overlay.drawings rect

/-- The quads of the overlay have its program. -/
theorem Rendered.drawings {r t : Renderer Recorder} (h : Rendered r t) :
    ∃ quad overlay, t.bench.device.drawings =
      r.bench.device.drawings ++ t.core.videoDrawings quad ++ overlay ∧
        ∀ q ∈ overlay, t.overlay.program = some q.program := by
  obtain ⟨quad, rect, drawings⟩ := h.quads
  exact ⟨quad, _, drawings, fun _ => OsdLayer.program_of_mem_drawings⟩

/-- What was painted is rendered once the pass is ended. -/
theorem Painted.rendered {r s t : Renderer Recorder} (ensured : Ensured r s)
    {viewport : Size Float32} {clear : ClearColor}
    (painted : Painted { s.core with device := s.bench.device.begun viewport clear } s.overlay t) :
    Rendered r { t with bench := { t.bench with device := t.bench.device.ended } } := by
  have same := painted.same
  obtain ⟨quad, rect, drawings⟩ := painted.drawings
  have orderly := painted.tidy.stocked.orderly.ended painted.inPass
  refine ⟨painted.tidy.onDevice orderly ⟨rfl, rfl⟩ rfl, rfl, ?_, ?_, ?_, ?_, ?_, ?_,
    painted.refusesPrograms.trans ensured.calm.still.refusesPrograms, fun compiles compiled => ?_,
    quad, rect, ?_⟩
  · exact (congrArg Core.programKey same).trans ensured.key
  · exact (congrArg Core.textures same).trans ensured.textures
  · exact (congrArg Core.format same).trans ensured.format
  · rw [← ensured.overlay]
    exact painted.layer
  · exact (congrArg Core.announced same).trans ensured.announced
  · have began : s.bench.device.SamePictures (s.bench.device.begun viewport clear) := ⟨rfl, rfl⟩
    have ended : t.bench.device.SamePictures t.bench.device.ended := ⟨rfl, rfl⟩
    exact (ensured.pictures.trans began).trans (painted.pictures.trans ended)
  · have after : s.core.Compiled := ensured.calm.compiled compiles compiled
    intro hnone
    have key : t.programKey = s.programKey := congrArg Core.programKey same
    have program : t.program = s.program := congrArg Core.program same
    show t.programKey.bind _ = none
    rw [key]
    exact after (program.symm.trans hnone)
  · have video : t.core.videoDrawings quad = s.core.videoDrawings quad := by
      rw [same]
      rfl
    show t.bench.device.ended.drawings = _ ++ t.core.videoDrawings quad ++ _
    rw [drawings_ended, drawings, video, drawings_begun, ensured.calm.still.drawings]
    rfl

/-- **A pass is a frame around what is drawn**: the program is brought up to
date and the pass is begun before it, and the pass is ended after it, also if
drawing was refused. -/
theorem render_ends_of {r : Renderer Recorder} {good : Unit → Renderer Recorder → Prop}
    {refused : Error → Renderer Recorder → Prop} {broken : Fault → Prop}
    (h : ensureProgram.Ends r
      (fun _ s => s.bench.device.inPass = false ∧ drawContents.Ends
        { s with bench := { s.bench with
            device := s.bench.device.begun s.item.size s.clearColor } }
        (fun _ t => t.bench.device.inPass = true ∧
          good () { t with bench := { t.bench with device := t.bench.device.ended } })
        (fun e t => t.bench.device.inPass = true ∧
          refused e { t with bench := { t.bench with device := t.bench.device.ended } })
        broken)
      refused broken) :
    render.Ends r good refused broken := by
  unfold render
  rw [ends_bind]
  refine h.mono ?_ (fun _ _ => id) fun _ => id
  rintro - s ⟨closed, contents⟩
  simp only [ends_bind, ends_get, ends_onDevice, ends_attempt]
  refine (beginPass_ends closed _ _).mono ?_ (fun _ _ => False.elim) fun _ => False.elim
  rintro - d rfl
  refine contents.mono ?_ ?_ fun _ => id
  · rintro - t ⟨opened, h⟩
    refine (endPass_ends opened).mono ?_ (fun _ _ => False.elim) fun _ => False.elim
    rintro - d rfl
    exact h
  · rintro x t ⟨opened, h⟩
    refine (endPass_ends opened).mono ?_ (fun _ _ => False.elim) fun _ => False.elim
    rintro - d rfl
    exact h

/-- A tidy renderer is tidy once a pass is begun. -/
theorem Core.Tidy.begun {s : Renderer Recorder} (h : s.core.Tidy)
    (closed : s.bench.device.inPass = false) : Core.Tidy (Renderer.core { s with
      bench := { s.bench with device := s.bench.device.begun s.item.size s.clearColor } }) :=
  h.onDevice (h.stocked.orderly.begun closed _ _) ⟨rfl, rfl⟩ rfl

/-- **A pass is drawn** unless the numbers are used up. Only the program of
the overlay may be refused, and the pass is ended all the same. -/
theorem pass_ends {r : Renderer Recorder} (tidy : r.core.Tidy)
    (closed : r.bench.device.inPass = false) :
    render.Ends r (fun _ t => Rendered r t)
      (fun e t => Rendered r t ∧ r.bench.device.refusesPrograms = true ∧ e = .shader "osd")
      fun _ => UInt32.size ≤ r.bench.device.lastId + 2 := by
  refine render_ends_of ((ensureProgram_ends tidy).mono ?_ (fun _ _ => False.elim) fun _ hf => ?_)
  · rintro - s ensured
    have still := ensured.calm.still
    have closed := still.inPass.trans closed
    refine ⟨closed, (drawContents_ends (ensured.tidy.begun closed) rfl).mono ?_ ?_ fun _ hf => ?_⟩
    · exact fun _ t painted => ⟨painted.inPass, painted.rendered ensured⟩
    · exact fun x t ⟨painted, refuses, hx⟩ => ⟨painted.inPass, painted.rendered ensured,
        still.refusesPrograms.symm.trans refuses, hx⟩
    · have first := ensured.lastId
      have : UInt32.size ≤ s.bench.device.lastId + 1 := hf
      omega
  · omega

/-- A pass does what it does also where the overlay is refused. -/
theorem render_ends {r : Renderer Recorder} (tidy : r.core.Tidy)
    (closed : r.bench.device.inPass = false) :
    render.Ends r (fun _ t => Rendered r t) (fun _ t => Rendered r t)
      fun _ => UInt32.size ≤ r.bench.device.lastId + 2 :=
  (pass_ends tidy closed).mono (fun _ _ => id) (fun _ _ => And.left) fun _ => id

/-! ## The release -/

/-- **What a release does.** -/
structure Released (r t : Renderer Recorder) : Prop where
  /-- The renderer is tidy. -/
  tidy : t.core.Tidy
  /-- No format is shown. -/
  format : t.format = .empty
  /-- The engine has no texture, -/
  slots : ∀ i, t.textures.slot? i = none
  /-- the overlay has nothing, -/
  layer : t.overlay = .initial r.overlay.enabled
  /-- and there is no program. -/
  program : t.program = none
  /-- Nothing was drawn. -/
  calm : r.Calm t

/-- **A release leaves a tidy renderer** that shows nothing. -/
theorem release_releases {r : Renderer Recorder} (tidy : r.core.Tidy) : Released r r.release := by
  obtain ⟨stocked, spares, -⟩ := tidy.stocked.release (s := (r.textures, r.bench))
  have none := UploadEngine.slot?_release (r.textures, r.bench)
  have suits := UploadEngine.suits_empty none
  unfold release
  -- textures, overlay and program go one after the other
  generalize UploadEngine.release (r.textures, r.bench) = s at *
  obtain ⟨e, b⟩ := s
  have overlay := OsdLayer.release_releases (s := (r.overlay, b)) stocked.orderly
    (spares.holds not_isSlotLabel_osd tidy.osd) (spares.employs tidy.programs)
  dsimp only
  generalize OsdLayer.release (r.overlay, b) = s at *
  obtain ⟨o, b'⟩ := s
  obtain ⟨d, spares', pictures⟩ := overlay.dropped
  obtain ⟨bench, hr, drop⟩ := dropProgram_drops
    (r := { r with textures := e, overlay := o, bench := b' }) overlay.orderly overlay.programs
    tidy.keyed
  dsimp only
  rw [hr]
  have pictures' := pictures.trans drop.pictures
  have slots (i : Fin 3) : bench.device.Holds (UploadEngine.slotLabel i) (e.held i) :=
    pictures'.holds (spares'.holds (UploadEngine.slotLabel_ne_osd i) (stocked.holds i))
  have layer : o = .initial r.overlay.enabled := overlay.layer
  refine ⟨⟨⟨drop.orderly, slots⟩, suits, VideoFormat.formed_empty,
    drop.pictures.holds overlay.holds, ?_, (fun p h => by cases h), ?_, ?_, ?_⟩, rfl, none, layer,
    rfl, ?_⟩
  · rw [Core.employed_of_none rfl, List.append_nil]
    exact drop.programs
  · have labelled := spares.labelled tidy.labelled isPartLabel_of_slot
    exact pictures'.labelled (spares'.labelled labelled isPartLabel_of_osd)
  · show o.frameSize = _
    rw [layer]
    rfl
  · rw [layer]
    exact OsdLayer.displays_initial false _
  · exact ⟨(spares.still.trans overlay.still).trans drop.still, fun _ _ _ => rfl⟩

end Projector.Renderer
