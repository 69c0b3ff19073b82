import Projector.Proofs.Ownership
import Projector.Proofs.Retry
import Projector.Proofs.Safety

/-!
# Frames without a picture

A frame without a picture ends the video: the textures of its planes and the
program go, and a pass has nothing of a video to draw. That a frame has no
picture is told by its planes, and that a format wants no texture by its type.
For frames that somebody made this is the same.

The size is another matter. A frame of no type can be made with a size, and
the texture of the overlay is made for the size alone. After a frame without a
picture it is the one texture that may be left, and it is left if, and only
if, the frame has a size.

A frame that has neither a picture nor a size needs nothing that could run
out. So it is taken in every state, and the pass after it is drawn, with no
call between its beginning and its end.
-/

namespace Projector

/-- A format has no size, or it has pixels. -/
theorem VideoFormat.Formed.sized {format : VideoFormat} (h : format.Formed) :
    format.size = (0, 0) ∨ 0 < format.width ∧ 0 < format.height := by
  obtain ⟨type, width, height, strides, e⟩ := h
  obtain ⟨-, rfl⟩ | ⟨width, height, -, -, rfl⟩ := VideoFormat.withStrides_eq_ok e
  · exact .inl rfl
  · exact .inr ⟨width, height⟩

/-- A frame without a picture has no type. -/
theorem VideoFrame.Sound.untyped {frame : VideoFrame} (sound : frame.Sound)
    (empty : frame.isEmpty = true) : frame.format.pixelType = .empty :=
  sound.formed.isEmpty_iff.1 empty

/-- A format of no type wants no texture. -/
theorem UploadEngine.wanted?_of_untyped {format : VideoFormat} (untyped : format.pixelType = .empty)
    (i : Fin 3) : wanted? format i = none := by
  refine wanted?_of_none ?_
  unfold VideoFormat.layout
  rw [untyped]
  rfl

/-- So textures that suit it are none. -/
theorem UploadEngine.Suits.bare {e : UploadEngine} {format : VideoFormat} (suits : e.Suits format)
    (untyped : format.pixelType = .empty) (i : Fin 3) : e.slot? i = none := by
  have fits := suits i
  rw [wanted?_of_untyped untyped] at fits
  cases h : e.slot? i with
  | none => rfl
  | some slot =>
    rw [h] at fits
    cases fits

/-- And none is missing. -/
theorem UploadEngine.missing_of_untyped (e : UploadEngine) {format : VideoFormat}
    (untyped : format.pixelType = .empty) : e.missing format = 0 := by
  have none (i : Fin 3) : e.missingAt format i = 0 := by
    unfold missingAt
    rw [wanted?_of_untyped untyped]
    rfl
  rw [missing_eq, none, none, none]

namespace Renderer

open Step Recorder

variable {r t : Renderer Recorder} {frame : VideoFrame}

/-! ## What is shown -/

/-- **A frame without a picture leaves its size and no type.** -/
theorem formatAfter_of_isEmpty (formed : r.format.Formed) (sound : frame.Sound)
    (empty : frame.isEmpty = true) (check : Bool) :
    (r.formatAfter frame check).pixelType = .empty ∧
      (r.formatAfter frame check).size = frame.format.size := by
  have untyped := sound.untyped empty
  unfold formatAfter
  cases told : r.announces frame check with
  | true => exact ⟨untyped, rfl⟩
  | false =>
    -- what is shown has no type either, and is compared for that reason
    have type : r.format.pixelType = .empty :=
      (type_of_not_announces (Bool.eq_false_iff.1 told)).trans untyped
    have same : r.format.same frame.format = true := by
      unfold announces compares at told
      rw [formed.isEmpty_iff.2 type, Bool.or_true, Bool.true_or, Bool.true_and] at told
      exact (Bool.not_eq_eq_eq_not.1 told).trans Bool.not_false
    obtain ⟨-, width, height⟩ := VideoFormat.same_iff.1 same
    split
    · exact ⟨untyped, rfl⟩
    · exact ⟨type, Prod.ext width height⟩

/-- The texture of the overlay is there if the format has a size. -/
theorem Core.Tidy.overlay_texture (tidy : t.core.Tidy) :
    t.overlay.texture = none ↔ t.format.size = (0, 0) := by
  have fitted : t.overlay.frameSize = t.format.size := tidy.fitted
  have displays : t.overlay.Displays t.bench.device := tidy.displays.layer rfl
  constructor
  · intro none
    obtain unsized | pixels := tidy.formed.sized
    · exact unsized
    · have pixels : 0 < t.format.size.1 ∧ 0 < t.format.size.2 := pixels
      rw [← fitted] at pixels
      exact (displays.made pixels none).elim
  · intro unsized
    rw [Option.eq_none_iff_forall_ne_some]
    intro texture some
    -- a texture has texels
    have held := (tidy.osd texture _).2 (OsdLayer.held_of_texture some)
    have texels := (tidy.stocked.orderly.texels texture _ held.1).1
    rw [show t.core.overlay.frameSize = (0, 0) from fitted.trans unsized] at texels
    cases texels

theorem compiles_untyped (r : Renderer Recorder) : r.compiles .empty = false := by
  unfold compiles
  rw [show r.shader.fragmentSource .empty = none from rfl, Option.isSome_none, Bool.and_false]
  rfl

/-- **Nothing of a video is there.** -/
structure Blank (t : Renderer Recorder) : Prop where
  /-- No picture is shown, -/
  hasFrame : t.hasFrame = false
  /-- there is no program, -/
  program : t.program = none
  /-- no picture to look at, -/
  image : t.frameImage = .ok none
  /-- and no texture but the one of the overlay. -/
  textures : t.bench.device.textures.keys = t.overlay.texture.toList

/-- A tidy renderer that shows no type, and has asked for no program, is
blank. -/
theorem Core.Tidy.blank (tidy : t.core.Tidy) (untyped : t.format.pixelType = .empty)
    (key : t.programKey = some (t.shader.programKey .empty)) : t.Blank := by
  have empty : t.format.isEmpty = true := tidy.formed.isEmpty_iff.2 untyped
  refine ⟨congrArg not empty, ?_, ?_, ?_⟩
  · rw [Option.eq_none_iff_forall_ne_some]
    intro p hp
    obtain ⟨source, hsource⟩ := tidy.keyed p hp
    have none : t.programKey.bind Program.source? = none := by
      rw [key]
      rfl
    cases none.symm.trans hsource
  · unfold frameImage
    rw [empty]
    rfl
  · have slots : t.textures.textureIds.toList.filterMap id = [] := by
      have bare (i : Fin 3) : t.textures.slot? i = none := tidy.suits.bare untyped i
      unfold UploadEngine.textureIds
      rw [Vector.toList_map, UploadEngine.toList_of_bare bare]
      rfl
    have known : t.knownTextures = t.overlay.texture.toList := by
      unfold knownTextures
      rw [slots, List.nil_append]
    have perm := tidy.owns.textures
    rw [known] at perm
    cases h : t.overlay.texture with
    | none =>
      rw [h] at perm
      exact perm.eq_nil
    | some texture =>
      rw [h] at perm
      exact List.perm_singleton.1 perm

/-! ## Taking it -/

/-- A layer without a texture uploads nothing. -/
theorem OsdLayer.upload_bare_ends {s : OsdLayer × Bench Recorder} (bare : s.1.texture = none) :
    OsdLayer.upload.Ends s (fun _ t => t = s) (fun _ _ => False) fun _ => False := by
  unfold OsdLayer.upload
  rw [ends_bind, ends_get]
  dsimp only
  rw [bare]
  split <;> rfl

/-- Without a texture of the overlay a canvas is taken, however wide it is. -/
theorem takeCanvas_bare_ends (bare : r.overlay.texture = none) (pending : Pending) :
    (takeCanvas pending).Ends r (fun _ _ => True) (fun _ _ => False) fun _ => False := by
  have upload {o : OsdLayer} (ho : o.texture = none) :
      OsdLayer.upload.Ends (o, r.bench) (fun _ _ => True) (fun _ _ => False) fun _ => False :=
    (OsdLayer.upload_bare_ends ho).mono (fun _ _ _ => trivial) (fun _ _ => id) fun _ => id
  unfold takeCanvas
  split
  · rw [ends_bind, ends_modify, ends_onOverlay]
    exact upload bare
  · rw [ends_onOverlay]
    exact upload bare

/-- A frame without a picture is not uploaded. -/
theorem uploadFrame_empty_ends (empty : frame.isEmpty = true) (r : Renderer Recorder) :
    (uploadFrame frame).Ends r (fun uploaded t => uploaded = false ∧ t = r) (fun _ _ => False)
      fun _ => False := by
  unfold uploadFrame
  rw [ends_bind, ends_attempt, ends_onTextures]
  refine (UploadEngine.upload_empty_ends empty).mono ?_ (fun _ _ => False.elim) fun _ => id
  rintro uploaded ⟨e, b⟩ ⟨rfl, same⟩
  cases same
  exact ⟨rfl, rfl⟩

theorem takeFrame_empty_ends (empty : frame.isEmpty = true) (check : Bool)
    (r : Renderer Recorder) : (takeFrame frame check).Ends r (fun uploaded _ => uploaded = false)
      (fun _ _ => True) fun _ => True := by
  have rest (r : Renderer Recorder) : (fill frame).Ends r (fun uploaded _ => uploaded = false)
      (fun _ _ => True) fun _ => True := by
    rw [ends_fill]
    refine (ends_somehow ensureProgram r).mono (fun _ s _ => ?_) (fun _ _ => id) fun _ => id
    exact (uploadFrame_empty_ends empty s).mono (fun _ _ => And.left) (fun _ _ => False.elim)
      fun _ => False.elim
  refine takeFrame_ends_of (fun _ => ?_) fun _ => rest r
  rw [ends_bind]
  exact (ends_somehow _ r).mono (fun _ s _ => rest s) (fun _ _ => id) fun _ => id

/-- **A preparation that finds a frame takes it.** -/
theorem prepare_ends_of_waiting {check : Bool} (waits : r.waiting = some (frame, check))
    {good : Bool → Renderer Recorder → Prop} {refused : Error → Renderer Recorder → Prop}
    {broken : Fault → Prop}
    (h : ∀ pending mailbox, pending.frame = some (frame, check) →
      (consume pending).Ends { r with mailbox } good refused broken) :
    prepare.Ends r good refused broken := by
  unfold waiting at waits
  refine prepare_ends_of (fun mailbox htake => ?_) fun pending mailbox htake => ?_
  · rw [htake] at waits
    cases waits
  · rw [htake] at waits
    exact h pending mailbox waits

/-- **A frame without a picture is answered with no.** -/
theorem prepare_empty_ends {check : Bool} (waits : r.waiting = some (frame, check))
    (empty : frame.isEmpty = true) : prepare.Ends r (fun uploaded _ => uploaded = false)
      (fun _ _ => True) fun _ => True := by
  refine prepare_ends_of_waiting waits fun pending mailbox hframe => ?_
  unfold consume takePending
  rw [hframe, ends_bind]
  refine (takeFrame_empty_ends empty check _).mono ?_ (fun _ _ => id) fun _ => id
  rintro uploaded s rfl
  rw [ends_bind]
  exact (ends_somehow _ s).mono (fun _ _ _ => rfl) (fun _ _ => id) fun _ => id

/-- Neither a picture nor a size takes no number. -/
theorem takeNumbers_of_unsized (sound : frame.Sound) (empty : frame.isEmpty = true)
    (unsized : frame.format.size = (0, 0)) (check : Bool) (r : Renderer Recorder) :
    r.takeNumbers frame check = 0 := by
  have untyped := sound.untyped empty
  have reset : r.resetNumbers frame.format = 0 := by
    unfold resetNumbers OsdLayer.sizeNumbers
    rw [unsized, UploadEngine.missing_of_untyped _ untyped]
    split <;> rfl
  unfold takeNumbers uploadNumbers
  rw [untyped, compiles_untyped, reset, ite_self, ite_self]
  rfl

theorem consume_unsized_ends {check : Bool} {pending : Pending} (tidy : r.core.Tidy)
    (hframe : pending.frame = some (frame, check)) (sound : frame.Sound)
    (empty : frame.isEmpty = true) (unsized : frame.format.size = (0, 0)) :
    (consume pending).Ends r (fun _ _ => True) (fun _ _ => False) fun _ => False := by
  unfold consume takePending
  rw [hframe, ends_bind]
  refine ((takeFrame_ends check tidy sound).and (takeFrame_supplies check tidy sound)).mono ?_
    (fun _ _ => And.left) ?_
  · rintro - s ⟨taken, -⟩
    have size : s.format.size = (0, 0) := by
      rw [taken.shown, (formatAfter_of_isEmpty tidy.formed sound empty check).2, unsized]
    rw [ends_bind]
    exact takeCanvas_bare_ends (taken.tidy.overlay_texture.2 size) pending
  · rintro f ⟨-, full⟩
    rw [takeNumbers_of_unsized sound empty unsized] at full
    exact absurd tidy.stocked.orderly.counter (Nat.not_lt.2 full)

/-- **A frame with neither a picture nor a size is taken**, however few numbers
are left and however wide a canvas is. -/
theorem prepare_unsized_ends {check : Bool} (tidy : r.core.Tidy)
    (waits : r.waiting = some (frame, check)) (sound : frame.Sound)
    (empty : frame.isEmpty = true) (unsized : frame.format.size = (0, 0)) :
    prepare.Ends r (fun _ _ => True) (fun _ _ => False) fun _ => False :=
  prepare_ends_of_waiting waits fun _ _ hframe =>
    consume_unsized_ends (tidy.congr rfl rfl rfl rfl rfl rfl) hframe sound empty unsized

/-! ## The pass after it -/

/-- **A pass of a blank renderer draws nothing but the overlay.** -/
theorem Blank.passCalls (blank : t.Blank)
    (key : t.programKey = some (t.shader.programKey t.format.pixelType)) :
    t.passCalls = .beginPass t.item.size t.clearColor ::
      (t.overlay.drawCalls t.bench.device.refusesPrograms t.bench.device.freshProgram
        t.geometry.cached ++ [.endPass]) := by
  have missing : t.nextProgram t.format.pixelType = none := (if_pos key).trans blank.program
  have asked : t.programCalls t.format.pixelType = [] := if_pos key
  unfold Renderer.passCalls contentCalls
  rw [missing, asked, compiles_of_key key]
  rfl

/-- **What is left of a renderer** by a frame of a size that has no picture. -/
structure Cleared (size : Nat × Nat) (r t : Renderer Recorder) : Prop where
  /-- Nothing of a video is there. -/
  blank : t.Blank
  /-- No frame is counted. -/
  drawnFrames : t.textures.drawnFrames = r.textures.drawnFrames
  /-- No texture is left if the frame has no size, and one if it has. -/
  bare : t.bench.device.textures.keys = [] ↔ size = (0, 0)
  /-- The program was asked for, and there is none. -/
  key : t.programKey = some (t.shader.programKey t.format.pixelType)
  /-- Nothing but the overlay is drawn by the next pass. -/
  drawn : ∀ answer u, t.perform .render = .ok (answer, u) → u.bench.device.calls.toList =
    t.bench.device.calls.toList ++ .beginPass t.item.size t.clearColor ::
      (t.overlay.drawCalls t.bench.device.refusesPrograms t.bench.device.freshProgram
        t.geometry.cached ++ [.endPass])

/-- A pass that was answered made its calls, also if the overlay was refused. -/
theorem Core.AtRest.passed {answer : Answer} (rest : r.core.AtRest)
    (e : r.perform .render = .ok (answer, t)) : Passed r t := by
  have ends := pass_records rest.tidy rest.closed
  obtain ⟨_, hm, -⟩ | ⟨_, hm, -⟩ := answered_eq_ok e
  · exact ends.of_ok hm
  · exact ends.of_error hm

/-- Without a texture of the overlay, drawing the picture and the overlay is
not refused. -/
theorem drawContents_bare_ends (tidy : r.core.Tidy) (opened : r.bench.device.inPass = true)
    (bare : r.overlay.texture = none) :
    drawContents.Ends r (fun _ t => t.bench.device.inPass = true) (fun _ _ => False)
      fun _ => False := by
  refine drawContents_films tidy opened fun t filmed => ?_
  rw [ends_onOverlay]
  unfold OsdLayer.draw
  rw [ends_bind, ends_get]
  dsimp only
  rw [filmed.overlay, bare]
  exact filmed.inPass

/-- So neither is a pass. -/
theorem render_bare_ends (rest : r.core.AtRest) (bare : r.overlay.texture = none) :
    render.Ends r (fun _ _ => True) (fun _ _ => False) fun _ => True := by
  refine render_ends_of ((ensureProgram_ends rest.tidy).mono ?_ (fun _ _ => id) fun _ _ => trivial)
  rintro - s ensured
  have closed := ensured.calm.still.inPass.trans rest.closed
  have bare : s.overlay.texture = none := ensured.overlay ▸ bare
  exact ⟨closed, (drawContents_bare_ends (ensured.tidy.begun closed) rfl bare).mono
    (fun _ _ opened => ⟨opened, trivial⟩) (fun _ _ => False.elim) fun _ => False.elim⟩

/-- **A frame with neither a picture nor a size leaves a pass without calls**
between its beginning and its end. -/
theorem Cleared.renders (cleared : Cleared (0, 0) r t) (rest : t.core.AtRest) :
    ∃ u, t.perform .render = .ok (.done, u) ∧ u.bench.device.calls.toList =
      t.bench.device.calls.toList ++ [.beginPass t.item.size t.clearColor, .endPass] := by
  have none : t.overlay.texture = none := by
    have textures := cleared.blank.textures
    rw [cleared.bare.2 rfl] at textures
    cases h : t.overlay.texture with
    | none => rfl
    | some texture =>
      rw [h] at textures
      cases textures
  have room : t.bench.device.lastId + t.passNumbers < UInt32.size := by
    have unmade : t.passNumbers = 0 := by
      unfold passNumbers OsdLayer.compiles
      rw [compiles_of_key cleared.key, none]
      rfl
    rw [unmade]
    exact rest.tidy.stocked.orderly.counter
  obtain ⟨answer, u, e, -⟩ := rest.perform_render room
  obtain ⟨_, -, rfl⟩ | ⟨_, hm, -⟩ := answered_eq_ok e
  swap
  · exact ((render_bare_ends rest none).of_error hm).elim
  have calls := cleared.drawn .done u e
  have undrawn (refuses fresh rect) : t.overlay.drawCalls refuses fresh rect = [] := by
    unfold OsdLayer.drawCalls
    rw [none]
  rw [undrawn] at calls
  exact ⟨u, e, calls⟩

end Renderer

namespace Run

open Renderer Step

variable {start r t : Renderer Recorder} {past : List (Transition Recorder)} {frame : VideoFrame}

/-- **A frame without a picture that was taken clears the video.** -/
theorem cleared (fresh : start.core = .initial .initial) (run : Run start past r)
    (proper : ∀ x ∈ past, x.Proper) (made : frame.Made) (empty : frame.isEmpty = true)
    (check : Bool) {answer : Answer}
    (e : (r.present frame check).perform .prepare = .ok (answer, t)) :
    answer = .flag false ∧ Cleared frame.format.size r t ∧ t.core.AtRest := by
  have presented := run.ask (show r.perform (.present frame check) = .ok (.done, _) from rfl)
  have proper' : ∀ x ∈ ⟨r, .ask (.present frame check), .done, r.present frame check⟩ :: past,
      x.Proper := List.forall_mem_cons.2 ⟨made, proper⟩
  have waits := presented.waiting_eq fresh
  have tidy := (presented.did fresh proper').1.tidy
  have sound := presented.waiting_sound fresh proper'
  -- what a preparation does, what it comes to, and what it answers
  have ends := ((prepare_ends tidy sound).and (prepare_supplies tidy sound)).and
    (prepare_empty_ends waits empty)
  obtain ⟨uploaded, hm, rfl⟩ | ⟨error, hm, -⟩ := answered_eq_ok e
  · obtain ⟨⟨⟨prepared, -⟩, provided⟩, rfl⟩ := ends.of_ok hm
    have supplied := provided.supplied _ _ waits
    have current := prepared.current _ _ waits
    have type : t.format.pixelType = frame.format.pixelType := current.type
    have untyped : t.format.pixelType = .empty := type.trans (made.sound.untyped empty)
    have key : t.programKey = some (t.shader.programKey t.format.pixelType) := by
      rw [supplied.key, provided.shader, type]
    have size : t.format.size = frame.format.size := by
      rw [prepared.shown, waits]
      exact (formatAfter_of_isEmpty tidy.formed made.sound empty _).2
    have blank : t.Blank := prepared.tidy.blank untyped (untyped ▸ key)
    have after := presented.ask e
    have proper'' : ∀ x ∈ ⟨r.present frame check, .ask .prepare, .flag false, t⟩ ::
        ⟨r, .ask (.present frame check), .done, r.present frame check⟩ :: past, x.Proper :=
      List.forall_mem_cons.2 ⟨trivial, proper'⟩
    have rest := (after.did fresh proper'').1
    refine ⟨rfl, ⟨blank, ?_, ?_, key, fun answer u e' => ?_⟩, rest⟩
    · rw [after.drawnFrames_eq fresh proper'', run.drawnFrames_eq fresh proper]
      rfl
    · rw [blank.textures, ← size, ← prepared.tidy.overlay_texture]
      cases t.overlay.texture <;> simp
    · rw [(rest.passed e').calls, blank.passCalls key]
  · exact (ends.of_error hm).1.1.elim

end Run

/-- **A frame without a picture clears the video.** Whatever was asked of a
renderer before, a preparation that takes such a frame answers no, and leaves
no picture and no program. No frame is counted, and the next pass draws nothing
but the overlay. The texture of the overlay is the only one that may be left. It
is left if the frame has a size, and no texture is left if it has none.

A frame without a size is taken in every state, and the pass after it is drawn,
with no quad. One with a size is taken unless the numbers are used up, or a
canvas is too wide. -/
theorem empty_frame_clears_video {config : RendererConfig} {past : List (Transition Recorder)}
    {r : Renderer Recorder} (run : Run (.withConfig .initial config) past r)
    (proper : ∀ x ∈ past, x.Proper) {frame : VideoFrame} (made : frame.Made)
    (empty : frame.isEmpty = true) (check : Bool) :
    (∀ answer t, (r.present frame check).perform .prepare = .ok (answer, t) →
      answer = .flag false ∧ Renderer.Cleared frame.format.size r t) ∧
    (frame.format.size = (0, 0) → ∃ t u,
      (r.present frame check).perform .prepare = .ok (.flag false, t) ∧
      t.perform .render = .ok (.done, u) ∧ u.bench.device.calls.toList =
        t.bench.device.calls.toList ++ [.beginPass t.item.size t.clearColor, .endPass]) ∧
    ((∀ image, r.waitingCanvas.or r.overlay.image = some image → ¬ image.Overwide) →
      r.bench.device.lastId + (r.present frame check).prepareNumbers < UInt32.size →
      ∃ t, (r.present frame check).perform .prepare = .ok (.flag false, t)) := by
  have fresh := Renderer.core_withConfig Recorder.initial config
  have cleared {answer : Answer} {t : Renderer Recorder}
      (e : (r.present frame check).perform .prepare = .ok (answer, t)) :=
    run.cleared fresh proper made empty check e
  refine ⟨fun answer t e => ?_, fun unsized => ?_, fun fits room => ?_⟩
  · obtain ⟨no, cleared, -⟩ := cleared e
    exact ⟨no, cleared⟩
  · have presented := run.ask (show r.perform (.present frame check) = .ok (.done, _) from rfl)
    have rest := (presented.did fresh (List.forall_mem_cons.2 ⟨made, proper⟩)).1
    obtain ⟨uploaded, t, hm, -⟩ := (Renderer.prepare_unsized_ends rest.tidy
      (presented.waiting_eq fresh) made.sound empty unsized).exists_ok
    have e : (r.present frame check).perform .prepare = .ok (.flag uploaded, t) := by
      show Except.bind _ _ = _
      rw [hm]
      rfl
    obtain ⟨no, left, rest'⟩ := cleared e
    rw [unsized] at left
    obtain ⟨u, e', calls⟩ := left.renders rest'
    exact ⟨t, u, no ▸ e, e', calls⟩
  · obtain ⟨yes, t, -, -, -, -, e, -⟩ := run.present_prepares fresh proper made check fits room
    exact ⟨t, (cleared e).1 ▸ e⟩

/-- A pixel is shown, and then the frame that has no size. -/
theorem empty_frame_clears_video_pixel : ∃ (past : List (Transition Recorder))
    (r t u : Renderer Recorder),
    Run (.withConfig .initial .standard) past r ∧ (∀ x ∈ past, x.Proper) ∧
      past.map Transition.move = [.ask .prepare, .ask (.present .blackPixel true)] ∧
      r.hasFrame = true ∧ r.bench.device.textures.size = 2 ∧
      (r.present .empty false).perform .prepare = .ok (.flag false, t) ∧ t.hasFrame = false ∧
      t.bench.device.textures.keys = [] ∧ t.perform .render = .ok (.done, u) ∧
      u.bench.device.calls.toList =
        t.bench.device.calls.toList ++ [.beginPass t.item.size t.clearColor, .endPass] := by
  have made : ∀ request ∈ [.present .blackPixel true, .prepare], Request.Proper request := by
    simp only [List.forall_mem_cons]
    exact ⟨VideoFrame.made_blackPixel, trivial, List.forall_mem_nil _⟩
  obtain ⟨past, r, run, proper, moves, found⟩ := Run.exists_carried (.withConfig .initial .standard)
    made (fun r => r.hasFrame = true ∧ r.bench.device.textures.size = 2) (by decide +kernel)
  obtain ⟨shown, held⟩ := of_decide_eq_true found
  obtain ⟨clears, taken, -⟩ :=
    empty_frame_clears_video run proper VideoFrame.Made.empty rfl false
  obtain ⟨t, u, e, e', calls⟩ := taken rfl
  obtain ⟨-, cleared⟩ := clears _ t e
  exact ⟨past, r, t, u, run, proper, moves, shown, held, e, cleared.blank.hasFrame,
    cleared.bare.2 rfl, e', calls⟩

/-- **A frame of no type leaves a texture if it has a size.** It has no picture,
and the overlay is made for its one pixel. -/
theorem empty_frame_keeps_overlay : ∃ (frame : VideoFrame) (past : List (Transition Recorder))
    (r : Renderer Recorder),
    VideoFrame.blank .empty 1 1 = .ok frame ∧ frame.isEmpty = true ∧
      Run (.withConfig .initial .standard) past r ∧ (∀ x ∈ past, x.Proper) ∧
      past.map Transition.move = [.ask .prepare, .ask (.present frame true)] ∧
      r.hasFrame = false ∧ r.bench.device.textures.size = 1 := by
  obtain ⟨frame, blank, empty⟩ := Checked.exists_ok_of_any
    (show (VideoFrame.blank .empty 1 1).toOption.any VideoFrame.isEmpty = true from rfl)
  have made : ∀ request ∈ [.present frame true, .prepare], Request.Proper request := by
    simp only [List.forall_mem_cons]
    exact ⟨.blank (by decide) blank, trivial, List.forall_mem_nil _⟩
  cases blank
  obtain ⟨past, r, run, proper, moves, found⟩ := Run.exists_carried (.withConfig .initial .standard)
    made (fun r => r.hasFrame = false ∧ r.bench.device.textures.size = 1) (by decide +kernel)
  exact ⟨_, past, r, rfl, empty, run, proper, moves, of_decide_eq_true found⟩

end Projector
