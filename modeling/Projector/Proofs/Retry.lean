import Projector.Proofs.Safety

/-!
# A program that was refused

A renderer remembers what its program was last asked for, and asks again when
something else is wanted. It remembers this before the device has answered, so
a program that was refused is remembered just as one that was compiled. The
next frame of the same type then finds its key, and no program.

A renderer is *stuck* with a type if this is so, and a device that compiles
programs again does not help it. It gets out by another type, other effects or
a release. Where it is not stuck, the next frame with a picture is drawn.
-/

namespace Projector

open Step History

namespace Renderer

/-- **Whether there is no program for a type, and none is asked for.** -/
structure Stuck (r : Renderer Recorder) (type : PixelType) : Prop where
  /-- There is none. -/
  missing : r.program = none
  /-- The one for the type was asked for last. -/
  remembered : r.programKey = some (r.shader.programKey type)

/-- **Where programs are compiled, there is one next** unless the renderer is
stuck. -/
theorem nextProgram_eq_none_iff {r : Renderer Recorder}
    (willing : r.bench.device.refusesPrograms = false) {type : PixelType} (typed : type ≠ .empty) :
    r.nextProgram type = none ↔ r.Stuck type := by
  unfold nextProgram
  split
  · next key => exact ⟨fun none => ⟨none, key⟩, Stuck.missing⟩
  · next key =>
    have yes : r.compiles type = true := by
      unfold compiles
      rw [bne_iff_ne.2 key, Option.isSome_iff_ne_none.2 (r.shader.fragmentSource_ne_none typed),
        willing]
      rfl
    rw [if_pos yes]
    exact ⟨fun none => (nomatch none), fun stuck => (key stuck.remembered).elim⟩

/-- A renderer is stuck only after a program was refused. -/
theorem Stuck.not_compiled {r : Renderer Recorder} {type : PixelType} (h : r.Stuck type)
    (typed : type ≠ .empty) : ¬ r.core.Compiled := by
  intro compiled
  have none : r.programKey.bind Program.source? = none := compiled h.missing
  rw [h.remembered] at none
  exact r.shader.fragmentSource_ne_none typed none

theorem shader_present {δ : Type} (r : Renderer δ) (frame : VideoFrame) (check : Bool) :
    (r.present frame check).shader = r.shader := by
  unfold present requestRedraw
  dsimp only
  split <;> rfl

end Renderer

/-- A frame with a picture has a type. -/
theorem VideoFrame.Sound.typed {frame : VideoFrame} (sound : frame.Sound)
    (picture : frame.isEmpty = false) : frame.format.pixelType ≠ .empty := by
  intro empty
  have nothing : frame.isEmpty = true := sound.formed.isEmpty_iff.2 empty
  cases picture.symm.trans nothing

namespace Run

variable {start r : Renderer Recorder} {past : List (Transition Recorder)}

/-- **A frame that is presented is prepared**, with the program for its type if
there is to be one. -/
theorem present_prepares (fresh : start.core = .initial .initial) (run : Run start past r)
    (proper : ∀ x ∈ past, x.Proper) {frame : VideoFrame} (made : frame.Made) (check : Bool)
    (fits : ∀ image, r.waitingCanvas.or r.overlay.image = some image → ¬ image.Overwide)
    (room : r.bench.device.lastId + (r.present frame check).prepareNumbers < UInt32.size) :
    ∃ yes t past', past' = ⟨r.present frame check, .ask .prepare, .flag yes, t⟩ ::
        ⟨r, .ask (.present frame check), .done, r.present frame check⟩ :: past ∧
      Run start past' t ∧ (∀ x ∈ past', x.Proper) ∧
      (r.present frame check).perform .prepare = .ok (.flag yes, t) ∧
      t.bench.device.lastId = r.bench.device.lastId + (r.present frame check).prepareNumbers ∧
      t.core.Current frame ∧ r.Calm t ∧ t.shader = r.shader ∧
      t.programKey = some (r.shader.programKey frame.format.pixelType) ∧
      t.program.isSome = (r.nextProgram frame.format.pixelType).isSome := by
  have core := Renderer.core_present r frame check
  have shader := r.shader_present frame check
  have device : (r.present frame check).bench.device = r.bench.device :=
    congrArg Renderer.Core.device core
  have program : (r.present frame check).program = r.program :=
    congrArg Renderer.Core.program core
  have key : (r.present frame check).programKey = r.programKey :=
    congrArg Renderer.Core.programKey core
  have e : r.perform (.present frame check) = .ok (.done, r.present frame check) := rfl
  have presented := run.ask e
  have proper' : ∀ x ∈ ⟨r, .ask (.present frame check), .done, r.present frame check⟩ :: past,
      x.Proper := List.forall_mem_cons.2 ⟨made, proper⟩
  have fits' : ∀ image, (r.present frame check).waitingCanvas.or
      (r.present frame check).overlay.image = some image → ¬ image.Overwide := by
    have waits : (r.present frame check).waitingCanvas = r.waitingCanvas := by
      rw [presented.waitingCanvas_eq fresh, run.waitingCanvas_eq fresh]
      rfl
    have same : (r.present frame check).overlay.image = r.overlay.image :=
      congrArg (fun c => c.overlay.image) core
    rw [waits, same]
    exact fits
  obtain ⟨yes, t, e', prepared, provided⟩ := (presented.did fresh proper').1.perform_prepare
    (presented.waiting_sound fresh proper') fits' (device ▸ room)
  have waits := presented.waiting_eq fresh
  have supplied := provided.supplied _ _ waits
  refine ⟨yes, t, _, rfl, presented.ask e', List.forall_mem_cons.2 ⟨trivial, proper'⟩, e',
    device ▸ provided.lastId, prepared.current _ _ waits, ?_, provided.shader.trans shader, ?_, ?_⟩
  · refine ⟨?_, fun compiles compiled => ?_⟩
    · exact device ▸ prepared.calm.still
    · refine prepared.calm.compiled (device ▸ compiles) ?_
      rw [core]
      exact compiled
  · rw [supplied.key, shader]
  · rw [supplied.program]
    unfold Renderer.nextProgram Renderer.compiles
    rw [key, program, shader, device]

end Run

/-- **A pass draws the frame that is shown** if there is a program for it, and
nothing but the overlay if there is none. -/
theorem Renderer.Core.AtRest.draws {r : Renderer Recorder} (rest : r.core.AtRest)
    (willing : r.bench.device.refusesPrograms = false) {frame : VideoFrame} (sound : frame.Sound)
    (picture : frame.isEmpty = false) (current : r.core.Current frame)
    (key : r.programKey = some (r.shader.programKey frame.format.pixelType))
    (room : r.bench.device.lastId + r.passNumbers < UInt32.size) :
    ∃ t video overlay, r.perform .render = .ok (.done, t) ∧
      t.bench.device.drawings = r.bench.device.drawings ++ video ++ overlay ∧
      (∀ q ∈ overlay, t.overlay.program = some q.program) ∧
      (r.program.isSome = false ∧ video = [] ∨ r.program.isSome = true ∧ ∃ q, video = [q] ∧
        t.program = some q.program ∧
        q.Depicts frame (r.shader.fragmentSource frame.pixelType) t.bench.device) := by
  obtain ⟨answer, t, e, rendered, passed, rfl | ⟨refuses, -⟩⟩ := rest.perform_render room
  · have type : r.format.pixelType = frame.format.pixelType := current.type
    have program : t.program = r.program := by
      rw [passed.program, type]
      exact if_pos key
    have shown : t.core.Current frame := current.congr rendered.format rendered.textures
      fun shows => shows.samePictures rendered.pictures
    have text : t.core.programKey.bind Program.source? =
        r.shader.fragmentSource t.core.format.pixelType := by
      show t.programKey.bind _ = r.shader.fragmentSource t.format.pixelType
      rw [rendered.key, rendered.format]
      rfl
    obtain ⟨quad, overlay, drawings, others⟩ := rendered.drawings
    refine ⟨t, _, overlay, e, drawings, others, ?_⟩
    obtain ⟨none, video⟩ | ⟨q, video, some, depicts⟩ :=
      shown.videoDrawings rendered.tidy sound picture text quad
    · refine .inl ⟨?_, video⟩
      rw [← program, show t.program = _ from none]
      rfl
    · refine .inr ⟨?_, q, video, some, depicts⟩
      rw [← program, show t.program = _ from some]
      rfl
  · cases willing.symm.trans refuses

/-- **A frame with a picture is drawn unless the renderer is stuck.** Whatever
was asked of a renderer, and whatever its device refused, let the device
compile programs now. A frame with a picture that is presented is prepared, and
the next pass draws it, in one quad with the program for its type and the
effects in force. It draws no quad of the video if, and only if, the program for
this type and these effects was the one asked for last and there is none. Then
a program was refused at some time.

A preparation and a pass break only where the numbers are used up, or at a
canvas whose rows are too wide. -/
theorem frame_drawn_unless_stuck {config : RendererConfig} {past : List (Transition Recorder)}
    {r : Renderer Recorder} (run : Run (.withConfig .initial config) past r)
    (proper : ∀ x ∈ past, x.Proper) (willing : r.bench.device.refusesPrograms = false)
    {frame : VideoFrame} (made : frame.Made) (picture : frame.isEmpty = false) (check : Bool)
    (fits : ∀ image, r.waitingCanvas.or r.overlay.image = some image → ¬ image.Overwide)
    (room : r.bench.device.lastId + (r.present frame check).prepareNumbers < UInt32.size) :
    (∃ yes t, (r.present frame check).perform .prepare = .ok (.flag yes, t) ∧
      t.bench.device.lastId = r.bench.device.lastId + (r.present frame check).prepareNumbers ∧
      (t.bench.device.lastId + t.passNumbers < UInt32.size →
        ∃ u video overlay, t.perform .render = .ok (.done, u) ∧
          u.bench.device.drawings = r.bench.device.drawings ++ video ++ overlay ∧
          (∀ q ∈ overlay, u.overlay.program = some q.program) ∧
          (r.Stuck frame.pixelType → video = []) ∧
          (¬ r.Stuck frame.pixelType → ∃ q, video = [q] ∧ u.program = some q.program ∧
            q.Depicts frame (r.shader.fragmentSource frame.pixelType) u.bench.device))) ∧
      (r.Stuck frame.pixelType → ∃ x ∈ past, x.after.bench.device.refusesPrograms = true) := by
  have fresh := Renderer.core_withConfig Recorder.initial config
  have typed := made.sound.typed picture
  have stuck := Renderer.nextProgram_eq_none_iff (r := r) willing typed
  refine ⟨?_, fun h => ?_⟩
  · obtain ⟨yes, t, past', -, run', proper', e, lastId, current, calm, shader, key, program⟩ :=
      run.present_prepares fresh proper made check fits room
    refine ⟨yes, t, e, lastId, fun room' => ?_⟩
    obtain ⟨u, video, overlay, e', drawings, others, drawn⟩ := (run'.did fresh proper').1.draws
      (calm.still.refusesPrograms.trans willing) made.sound picture current (shader ▸ key) room'
    rw [calm.still.drawings] at drawings
    rw [program, shader] at drawn
    refine ⟨u, video, overlay, e', drawings, others, fun h => ?_, fun h => ?_⟩
    · obtain ⟨-, none⟩ | ⟨some, -⟩ := drawn
      · exact none
      · rw [stuck.2 h] at some
        cases some
    · obtain ⟨none, -⟩ | ⟨-, shown⟩ := drawn
      · exact (h (stuck.1 (Option.isSome_eq_false_iff.1 none |> Option.isNone_iff_eq_none.1))).elim
      · exact shown
  · refine Decidable.byContradiction fun never => h.not_compiled typed ?_
    exact run.compiled fresh proper fun x hx => Bool.eq_false_iff.2 fun refuses =>
      never ⟨x, hx, refuses⟩

/-- The first pixel is drawn. -/
theorem frame_drawn_unless_stuck_pixel : ∃ (r t u : Renderer Recorder) (yes : Bool)
    (q : Drawing) (overlay : List Drawing),
    Run (.withConfig .initial .standard) [] r ∧ ¬ r.Stuck .rgba ∧
      (r.present .blackPixel true).perform .prepare = .ok (.flag yes, t) ∧
      t.perform .render = .ok (.done, u) ∧
      u.bench.device.drawings = r.bench.device.drawings ++ [q] ++ overlay ∧
      q.Depicts .blackPixel (r.shader.fragmentSource .rgba) u.bench.device := by
  have fresh := Renderer.core_withConfig Recorder.initial .standard
  obtain ⟨r, hr⟩ : ∃ r, r = Renderer.withConfig Recorder.initial .standard := ⟨_, rfl⟩
  have run : Run (Renderer.withConfig Recorder.initial .standard) [] r := hr ▸ .start
  have core : r.core = .initial .initial := hr ▸ fresh
  have device : r.bench.device = .initial := congrArg Renderer.Core.device core
  have unstuck : ¬ r.Stuck .rgba := by
    intro stuck
    have key : r.programKey = none := congrArg Renderer.Core.programKey core
    cases key.symm.trans stuck.remembered
  -- seven numbers are enough for a preparation and a pass
  have seven : 7 < UInt32.size := by decide
  have unused : r.bench.device.lastId = 0 := congrArg Recorder.lastId device
  have five := (r.present .blackPixel true).prepareNumbers_le
  obtain ⟨⟨yes, t, e, lastId, drawn⟩, -⟩ := frame_drawn_unless_stuck run (List.forall_mem_nil _)
    (congrArg Recorder.refusesPrograms device) VideoFrame.made_blackPixel rfl true
    (fun image h => run.not_overwide fresh (List.forall_mem_nil _) (List.forall_mem_nil _) h)
    (by omega)
  have two := t.passNumbers_le
  obtain ⟨u, video, overlay, e', drawings, -, -, shown⟩ := drawn (by omega)
  obtain ⟨q, rfl, -, depicts⟩ := shown unstuck
  exact ⟨r, t, u, yes, q, overlay, run, unstuck, e, e', drawings, depicts⟩

/-- **A pixel that is prepared while programs are refused leaves the renderer
stuck.** -/
theorem Run.stuck_blackPixel {start : Renderer Recorder} (fresh : start.core = .initial .initial) :
    ∃ past r, past.map Transition.move = [.adjust fun d => d.refusePrograms false, .ask .prepare,
        .ask (.present .blackPixel true), .adjust fun d => d.refusePrograms true] ∧
      Run start past r ∧ (∀ x ∈ past, x.Proper) ∧ (∀ x ∈ past, x.Narrow) ∧
      r.bench.device.refusesPrograms = false ∧ r.bench.device.lastId ≤ 5 ∧ r.Stuck .rgba := by
  have device : start.bench.device = .initial := congrArg Renderer.Core.device fresh
  have key : start.programKey = none := congrArg Renderer.Core.programKey fresh
  have started : Run start [] start := .start
  have refusing := started.adjust fun d => d.refusePrograms true
  generalize hr : ({ start with
    bench := start.bench.onDevice fun d => d.refusePrograms true } : Renderer Recorder) = r
    at refusing
  have proper : ∀ x ∈ [⟨start, .adjust fun d => d.refusePrograms true, .done, r⟩],
      Transition.Proper x := List.forall_mem_singleton.2 ⟨true, rfl⟩
  have narrow : ∀ x ∈ [⟨start, .adjust fun d => d.refusePrograms true, .done, r⟩],
      Transition.Narrow x := List.forall_mem_singleton.2 trivial
  have unused : r.bench.device.lastId = 0 := by
    rw [← hr]
    exact congrArg Recorder.lastId device
  have five := (r.present .blackPixel true).prepareNumbers_le
  have size : 5 < UInt32.size := by decide
  obtain ⟨yes, t, past, hpast, run, proper', e, lastId, -, calm, shader, remembered, none⟩ :=
    refusing.present_prepares fresh proper VideoFrame.made_blackPixel true
      (fun image h => refusing.not_overwide fresh proper narrow h) (by omega)
  refine ⟨_, _, ?_, run.adjust fun d => d.refusePrograms false, ?_, ?_, rfl, ?_, ?_, ?_⟩
  · rw [hpast]
    rfl
  · exact List.forall_mem_cons.2 ⟨⟨false, rfl⟩, proper'⟩
  · rw [hpast]
    simp only [List.forall_mem_cons]
    exact ⟨trivial, trivial, show VideoFrame.blackPixel.format.width < 2 ^ 30 by decide, trivial,
      List.forall_mem_nil _⟩
  · show t.bench.device.lastId ≤ 5
    omega
  · have unasked : r.compiles .rgba = false := by
      unfold Renderer.compiles
      rw [← hr]
      exact Bool.and_false _
    have unknown : r.programKey ≠ some (r.shader.programKey .rgba) := by
      rw [← hr]
      exact fun known => nomatch key.symm.trans known
    have nothing : r.nextProgram .rgba = Option.none := by
      unfold Renderer.nextProgram
      rw [if_neg unknown, unasked]
      rfl
    have missing : t.program.isSome = false := none.trans (congrArg Option.isSome nothing)
    exact Option.isSome_eq_false_iff.1 missing |> Option.isNone_iff_eq_none.1
  · show t.programKey = some (t.shader.programKey .rgba)
    rw [shader]
    exact remembered

/-- **A refused program is not tried again.** A pixel is prepared while the
device refuses programs. The device compiles them again, the pixel is presented
once more, and is prepared and rendered. No quad of the video is drawn. -/
theorem refused_program_not_retried : ∃ (past : List (Transition Recorder))
    (r t u : Renderer Recorder) (yes : Bool) (overlay : List Drawing),
    Run (.withConfig .initial .standard) past r ∧ (∀ x ∈ past, x.Proper) ∧
      past.map Transition.move = [.adjust fun d => d.refusePrograms false, .ask .prepare,
        .ask (.present .blackPixel true), .adjust fun d => d.refusePrograms true] ∧
      r.bench.device.refusesPrograms = false ∧
      (r.present .blackPixel true).perform .prepare = .ok (.flag yes, t) ∧
      t.perform .render = .ok (.done, u) ∧
      u.bench.device.drawings = r.bench.device.drawings ++ overlay ∧
      ∀ q ∈ overlay, u.overlay.program = some q.program := by
  have fresh := Renderer.core_withConfig Recorder.initial .standard
  obtain ⟨start, hs⟩ : ∃ start, start = Renderer.withConfig Recorder.initial .standard := ⟨_, rfl⟩
  rw [← hs] at fresh ⊢
  obtain ⟨past, r, moves, run, proper, narrow, willing, lastId, stuck⟩ := Run.stuck_blackPixel fresh
  have five := (r.present .blackPixel true).prepareNumbers_le
  have twelve : 12 < UInt32.size := by decide
  obtain ⟨yes, t, past', -, run', proper', e, lastId', current, calm, shader, key, program⟩ :=
    run.present_prepares fresh proper VideoFrame.made_blackPixel true
      (fun image h => run.not_overwide fresh proper narrow h) (by omega)
  have two := t.passNumbers_le
  obtain ⟨u, video, overlay, e', drawings, others, ⟨-, rfl⟩ | ⟨some, -⟩⟩ :=
    (run'.did fresh proper').1.draws (calm.still.refusesPrograms.trans willing)
      VideoFrame.made_blackPixel.sound rfl current (shader ▸ key) (by omega)
  · rw [calm.still.drawings, List.append_nil] at drawings
    exact ⟨past, r, t, u, yes, overlay, run, proper, moves, willing, e, e', drawings, others⟩
  · have typed : PixelType.rgba ≠ .empty := by decide
    have none : r.nextProgram .rgba = none :=
      (Renderer.nextProgram_eq_none_iff willing typed).2 stuck
    cases (program.symm.trans some).symm.trans (congrArg Option.isSome none)

end Projector
