import Projector.Proofs.Recorded

/-!
# A pass shows the frame that was taken last

The textures, the program and the format of a renderer change at different
times and for different reasons: a frame with another format, a frame that
does not fit, an effect, a release. What keeps the picture from being an
old one is that after every move they agree with one thing, the frame that
was taken last. `lastTaken` reads this frame off a run, `Core.Reflects` says
that the renderer agrees with it, and every move keeps it so.
-/

namespace Projector

open Step History

/-! ## The frame that was taken last -/

/-- **The frame that was taken last**, if one was since the last release. -/
def History.lastTaken {δ : Type} : List (Transition δ) → Option VideoFrame
  | [] => none
  | x :: past =>
    match x.move with
    | .ask .prepare => ((frames past).head?.map Prod.fst).or (lastTaken past)
    | .ask .release => none
    | _ => lastTaken past

/-- An idle move takes nothing. -/
theorem History.lastTaken_of_isIdle {δ : Type} {x : Transition δ} {past : List (Transition δ)}
    (idle : x.move.isIdle = true) : lastTaken (x :: past) = lastTaken past := by
  rw [lastTaken]
  split
  · next hx =>
    rw [hx] at idle
    cases idle
  · next hx =>
    rw [hx] at idle
    cases idle
  · rfl

namespace Renderer

/-- **A core agrees with the frame that was taken last.** -/
def Core.Reflects (c : Core Recorder) : Option VideoFrame → Prop
  | none => c.format = .empty
  | some frame => frame.Sound ∧ c.Current frame

/-- What is shown is shown by other cores with the same pictures. -/
theorem Core.Reflects.congr {c c' : Core Recorder} {last : Option VideoFrame} (h : c.Reflects last)
    (format : c'.format = c.format) (textures : c'.textures = c.textures)
    (same : c.device.SamePictures c'.device) : c'.Reflects last := by
  cases last with
  | none => exact format.trans h
  | some frame =>
    obtain ⟨sound, current⟩ := h
    exact ⟨sound, current.congr format textures fun shows => shows.samePictures same⟩

/-- **A preparation takes the frame that waits**, or keeps the one that is
shown. -/
theorem Prepared.reflects {waiting : Option (VideoFrame × Bool)} {r t : Renderer Recorder}
    {last : Option VideoFrame} (h : Prepared waiting r t) (reflects : r.core.Reflects last)
    (sound : ∀ frame check, waiting = some (frame, check) → frame.Sound) :
    t.core.Reflects ((waiting.map Prod.fst).or last) := by
  cases waiting with
  | some x => exact ⟨sound x.1 x.2 rfl, h.current x.1 x.2 rfl⟩
  | none =>
    cases last with
    | none => exact h.shown.trans reflects
    | some frame => exact ⟨reflects.1, h.kept rfl frame reflects.2⟩

end Renderer

/-- **Every move agrees with the frame that was taken last**, if the one
before did. -/
theorem Transition.Did.reflects {x : Transition Recorder} {past : List (Transition Recorder)}
    (did : x.Did) (waits : x.before.waiting.map Prod.fst = (frames past).head?.map Prod.fst)
    (h : x.before.core.Reflects (lastTaken past)) :
    x.after.core.Reflects (lastTaken (x :: past)) := by
  cases did with
  | stored idle mailbox refuses core =>
    rw [lastTaken_of_isIdle idle, core]
    exact h.congr rfl rfl ⟨rfl, rfl⟩
  | prepared hx _ sound prepared =>
    rw [lastTaken, hx]
    dsimp only
    rw [← waits]
    exact prepared.reflects h sound
  | rendered hx rendered =>
    rw [lastTaken, hx]
    exact h.congr rendered.format rendered.textures rendered.pictures
  | released hx released =>
    rw [lastTaken, hx]
    exact released.format

/-- Every move compiles what is needed, unless programs are refused. -/
theorem Transition.Did.compiled {x : Transition Recorder} (did : x.Did)
    (willing : x.after.bench.device.refusesPrograms = false) (h : x.before.core.Compiled) :
    x.after.core.Compiled := by
  cases did with
  | stored idle mailbox refuses core =>
    rw [core]
    exact h
  | prepared _ _ _ prepared =>
    exact prepared.calm.compiled (prepared.calm.still.refusesPrograms.symm.trans willing) h
  | rendered _ rendered =>
    exact rendered.compiled (rendered.refusesPrograms.symm.trans willing) h
  | released _ released =>
    exact released.calm.compiled (released.calm.still.refusesPrograms.symm.trans willing) h

/-- **A renderer agrees with the frame that was taken last**, after any
run. -/
theorem Run.reflects {start r : Renderer Recorder} {past : List (Transition Recorder)}
    (fresh : start.core = .initial .initial) (run : Run start past r)
    (proper : ∀ x ∈ past, x.Proper) : r.core.Reflects (lastTaken past) := by
  have first : start.core.Reflects none := by
    rw [fresh]
    rfl
  refine run.keeps (p := fun c past => c.Reflects (lastTaken past)) first ?_
  intro x hx earlier run' reflects
  refine ((run.did fresh proper).2 x hx).reflects ?_ reflects
  rw [run'.waiting_eq fresh, Option.map_map]
  rfl

/-- **What is needed was compiled** if programs were never refused. -/
theorem Run.compiled {start r : Renderer Recorder} {past : List (Transition Recorder)}
    (fresh : start.core = .initial .initial) (run : Run start past r)
    (proper : ∀ x ∈ past, x.Proper)
    (willing : ∀ x ∈ past, x.after.bench.device.refusesPrograms = false) : r.core.Compiled := by
  have first : start.core.Compiled := by
    rw [fresh]
    exact fun _ => rfl
  refine run.keeps (p := fun c _ => c.Compiled) first ?_
  intro x hx _ _ compiled
  exact ((run.did fresh proper).2 x hx).compiled (willing x hx) compiled

/-- A device compiles programs after a run in which it never refused them. -/
theorem Run.willing {start r : Renderer Recorder} {past : List (Transition Recorder)}
    (fresh : start.core = .initial .initial) (run : Run start past r)
    (willing : ∀ x ∈ past, x.after.bench.device.refusesPrograms = false) :
    r.bench.device.refusesPrograms = false := by
  cases run with
  | start => exact congrArg (fun c => c.device.refusesPrograms) fresh
  | ask => exact willing _ List.mem_cons_self
  | adjust => exact willing _ List.mem_cons_self

/-! ## What a pass draws -/

/-- There is a program for every type with a picture. -/
theorem ShaderParams.fragmentSource_ne_none (p : ShaderParams) {type : PixelType}
    (h : type ≠ .empty) : p.fragmentSource type ≠ none := by
  unfold fragmentSource Program.source?
  rw [if_neg (show (p.programKey type).pixelType ≠ .empty from h)]
  exact Option.some_ne_none _

/-- **A quad that shows a frame** on a device, with a program of some
text. -/
structure Drawing.Depicts (q : Drawing) (frame : VideoFrame) (text : Option String)
    (d : Recorder) : Prop where
  /-- The program is there, and has the text. -/
  program : text.isSome = true ∧ d.programs.get? q.program = text
  /-- There is a texture for every slot of the frame's type, and no other. -/
  bound : ∀ i : Nat, (∃ texture, q.textures[i]? = some (some texture)) ↔
    i < frame.format.layout.slots.length
  /-- It has the rows of the slot's source plane, and nothing else. -/
  bytes : ∀ (i : Nat) layout, frame.format.layout.slots[i]? = some layout → ∃ texture plane,
    q.textures[i]? = some (some texture) ∧ d.textures.contains texture = true ∧
      frame.planes[layout.sourcePlane]? = some plane ∧
      plane.stride * frame.format.byteHeight layout.sourcePlane ≤ plane.data.size ∧
      d.contents.get? texture =
        some (plane.data.extract 0 (plane.stride * frame.format.byteHeight layout.sourcePlane))

namespace Renderer

/-- The textures to draw with are those of the slots. -/
theorem textureIds_eq_some (e : UploadEngine) (i : Nat) (t : TextureId) :
    e.textureIds[i]? = some (some t) ↔ ∃ s, e.slot? i = some s ∧ s.id = t := by
  unfold UploadEngine.textureIds UploadEngine.slot?
  rw [Vector.getElem?_map]
  cases e.slots[i]? with
  | none => simp
  | some x => simp

/-- Textures that suit a format are there for each of its slots only. -/
theorem exists_textureId {e : UploadEngine} {format : VideoFormat} (suits : e.Suits format)
    (formed : format.Formed) (i : Nat) :
    (∃ texture, e.textureIds[i]? = some (some texture)) ↔ i < format.layout.slots.length := by
  constructor
  · rintro ⟨texture, there⟩
    obtain ⟨s, known, -⟩ := (textureIds_eq_some e i texture).1 there
    obtain ⟨j, rfl⟩ := UploadEngine.exists_of_slot?_eq_some known
    refine Decidable.not_not.1 fun out => ?_
    have fits := suits j
    rw [UploadEngine.wanted?_of_none (List.getElem?_eq_none (Nat.le_of_not_lt out)), known] at fits
    cases fits
  · intro inside
    obtain ⟨s, known, -⟩ := suits.slot formed (List.getElem?_eq_getElem inside)
    exact ⟨s.id, (textureIds_eq_some e i s.id).2 ⟨s, known, rfl⟩⟩

/-- **What is current is depicted** by a quad with the textures of the slots. -/
theorem Core.Current.depicts {c : Core Recorder} {frame : VideoFrame} (h : c.Current frame)
    (sound : frame.Sound) (picture : frame.isEmpty = false) {p : ProgramId} {text : String}
    (live : c.device.programs.get? p = some text) (quad : Quad Float32) :
    Drawing.Depicts ⟨p, c.textures.textureIds, quad⟩ frame (some text) c.device := by
  refine ⟨⟨rfl, live⟩, exists_textureId h.suits sound.formed, fun i layout hi => ?_⟩
  obtain ⟨slot, plane, known, there, source, rows, contents⟩ := h.shows picture i layout hi
  refine ⟨slot.id, plane, ?_, there, source, rows, contents⟩
  exact (textureIds_eq_some c.textures i slot.id).2 ⟨slot, known, rfl⟩

/-- Without a picture there is no quad of the video. -/
theorem Core.videoDrawings_of_isEmpty {c : Core Recorder} (h : c.format.isEmpty = true)
    (quad : Quad Float32) : c.videoDrawings quad = [] := by
  unfold videoDrawings
  rw [h, Bool.true_or]
  cases c.program <;> rfl

/-- A format has no planes if the frame that is shown has no picture. -/
theorem Core.Current.isEmpty_eq {c : Core Recorder} {frame : VideoFrame} (h : c.Current frame)
    (tidy : c.Tidy) (sound : frame.Sound) : c.format.isEmpty = frame.isEmpty := by
  rw [Bool.eq_iff_iff, tidy.formed.isEmpty_iff, h.type]
  exact sound.formed.isEmpty_iff.symm

/-- **With a picture there is one quad of the video** if there is a program,
and it shows the picture. -/
theorem Core.Current.videoDrawings {c : Core Recorder} {frame : VideoFrame} (h : c.Current frame)
    (tidy : c.Tidy) (sound : frame.Sound) (picture : frame.isEmpty = false)
    {text : PixelType → Option String}
    (key : c.programKey.bind Program.source? = text c.format.pixelType) (quad : Quad Float32) :
    c.program = none ∧ c.videoDrawings quad = [] ∨ ∃ q, c.videoDrawings quad = [q] ∧
      c.program = some q.program ∧ q.Depicts frame (text frame.format.pixelType) c.device := by
  cases hp : c.program with
  | none =>
    refine .inl ⟨rfl, ?_⟩
    unfold Core.videoDrawings
    rw [hp]
  | some p =>
    obtain ⟨source, hsource, live⟩ := tidy.live_program hp
    have counted : (c.textures.drawnFrames == 0) = false :=
      beq_eq_false_iff_ne.2 (h.counted picture)
    refine .inr ⟨⟨p, c.textures.textureIds, quad⟩, ?_, rfl, ?_⟩
    · unfold Core.videoDrawings
      rw [hp, h.isEmpty_eq tidy sound, picture, counted]
      rfl
    · rw [← h.type, ← key, hsource]
      exact h.depicts sound picture live quad

/-- The overlay has a program of its own. -/
theorem Core.Tidy.overlay_program_ne {c : Core Recorder} (h : c.Tidy) {quad : Quad Float32}
    {q : Drawing} (hq : q ∈ c.videoDrawings quad) : c.overlay.program ≠ some q.program := by
  refine h.programs_ne ?_
  unfold videoDrawings at hq
  split at hq
  · cases hq
  · next p hp =>
    split at hq
    · cases hq
    · cases List.mem_singleton.1 hq
      exact hp

end Renderer

/-- **A pass shows the frame that was taken last.** After any requests and
with any frames that somebody made, a pass draws quads of the video and then
quads of the overlay. If the frame that was taken last, after the last
release, has a picture, there is one quad of the video. It is drawn with a
program whose text is the one for the frame's type and the effects in force,
and its textures are those of the type's slots, with the rows of the frame's
planes. It is missing only if the program is, and that takes a device that
refused programs at some time. Without a picture there is no quad. -/
theorem render_draws_last_taken {config : RendererConfig} {past : List (Transition Recorder)}
    {r r' : Renderer Recorder} {answer : Answer} (run : Run (.withConfig .initial config) past r)
    (proper : ∀ x ∈ past, x.Proper) (e : r.perform .render = .ok (answer, r')) :
    ∃ video overlay, r'.bench.device.drawings = r.bench.device.drawings ++ video ++ overlay ∧
      (∀ q ∈ overlay, r'.overlay.program = some q.program) ∧
      (∀ q ∈ video, r'.overlay.program ≠ some q.program) ∧
      match lastTaken past with
      | none => video = []
      | some frame =>
        if frame.isEmpty then video = []
        else
          (∃ q, video = [q] ∧ r'.program = some q.program ∧
            q.Depicts frame (r.shader.fragmentSource frame.pixelType) r'.bench.device) ∨
          (video = [] ∧ r'.program = none ∧
            ∃ x ∈ past, x.after.bench.device.refusesPrograms = true) := by
  have fresh := Renderer.core_withConfig Recorder.initial config
  obtain ⟨rest, -⟩ := run.did fresh proper
  have ends := Renderer.render_ends rest.tidy rest.closed
  have rendered : Renderer.Rendered r r' := by
    obtain ⟨a, hm, -⟩ | ⟨error, hm, -⟩ := Renderer.answered_eq_ok e
    · exact ends.of_ok hm
    · exact ends.of_error hm
  obtain ⟨quad, overlay, drawings, program⟩ := rendered.drawings
  have reflects : r'.core.Reflects (lastTaken past) :=
    (run.reflects fresh proper).congr rendered.format rendered.textures rendered.pictures
  have key : r'.core.programKey.bind Program.source? =
      r.shader.fragmentSource r'.core.format.pixelType := by
    show r'.programKey.bind _ = r.shader.fragmentSource r'.format.pixelType
    rw [rendered.key, rendered.format]
    rfl
  refine ⟨r'.core.videoDrawings quad, overlay, drawings, program,
    fun q hq => rendered.tidy.overlay_program_ne hq, ?_⟩
  cases hlast : lastTaken past with
  | none =>
    rw [hlast] at reflects
    exact Renderer.Core.videoDrawings_of_isEmpty (congrArg VideoFormat.isEmpty reflects) quad
  | some frame =>
    rw [hlast] at reflects
    obtain ⟨sound, current⟩ := reflects
    dsimp only
    split
    · next empty =>
      have unseen := (current.isEmpty_eq rendered.tidy sound).trans empty
      exact Renderer.Core.videoDrawings_of_isEmpty unseen quad
    · next picture =>
      have picture := Bool.eq_false_iff.2 picture
      -- a program that is missing was refused, since there is a text for it
      obtain ⟨hnone, video⟩ | drawn := current.videoDrawings rendered.tidy sound picture key quad
      · refine .inr ⟨video, hnone, Decidable.byContradiction fun never => ?_⟩
        have willing : ∀ x ∈ past, x.after.bench.device.refusesPrograms = false := fun x hx =>
          Bool.eq_false_iff.2 fun refuses => never ⟨x, hx, refuses⟩
        have compiled : r'.core.Compiled :=
          rendered.compiled (run.willing fresh willing) (run.compiled fresh proper willing)
        have typed : r'.core.format.pixelType ≠ .empty := fun empty => by
          rw [← current.isEmpty_eq rendered.tidy sound, rendered.tidy.formed.isEmpty_iff.2 empty]
            at picture
          cases picture
        exact r.shader.fragmentSource_ne_none typed (key.symm.trans (compiled hnone))
      · exact .inl drawn

/-- A pixel that was presented and prepared is drawn. -/
theorem render_draws_last_taken_pixel : ∃ past r r' answer,
    Run (.withConfig .initial .standard) past r ∧ (∀ x ∈ past, x.Proper) ∧
      r.perform .render = .ok (answer, r') ∧
      ∃ q overlay, r'.bench.device.drawings = r.bench.device.drawings ++ [q] ++ overlay ∧
        q.Depicts .blackPixel (r.shader.fragmentSource .rgba) r'.bench.device := by
  have fresh := Renderer.core_withConfig Recorder.initial .standard
  generalize hs : Renderer.withConfig Recorder.initial .standard = start at fresh ⊢
  obtain ⟨core, -, yes, r, past, hpast, run, proper, prepared, -⟩ :=
    Run.first fresh VideoFrame.made_blackPixel true
  have first : (start.present .blackPixel true).bench.device = .initial :=
    congrArg Renderer.Core.device core
  have willing : ∀ x ∈ past, x.after.bench.device.refusesPrograms = false := by
    have compiles : (start.present .blackPixel true).bench.device.refusesPrograms = false := by
      rw [first]
      rfl
    rw [hpast]
    simp only [List.forall_mem_cons]
    exact ⟨prepared.calm.still.refusesPrograms.trans compiles, compiles, List.forall_mem_nil _⟩
  have lastId : r.bench.device.lastId ≤ 0 + 10 := by
    have lastId := prepared.lastId
    rw [first] at lastId
    exact lastId
  obtain ⟨rest, -⟩ := run.did fresh proper
  have ends := Renderer.render_ends rest.tidy rest.closed
  -- twelve numbers are not all, so the pass is drawn
  obtain ⟨answer, r', e⟩ : ∃ answer r', r.perform .render = .ok (answer, r') := by
    show ∃ answer r', Except.bind _ _ = _
    cases h : Renderer.render.outcome r with
    | error f =>
      have full := Nat.le_trans (ends.of_fault h) (Nat.add_le_add_right lastId 2)
      exact absurd full (by decide)
    | ok x =>
      obtain ⟨a | x, t⟩ := x
      · exact ⟨_, _, rfl⟩
      · exact ⟨_, _, rfl⟩
  refine ⟨past, r, r', answer, run, proper, e, ?_⟩
  subst hs
  obtain ⟨video, overlay, drawings, -, -, shown⟩ := render_draws_last_taken run proper e
  have last : lastTaken past = some .blackPixel := by
    rw [hpast]
    rfl
  rw [last] at shown
  obtain ⟨q, rfl, -, depicts⟩ | ⟨-, -, x, hx, refuses⟩ := shown
  · exact ⟨q, overlay, drawings, depicts⟩
  · cases refuses.symm.trans (willing x hx)

end Projector
