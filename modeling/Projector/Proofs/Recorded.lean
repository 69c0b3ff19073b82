import Projector.Proofs.Mailbox
import Projector.Proofs.Pass

/-!
# Runs on a recording device

On a recording device a move does one of four things. Most moves store
something at most, and touch neither the device nor what is shown. A
preparation, a pass and a release do what their specifications say. A run
is proved tidy from this, and whatever else is to be said about all runs is
said about four kinds of moves.

A move has to keep to the rules for that: the frames that are presented were
made by somebody, and from outside the device is at most told to refuse
programs, or to compile them again.
-/

namespace Projector

open History

/-- The frame that waits is the last one presented. -/
theorem History.pending_frame {δ : Type} (past : List (Transition δ)) :
    (pending past).bind Pending.frame =
      (frames past).head?.map fun f => (f.1, (frames past).any Prod.snd) := by
  unfold pending
  cases frames past with
  | nil => cases canvases past <;> rfl
  | cons f fs => rfl

/-- The canvas that waits is the last one drawn. -/
theorem History.pending_canvas {δ : Type} (past : List (Transition δ)) :
    (pending past).bind Pending.canvas = (canvases past).head? := by
  unfold pending
  cases canvases past with
  | nil => cases frames past <;> rfl
  | cons canvas cs => cases frames past <;> rfl

/-- Whether a move leaves alone what is shown. -/
def Move.isIdle {δ : Type} : Move δ → Bool
  | ask .prepare => false
  | ask .render => false
  | ask .release => false
  | _ => true

theorem Move.isIdle_of_isSetting {δ : Type} {request : Request} (h : request.isSetting = true) :
    (ask request : Move δ).isIdle = true := by
  cases request with
  | present | drawOsd | prepare | render | release => cases h
  | _ => rfl

/-- **A request that keeps to the rules.** -/
def Request.Proper : Request → Prop
  | present frame _ => frame.Made
  | _ => True

namespace Transition

/-- **A move that keeps to the rules.** -/
def Proper (x : Transition Recorder) : Prop :=
  match x.move with
  | .ask (.present frame _) => frame.Made
  | .adjust change => ∃ refuses, change = fun d => d.refusePrograms refuses
  | _ => True

/-- **What a move did.** -/
inductive Did (x : Transition Recorder) : Prop
  /-- Something was stored at most, or the device was told something. -/
  | stored (idle : x.move.isIdle = true) (mailbox : Mailbox) (refuses : Bool)
      (core : x.after.core = { x.before.core with
        device := x.before.core.device.refusePrograms refuses
        mailbox := mailbox })
      (allowed : ∀ error, x.answer ≠ .failed error)
  /-- What waits was taken, and nothing was refused. -/
  | prepared (hx : x.move = .ask .prepare) (answered : ∃ yes, x.answer = .flag yes)
      (sound : ∀ frame check, x.before.waiting = some (frame, check) → frame.Sound)
      (prepared : Renderer.Prepared x.before.waiting x.before x.after)
      (overlaid : Renderer.Overlaid x.before.waitingCanvas x.before x.after)
  /-- A pass was drawn, and at most the program of the overlay was refused. -/
  | rendered (hx : x.move = .ask .render) (rendered : Renderer.Rendered x.before x.after)
      (refused : ∀ error, x.answer = .failed error →
        x.before.bench.device.refusesPrograms = true ∧ error = .shader "osd")
  /-- Everything was dropped. -/
  | released (hx : x.move = .ask .release) (released : Renderer.Released x.before x.after)
      (answered : x.answer = .done)

end Transition

theorem VideoFrame.made_blackPixel : blackPixel.Made := by
  have blank : VideoFrame.blank .rgba 1 1 = .ok .blackPixel := rfl
  exact .blank (by decide) blank

/-- **A frame that waits was presented.** -/
theorem exists_present_of_mem_frames {δ : Type} {past : List (Transition δ)}
    {f : VideoFrame × Bool} (hf : f ∈ frames past) :
    ∃ x ∈ past, x.move = .ask (.present f.1 f.2) := by
  induction past with
  | nil => cases hf
  | cons x past ih =>
    have earlier (hf : f ∈ frames past) : ∃ y ∈ x :: past, y.move = .ask (.present f.1 f.2) := by
      obtain ⟨y, hy, moved⟩ := ih hf
      exact ⟨y, List.mem_cons_of_mem _ hy, moved⟩
    rw [frames] at hf
    split at hf
    · next frame check hx =>
      obtain rfl | hf := List.mem_cons.1 hf
      · exact ⟨x, List.mem_cons_self, hx⟩
      · exact earlier hf
    · cases hf
    · exact earlier hf

/-- Only frames that were made wait. -/
theorem sound_of_mem_frames {past : List (Transition Recorder)} (proper : ∀ x ∈ past, x.Proper)
    {f : VideoFrame × Bool} (hf : f ∈ frames past) : f.1.Sound := by
  obtain ⟨x, hx, moved⟩ := exists_present_of_mem_frames hf
  have made := proper x hx
  unfold Transition.Proper at made
  rw [moved] at made
  exact VideoFrame.Made.sound made

namespace Renderer

/-- **A core between two moves**: it is tidy, and no pass is open. -/
structure Core.AtRest (c : Core Recorder) : Prop where
  /-- It is tidy. -/
  tidy : c.Tidy
  /-- No pass is open. -/
  closed : c.device.inPass = false

theorem Core.atRest_initial : (Core.initial Recorder.initial).AtRest where
  tidy := {
    stocked := UploadEngine.stocked_initial
    suits := UploadEngine.suits_empty UploadEngine.slot?_initial
    formed := VideoFormat.formed_empty
    osd := Recorder.holds_initial "osd"
    programs := Recorder.employs_initial
    keyed := fun p h => by cases h
    labelled := Recorder.labelled_initial IsPartLabel
    fitted := rfl
    displays := OsdLayer.displays_initial false .initial }
  closed := rfl

/-- A pass that was answered was drawn, also if the overlay was refused. -/
theorem Core.AtRest.rendered {r r' : Renderer Recorder} {answer : Answer} (rest : r.core.AtRest)
    (e : r.perform .render = .ok (answer, r')) : Rendered r r' := by
  have ends := render_ends rest.tidy rest.closed
  obtain ⟨a, hm, -⟩ | ⟨error, hm, -⟩ := answered_eq_ok e
  · exact ends.of_ok hm
  · exact ends.of_error hm

end Renderer

/-- **Every move leaves a core at rest.** -/
theorem Transition.Did.atRest {x : Transition Recorder} (did : x.Did)
    (h : x.before.core.AtRest) : x.after.core.AtRest := by
  cases did with
  | stored idle mailbox refuses core =>
    have told := h.tidy.onDevice (h.tidy.stocked.orderly.refusePrograms refuses) ⟨rfl, rfl⟩ rfl
    rw [core]
    exact ⟨told.congr rfl rfl rfl rfl rfl rfl, h.closed⟩
  | prepared _ _ _ prepared => exact ⟨prepared.tidy, prepared.calm.still.inPass.trans h.closed⟩
  | rendered _ rendered => exact ⟨rendered.tidy, rendered.closed⟩
  | released _ released => exact ⟨released.tidy, released.calm.still.inPass.trans h.closed⟩

namespace Run

variable {start r : Renderer Recorder} {past : List (Transition Recorder)}

/-- The frame that waits is the last one presented, with a check if any frame
asked for one. -/
theorem waiting_eq (fresh : start.core = .initial .initial) (run : Run start past r) :
    r.waiting = (frames past).head?.map fun f => (f.1, (frames past).any Prod.snd) := by
  unfold Renderer.waiting
  rw [(run.accounts fresh).1.take_eq, pending_frame]

/-- The canvas that waits is the last one drawn. -/
theorem waitingCanvas_eq (fresh : start.core = .initial .initial) (run : Run start past r) :
    r.waitingCanvas = (canvases past).head? := by
  unfold Renderer.waitingCanvas
  rw [(run.accounts fresh).1.take_eq, pending_canvas]

/-- The frame that waits was made by somebody. -/
theorem waiting_sound (fresh : start.core = .initial .initial) (run : Run start past r)
    (proper : ∀ x ∈ past, x.Proper) (frame : VideoFrame) (check : Bool)
    (waits : r.waiting = some (frame, check)) : frame.Sound := by
  rw [run.waiting_eq fresh] at waits
  obtain ⟨f, hf, hfc⟩ := Option.map_eq_some_iff.1 waits
  cases hfc
  exact sound_of_mem_frames proper (List.mem_of_mem_head? hf)

/-- **What a request did**, in a core at rest. -/
theorem did_ask {r' : Renderer Recorder} {request : Request} {answer : Answer}
    (rest : r.core.AtRest)
    (sound : ∀ frame check, r.waiting = some (frame, check) → frame.Sound)
    (e : r.perform request = .ok (answer, r')) :
    Transition.Did ⟨r, .ask request, answer, r'⟩ := by
  by_cases setting : request.isSetting = true
  · have core := Renderer.core_perform_setting setting e
    exact .stored (Move.isIdle_of_isSetting setting) _ r.bench.device.refusesPrograms core
      (Renderer.answer_perform_setting setting e)
  cases request with
  | present frame check =>
    cases e
    exact .stored rfl _ r.bench.device.refusesPrograms (Renderer.core_present r frame check) nofun
  | drawOsd bitmaps =>
    obtain ⟨r', hr, e⟩ := Checked.bind_eq_ok.1 e
    cases e
    obtain ⟨canvas, skipped, -, core⟩ := Renderer.core_drawOsd hr
    exact .stored rfl _ r.bench.device.refusesPrograms core nofun
  | prepare =>
    have ends := Renderer.prepare_ends rest.tidy sound
    obtain ⟨a, hm, rfl⟩ | ⟨error, hm, -⟩ := Renderer.answered_eq_ok e
    · obtain ⟨prepared, overlaid⟩ := ends.of_ok hm
      exact .prepared rfl ⟨a, rfl⟩ sound prepared overlaid
    · exact (ends.of_error hm).elim
  | render =>
    have ends := Renderer.pass_ends rest.tidy rest.closed
    obtain ⟨a, hm, rfl⟩ | ⟨error, hm, rfl⟩ := Renderer.answered_eq_ok e
    · exact .rendered rfl (ends.of_ok hm) nofun
    · obtain ⟨rendered, refuses, he⟩ := ends.of_error hm
      refine .rendered rfl rendered fun x hx => ?_
      cases hx
      exact ⟨refuses, he⟩
  | release =>
    cases e
    exact .released rfl (Renderer.release_releases rest.tidy) rfl
  | _ => exact (setting rfl).elim

/-- **A run is at rest after each move, and each did one of four things.** -/
theorem did (fresh : start.core = .initial .initial) (run : Run start past r)
    (proper : ∀ x ∈ past, x.Proper) : r.core.AtRest ∧ ∀ x ∈ past, x.Did := by
  induction run with
  | start => exact ⟨fresh ▸ Renderer.Core.atRest_initial, List.forall_mem_nil _⟩
  | @adjust past r run change ih =>
    obtain ⟨rest, earlier⟩ := ih fun y hy => proper y (List.mem_cons_of_mem _ hy)
    obtain ⟨refuses, rfl⟩ := proper _ List.mem_cons_self
    have did : Transition.Did ⟨r, .adjust fun d => d.refusePrograms refuses, .done,
        { r with bench := r.bench.onDevice fun d => d.refusePrograms refuses }⟩ :=
      .stored rfl _ refuses rfl nofun
    exact ⟨did.atRest rest, List.forall_mem_cons.2 ⟨did, earlier⟩⟩
  | @ask past r request answer r' run e ih =>
    have proper' : ∀ y ∈ past, y.Proper := fun y hy => proper y (List.mem_cons_of_mem _ hy)
    obtain ⟨rest, earlier⟩ := ih proper'
    have did := did_ask rest (run.waiting_sound fresh proper') e
    exact ⟨did.atRest rest, List.forall_mem_cons.2 ⟨did, earlier⟩⟩

/-- **Requests that are carried out are a run.** -/
theorem carried {requests : List Request} (run : Run start past r) (proper : ∀ x ∈ past, x.Proper)
    (made : ∀ request ∈ requests, request.Proper) {t : Renderer Recorder}
    (e : r.run requests = .ok t) : ∃ past', Run start past' t ∧ (∀ x ∈ past', x.Proper) ∧
      past'.map Transition.move = (requests.map Move.ask).reverse ++ past.map Transition.move := by
  induction requests generalizing r past with
  | nil =>
    cases e
    exact ⟨past, run, proper, rfl⟩
  | cons request requests ih =>
    rw [Renderer.run_cons] at e
    obtain ⟨⟨answer, r'⟩, first, e⟩ := Checked.bind_eq_ok.1 e
    obtain ⟨firstMade, made⟩ := List.forall_mem_cons.1 made
    have keeps : Transition.Proper ⟨r, .ask request, answer, r'⟩ := by
      cases request with
      | present frame check => exact firstMade
      | _ => trivial
    obtain ⟨past', run', proper', moves⟩ := ih (run.ask first)
      (List.forall_mem_cons.2 ⟨keeps, proper⟩) made e
    refine ⟨past', run', proper', ?_⟩
    rw [moves, List.map_cons, List.map_cons, List.reverse_cons, List.append_assoc]
    rfl

/-- **What is found after some requests is found after a run.** -/
theorem exists_carried (start : Renderer Recorder) {requests : List Request}
    (made : ∀ request ∈ requests, request.Proper) (p : Renderer Recorder → Bool)
    (h : (start.run requests).toOption.any p = true) :
    ∃ past r, Run start past r ∧ (∀ x ∈ past, x.Proper) ∧
      past.map Transition.move = (requests.map Move.ask).reverse ∧ p r = true := by
  obtain ⟨r, e, found⟩ := Checked.exists_ok_of_any h
  obtain ⟨past, run, proper, moves⟩ := Run.start.carried (List.forall_mem_nil _) made e
  exact ⟨past, r, run, proper, moves.trans (List.append_nil _), found⟩

/-- Every move of a run that carries out requests is one of them. -/
theorem exists_request {past : List (Transition Recorder)} {requests : List Request}
    (moves : past.map Transition.move = (requests.map Move.ask).reverse)
    {x : Transition Recorder} (hx : x ∈ past) : ∃ request ∈ requests, x.move = .ask request := by
  have among : x.move ∈ (requests.map Move.ask).reverse := moves ▸ List.mem_map_of_mem hx
  obtain ⟨request, hrequest, asked⟩ := List.mem_map.1 (List.mem_reverse.1 among)
  exact ⟨request, hrequest, asked.symm⟩

/-- **What holds at first, and is kept by every move, holds after the run.** -/
theorem keeps {p : Renderer.Core Recorder → List (Transition Recorder) → Prop}
    (run : Run start past r) (first : p start.core [])
    (next : ∀ x ∈ past, ∀ earlier, Run start earlier x.before → p x.before.core earlier →
      p x.after.core (x :: earlier)) : p r.core past := by
  induction run with
  | start => exact first
  | adjust run change ih =>
    exact next _ List.mem_cons_self _ run (ih fun x hx => next x (List.mem_cons_of_mem _ hx))
  | ask run e ih =>
    exact next _ List.mem_cons_self _ run (ih fun x hx => next x (List.mem_cons_of_mem _ hx))

/-- **A frame that is presented is taken by the next preparation**, if there
are no canvases, and numbers enough. -/
theorem take (fresh : start.core = .initial .initial) (run : Run start past r)
    (proper : ∀ x ∈ past, x.Proper) (undrawn : canvases past = []) (bare : r.overlay.image = none)
    (room : r.bench.device.lastId + 10 < UInt32.size) {frame : VideoFrame} (made : frame.Made)
    (check : Bool) :
    (r.present frame check).waiting = some (frame, check || (frames past).any Prod.snd) ∧
    ∃ yes t past', past' = ⟨r.present frame check, .ask .prepare, .flag yes, t⟩ ::
        ⟨r, .ask (.present frame check), .done, r.present frame check⟩ :: past ∧
      Run start past' t ∧ (∀ x ∈ past', x.Proper) ∧
      Renderer.Prepared (r.present frame check).waiting (r.present frame check) t ∧
      t.overlay.image = none := by
  have core := Renderer.core_present r frame check
  have e : r.perform (.present frame check) = .ok (.done, r.present frame check) := rfl
  have presented := run.ask e
  have proper' : ∀ x ∈ ⟨r, .ask (.present frame check), .done, r.present frame check⟩ :: past,
      x.Proper := List.forall_mem_cons.2 ⟨made, proper⟩
  -- a preparation breaks at numbers that are used up, or at a canvas
  have none : (r.present frame check).waitingCanvas.or (r.present frame check).overlay.image =
      none := by
    have waits : (r.present frame check).waitingCanvas = (canvases past).head? := by
      rw [presented.waitingCanvas_eq fresh]
      rfl
    have same : (r.present frame check).overlay.image = r.overlay.image :=
      congrArg (fun c => c.overlay.image) core
    rw [waits, undrawn, same, bare]
    rfl
  have ends := Renderer.prepare_ends (presented.did fresh proper').1.tidy
    (presented.waiting_sound fresh proper')
  obtain ⟨yes, t, hm, prepared, overlaid⟩ := (ends.mono (fun _ _ => id) (fun _ _ => id)
    fun _ hf => by
      obtain full | ⟨image, himage, -⟩ := hf
      · have same : (r.present frame check).bench.device = r.bench.device :=
          congrArg Renderer.Core.device core
        rw [same] at full
        exact absurd room (Nat.not_lt.2 full)
      · cases none.symm.trans himage).exists_ok
  have e' : (r.present frame check).perform .prepare = .ok (.flag yes, t) := by
    show Except.bind _ _ = _
    rw [hm]
    rfl
  refine ⟨presented.waiting_eq fresh, yes, t, _, rfl, presented.ask e',
    List.forall_mem_cons.2 ⟨trivial, proper'⟩, prepared, ?_⟩
  refine Option.eq_none_iff_forall_ne_some.2 fun image h => ?_
  cases none.symm.trans (overlaid.image image h)

/-- **The first frame is taken.** -/
theorem first (fresh : start.core = .initial .initial) {frame : VideoFrame} (made : frame.Made)
    (check : Bool) :
    (start.present frame check).core = { Renderer.Core.initial .initial with
        mailbox := Mailbox.initial.storeFrame frame check } ∧
      (start.present frame check).waiting = some (frame, check) ∧
      ∃ yes t past, past = [⟨start.present frame check, .ask .prepare, .flag yes, t⟩,
          ⟨start, .ask (.present frame check), .done, start.present frame check⟩] ∧
        Run start past t ∧ (∀ x ∈ past, x.Proper) ∧
        Renderer.Prepared (start.present frame check).waiting (start.present frame check) t ∧
        t.overlay.image = none := by
  have core := Renderer.core_present start frame check
  rw [fresh] at core
  have device : start.bench.device = .initial := congrArg Renderer.Core.device fresh
  have bare : start.overlay.image = none := congrArg (fun c => c.overlay.image) fresh
  have room : start.bench.device.lastId + 10 < UInt32.size := by
    rw [device]
    decide
  have taken := Run.start.take fresh (List.forall_mem_nil _) rfl bare room made check
  rw [frames, List.any_nil, Bool.or_false] at taken
  exact ⟨core, taken⟩

/-- **On a recording device no preparation fails**, so the frames counted as
drawn are those of the preparations that answered yes. -/
theorem drawnFrames_eq (fresh : start.core = .initial .initial) (run : Run start past r)
    (proper : ∀ x ∈ past, x.Proper) :
    r.textures.drawnFrames = past.countP Transition.uploaded := by
  have none : past.countP Transition.cutShort = 0 := by
    rw [List.countP_eq_zero]
    intro x hx
    rw [Bool.not_eq_true]
    refine Transition.cutShort_eq_false fun hm error ha => ?_
    cases (run.did fresh proper).2 x hx with
    | stored idle =>
      rw [hm] at idle
      cases idle
    | prepared _ answered =>
      obtain ⟨yes, answered⟩ := answered
      cases answered.symm.trans ha
    | rendered hx => cases hx.symm.trans hm
    | released hx => cases hx.symm.trans hm
  rw [(run.accounts fresh).2]
  unfold Transition.uploads
  rw [none]
  rfl

end Run

end Projector
