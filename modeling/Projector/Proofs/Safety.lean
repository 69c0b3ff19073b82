import Mathlib.Algebra.Group.Nat.Defs
import Mathlib.Data.List.Induction
import Projector.Proofs.PassCalls
import Projector.Proofs.Subtitles

/-!
# Nothing fails, and no pass is left open

A device refuses many things: a texture without texels, a write that is too
short, an object that it does not know, a drawing outside a pass. None of this
is ever asked of it. A preparation is answered, and so is a pass, unless the
program of the overlay is refused. Either breaks only where it is to make more
objects than there are numbers, and how many it makes was counted before
(`prepareNumbers`, `passNumbers`).

What is recorded of passes is read off the records. Lawful records that leave
no pass open are a sequence of passes, each begun, then drawn in, then ended,
with nothing drawn in between (`Passes`).
-/

namespace Projector

open Step History

/-! ## Passes -/

/-- Whether a call begins or ends a pass. -/
def DeviceRecord.isBoundary : DeviceRecord → Bool
  | beginPass .. | endPass => true
  | _ => false

/-- **Calls that make whole passes.** A pass is begun and ended, and in it no
pass is begun or ended. Beside the passes nothing is drawn. -/
inductive Passes : List DeviceRecord → Prop
  /-- Nothing was called. -/
  | nil : Passes []
  /-- A call beside the passes. -/
  | beside {calls call} (earlier : Passes calls) (boundary : call.isBoundary = false)
      (draw : call.isDraw = false) : Passes (calls ++ [call])
  /-- One more pass. -/
  | pass {calls viewport clear inside} (earlier : Passes calls)
      (within : ∀ call ∈ inside, call.isBoundary = false) :
      Passes (calls ++ .beginPass viewport clear :: (inside ++ [.endPass]))

/-- **Calls that make whole passes, and then begin one.** -/
def PassOpen (calls : List DeviceRecord) : Prop :=
  ∃ earlier viewport clear inside, calls = earlier ++ .beginPass viewport clear :: inside ∧
    Passes earlier ∧ ∀ call ∈ inside, call.isBoundary = false

/-- A call inside a pass. -/
theorem PassOpen.concat {calls : List DeviceRecord} (h : PassOpen calls) {call : DeviceRecord}
    (boundary : call.isBoundary = false) : PassOpen (calls ++ [call]) := by
  obtain ⟨earlier, viewport, clear, inside, rfl, passes, within⟩ := h
  refine ⟨earlier, viewport, clear, inside ++ [call], ?_, passes, ?_⟩
  · rw [List.append_assoc, List.cons_append]
  · intro other hother
    obtain hother | hother := List.mem_append.1 hother
    · exact within other hother
    · cases List.mem_singleton.1 hother
      exact boundary

/-- A pass that is ended is a whole one. -/
theorem PassOpen.ended {calls : List DeviceRecord} (h : PassOpen calls) :
    Passes (calls ++ [.endPass]) := by
  obtain ⟨earlier, viewport, clear, inside, rfl, passes, within⟩ := h
  rw [List.append_assoc, List.cons_append]
  exact .pass passes within

namespace Ledger

/-- The calls before a lawful one are lawful. -/
theorem Lawful.of_concat {calls : List DeviceRecord} {call : DeviceRecord}
    (h : Lawful (calls ++ [call])) : Lawful calls ∧ (Ledger.of calls).Admits call := by
  refine ⟨?_, h calls call [] rfl⟩
  rintro before other later rfl
  exact h before other (later ++ [call]) (by simp)

/-- **Lawful calls make whole passes**, but for the one that is open. -/
theorem Lawful.passes {calls : List DeviceRecord} (h : Lawful calls) :
    ((Ledger.of calls).inPass = false → Passes calls) ∧
      ((Ledger.of calls).inPass = true → PassOpen calls) := by
  induction calls using List.reverseRecOn with
  | nil => exact ⟨fun _ => .nil, fun opened => nomatch opened⟩
  | append_singleton calls call ih =>
    obtain ⟨lawful, admits⟩ := h.of_concat
    obtain ⟨closed, opened⟩ := ih lawful
    rw [Ledger.of_concat]
    -- what the call does depends on whether it begins, draws or ends
    cases call with
    | beginPass viewport clear =>
      exact ⟨fun still => (nomatch still), fun _ =>
        ⟨calls, viewport, clear, [], rfl, closed admits, List.forall_mem_nil _⟩⟩
    | endPass => exact ⟨fun _ => (opened admits).ended, fun still => nomatch still⟩
    | drawQuad =>
      refine ⟨fun still => ?_, fun within => (opened within).concat rfl⟩
      cases admits.1.symm.trans still
    | _ =>
      exact ⟨fun outside => .beside (closed outside) rfl rfl, fun within =>
        (opened within).concat rfl⟩

end Ledger

/-- **A renderer at rest has recorded whole passes.** -/
theorem Renderer.Core.AtRest.passes {c : Renderer.Core Recorder} (h : c.AtRest) :
    Passes c.device.calls.toList := by
  have booked := h.tidy.stocked.orderly.booked
  exact booked.lawful.passes.1 ((congrArg Ledger.inPass booked.balance).trans h.closed)

/-! ## Narrow pictures -/

/-- **A move that presents no picture whose rows have too many bytes.** -/
def Transition.Narrow {δ : Type} (x : Transition δ) : Prop :=
  match x.move with
  | .ask (.present frame _) => frame.format.width < 2 ^ 30
  | _ => True

namespace History

variable {δ : Type} {past : List (Transition δ)}

theorem narrow_latest (narrow : ∀ x ∈ past, x.Narrow) : (latest past).format.width < 2 ^ 30 := by
  induction past with
  | nil =>
    show VideoFrame.empty.format.width < 2 ^ 30
    decide
  | cons x past ih =>
    have first := narrow x List.mem_cons_self
    unfold Transition.Narrow at first
    rw [latest]
    split
    · next hx =>
      rw [hx] at first
      exact first
    · exact ih fun y hy => narrow y (List.mem_cons_of_mem _ hy)

/-- **Canvases are as wide as the frames that they are drawn for.** -/
theorem narrow_canvases (narrow : ∀ x ∈ past, x.Narrow) :
    ∀ canvas ∈ canvases past, canvas.width < 2 ^ 30 := by
  induction past with
  | nil => exact List.forall_mem_nil _
  | cons x past ih =>
    have narrow' : ∀ y ∈ past, y.Narrow := fun y hy => narrow y (List.mem_cons_of_mem _ hy)
    intro canvas hcanvas
    rw [canvases] at hcanvas
    split at hcanvas
    · next bitmaps _ =>
      obtain drawn | earlier := List.mem_append.1 hcanvas
      · unfold canvas? at drawn
        split at drawn
        · next e =>
          cases List.mem_singleton.1 drawn
          rw [(OsdImage.size_compose e).1]
          exact narrow_latest narrow'
        · cases drawn
      · exact ih narrow' canvas earlier
    · cases hcanvas
    · exact ih narrow' canvas hcanvas

theorem narrow_lastCanvas (narrow : ∀ x ∈ past, x.Narrow) {canvas : OsdImage}
    (h : lastCanvas past = some canvas) : canvas.width < 2 ^ 30 := by
  induction past with
  | nil => cases h
  | cons x past ih =>
    have narrow' : ∀ y ∈ past, y.Narrow := fun y hy => narrow y (List.mem_cons_of_mem _ hy)
    rw [lastCanvas] at h
    split at h
    · obtain taken | ⟨-, kept⟩ := Option.or_eq_some_iff.1 h
      · exact narrow_canvases narrow' canvas (List.mem_of_mem_head? taken)
      · exact ih narrow' kept
    · exact ih narrow' h

end History

/-- **No canvas is too wide** after a run in which no frame was. -/
theorem Run.not_overwide {start r : Renderer Recorder} {past : List (Transition Recorder)}
    (fresh : start.core = .initial .initial) (run : Run start past r)
    (proper : ∀ x ∈ past, x.Proper) (narrow : ∀ x ∈ past, x.Narrow) {image : OsdImage}
    (h : r.waitingCanvas.or r.overlay.image = some image) : ¬ image.Overwide := by
  intro wide
  have row := wide.row
  have width : image.width < 2 ^ 30 := by
    obtain waits | ⟨-, kept⟩ := Option.or_eq_some_iff.1 h
    · rw [run.waitingCanvas_eq fresh] at waits
      exact narrow_canvases narrow image (List.mem_of_mem_head? waits)
    · exact narrow_lastCanvas narrow (run.lastCanvas_eq fresh proper kept)
  have size : UInt32.size = 2 ^ 32 := rfl
  omega

namespace Renderer

/-- **A pass is answered** unless what is to be made is more than there are
numbers. It fails only where the program of the overlay is refused. -/
theorem Core.AtRest.perform_render {r : Renderer Recorder} (rest : r.core.AtRest)
    (room : r.bench.device.lastId + r.passNumbers < UInt32.size) :
    ∃ answer t, r.perform .render = .ok (answer, t) ∧ Rendered r t ∧ Passed r t ∧
      (answer = .done ∨
        r.bench.device.refusesPrograms = true ∧ answer = .failed (.shader "osd")) := by
  have ends := (pass_ends rest.tidy rest.closed).and (pass_records rest.tidy rest.closed)
  show ∃ answer t, Except.bind _ _ = _ ∧ _
  cases h : render.outcome r with
  | error f => exact absurd room (Nat.not_lt.2 (ends.of_fault h).2)
  | ok x =>
    obtain ⟨error | _, t⟩ := x
    · obtain ⟨⟨rendered, refuses, rfl⟩, passed⟩ := ends.of_error h
      exact ⟨_, t, rfl, rendered, passed, .inr ⟨refuses, rfl⟩⟩
    · obtain ⟨rendered, passed⟩ := ends.of_ok h
      exact ⟨_, t, rfl, rendered, passed, .inl rfl⟩

/-- **A preparation is answered** unless what is to be made is more than there
are numbers, or a canvas is too wide. -/
theorem Core.AtRest.perform_prepare {r : Renderer Recorder} (rest : r.core.AtRest)
    (sound : ∀ frame check, r.waiting = some (frame, check) → frame.Sound)
    (fits : ∀ image, r.waitingCanvas.or r.overlay.image = some image → ¬ image.Overwide)
    (room : r.bench.device.lastId + r.prepareNumbers < UInt32.size) :
    ∃ yes t, r.perform .prepare = .ok (.flag yes, t) ∧ Prepared r.waiting r t ∧
      Provided r.waiting r t := by
  have ends := (prepare_ends rest.tidy sound).and (prepare_supplies rest.tidy sound)
  obtain ⟨yes, t, h, ⟨prepared, -⟩, provided⟩ := (ends.mono (fun _ _ => id)
    (fun _ _ => And.left) fun _ broken => by
      obtain full | ⟨image, himage, wide⟩ := broken.2
      · exact absurd room (Nat.not_lt.2 full)
      · exact fits image himage wide).exists_ok
  refine ⟨yes, t, ?_, prepared, provided⟩
  show Except.bind _ _ = _
  rw [h]
  rfl

end Renderer

/-- **The render loop never fails, and leaves no pass open.** Whatever was
asked of a renderer, the device has recorded whole passes: they are begun and
ended in turn, nothing is drawn beside them, and none is open.

If no frame was too wide, a preparation is answered, and so is a pass. Either
makes as many objects as were counted, and is answered as long as there are
numbers for them. A pass fails only on a device that refuses programs, and then
it is a whole one, too. -/
theorem prepare_and_render_safe {config : RendererConfig} {past : List (Transition Recorder)}
    {r : Renderer Recorder} (run : Run (.withConfig .initial config) past r)
    (proper : ∀ x ∈ past, x.Proper) (narrow : ∀ x ∈ past, x.Narrow) :
    (r.bench.device.inPass = false ∧ Passes r.bench.device.calls.toList) ∧
      (r.bench.device.lastId + r.prepareNumbers < UInt32.size →
        ∃ yes t, r.perform .prepare = .ok (.flag yes, t) ∧
          t.bench.device.lastId = r.bench.device.lastId + r.prepareNumbers ∧
          t.bench.device.inPass = false ∧ Passes t.bench.device.calls.toList) ∧
      (r.bench.device.lastId + r.passNumbers < UInt32.size →
        ∃ answer t, r.perform .render = .ok (answer, t) ∧
          t.bench.device.lastId = r.bench.device.lastId + r.passNumbers ∧
          t.bench.device.inPass = false ∧ Passes t.bench.device.calls.toList ∧
          (answer = .done ∨
            r.bench.device.refusesPrograms = true ∧ answer = .failed (.shader "osd"))) := by
  have fresh := Renderer.core_withConfig Recorder.initial config
  obtain ⟨rest, -⟩ := run.did fresh proper
  -- what is answered leads to a state that is at rest, too
  have after {request : Request} {answer : Answer} {t : Renderer Recorder}
      (e : r.perform request = .ok (answer, t)) (proper' : Transition.Proper
        ⟨r, .ask request, answer, t⟩) : t.core.AtRest :=
    ((run.ask e).did fresh (List.forall_mem_cons.2 ⟨proper', proper⟩)).1
  refine ⟨⟨rest.closed, rest.passes⟩, fun room => ?_, fun room => ?_⟩
  · obtain ⟨yes, t, e, -, provided⟩ := rest.perform_prepare (run.waiting_sound fresh proper)
      (fun image h => run.not_overwide fresh proper narrow h) room
    have rest' := after e trivial
    exact ⟨yes, t, e, provided.lastId, rest'.closed, rest'.passes⟩
  · obtain ⟨answer, t, e, -, passed, answered⟩ := rest.perform_render room
    have rest' := after e trivial
    exact ⟨answer, t, e, passed.lastId, rest'.closed, rest'.passes, answered⟩

/-- A pixel that was presented and prepared is drawn, in whole passes. -/
theorem prepare_and_render_safe_pixel : ∃ past r t,
    Run (.withConfig .initial .standard) past r ∧ (∀ x ∈ past, x.Proper) ∧
      (∀ x ∈ past, x.Narrow) ∧
      past.map Transition.move = [.ask .prepare, .ask (.present .blackPixel true)] ∧
      r.perform .render = .ok (.done, t) ∧ Passes t.bench.device.calls.toList := by
  have fresh := Renderer.core_withConfig Recorder.initial .standard
  generalize hs : Renderer.withConfig Recorder.initial .standard = start at fresh ⊢
  obtain ⟨core, -, yes, r, past, hpast, run, proper, prepared, -⟩ :=
    Run.first fresh VideoFrame.made_blackPixel true
  have narrow : ∀ x ∈ past, x.Narrow := by
    rw [hpast]
    simp only [List.forall_mem_cons]
    exact ⟨trivial, show VideoFrame.blackPixel.format.width < 2 ^ 30 by decide,
      List.forall_mem_nil _⟩
  have first : (start.present .blackPixel true).bench.device = .initial :=
    congrArg Renderer.Core.device core
  have willing : r.bench.device.refusesPrograms = false := by
    rw [prepared.calm.still.refusesPrograms, first]
    rfl
  -- ten numbers were enough to prepare, and two more are to draw
  have room : r.bench.device.lastId + r.passNumbers < UInt32.size := by
    have ten := prepared.lastId
    rw [first] at ten
    exact Nat.lt_of_le_of_lt (Nat.add_le_add ten r.passNumbers_le) (by decide)
  subst hs
  obtain ⟨answer, t, e, -, -, passes, rfl | ⟨refuses, -⟩⟩ :=
    (prepare_and_render_safe run proper narrow).2.2 room
  · exact ⟨past, r, t, run, proper, narrow, congrArg (List.map Transition.move) hpast, e, passes⟩
  · cases willing.symm.trans refuses

end Projector
