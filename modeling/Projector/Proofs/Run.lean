import Projector.Proofs.Step
import Projector.Renderer.Request

/-!
# Runs of a renderer

A renderer is asked for one thing after the other, and between two requests
its device may be changed from outside. A run is the list of what happened,
the latest first: each entry has the state before, the move, the answer and
the state after. A refused request is an entry as any other one. A fault is
not, since it leaves no state.

Most requests are settings. They touch the geometry, the effects, the
colours, the log and the redraw request, and none of this decides what is
on the device. `Renderer.core` is the rest of the state, and a setting
leaves it as it is. What is proved of the core is thus proved by looking at
five requests: presenting, drawing subtitles, preparing, rendering and
releasing.
-/

namespace Projector

/-- The format that an event tells of. -/
def RenderEvent.format? : RenderEvent → Option VideoFormat
  | formatChanged format => some format
  | _ => none

/-- One more event is one more of what events tell of, or nothing more. -/
theorem RenderEvent.filterMap_push {α : Type} (f : RenderEvent → Option α)
    (events : Array RenderEvent) (e : RenderEvent) :
    (events.push e).toList.filterMap f = events.toList.filterMap f ++ (f e).toList := by
  rw [Array.toList_push, List.filterMap_append]
  cases h : f e with
  | none => simp [h]
  | some a => simp [h]

namespace Renderer

variable {δ : Type}

/-! ## The core -/

/-- **The formats that layout code was told of**, the first one first. -/
def announced (r : Renderer δ) : List VideoFormat := r.events.toList.filterMap RenderEvent.format?

/-- **What settings leave alone.** -/
structure Core (δ : Type) where
  /-- The device. -/
  device : δ
  /-- The mailbox, whatever redraw is asked for. -/
  mailbox : Mailbox
  /-- The formats that were told of. -/
  announced : List VideoFormat
  /-- The frame that was uploaded last. -/
  frame : VideoFrame
  /-- The format that is shown. -/
  format : VideoFormat
  /-- The video program. -/
  program : Option ProgramId
  /-- What it was last asked for. -/
  programKey : Option ProgramKey
  /-- The textures of the video. -/
  textures : UploadEngine
  /-- The overlay, hidden or not. -/
  overlay : OsdLayer

/-- The core of a renderer. -/
def core (r : Renderer δ) : Core δ where
  device := r.bench.device
  mailbox := { r.mailbox with redraw := false }
  announced := r.announced
  frame := r.frame
  format := r.format
  program := r.program
  programKey := r.programKey
  textures := r.textures
  overlay := { r.overlay with enabled := false }

theorem announced_emit (e : RenderEvent) (r : Renderer δ) :
    (r.emit e).announced = r.announced ++ e.format?.toList :=
  RenderEvent.filterMap_push RenderEvent.format? r.events e

/-! ## Settings leave the core -/

@[simp] theorem core_report (e : LogEvent) (r : Renderer δ) : (r.report e).core = r.core := rfl

@[simp] theorem core_requestRedraw (r : Renderer δ) : r.requestRedraw.core = r.core := by
  unfold requestRedraw
  dsimp only
  split <;> rfl

@[simp] theorem core_updateGeometry (r : Renderer δ) : r.updateGeometry.core = r.core := by
  unfold updateGeometry
  dsimp only
  split <;> rfl

/-- An event that tells of no format. -/
theorem core_emit {e : RenderEvent} (h : e.format? = none) (r : Renderer δ) :
    (r.emit e).core = r.core := by
  have ha := announced_emit e r
  rw [h, Option.toList_none, List.append_nil] at ha
  exact congrArg (fun told => { r.core with announced := told }) ha

theorem core_refresh (r : Renderer δ) (change : Bool × Resolver Float32 Float) :
    (r.refresh change).2.core = r.core := by
  unfold refresh
  dsimp only
  split
  · rw [core_requestRedraw, core_updateGeometry]
    rfl
  · rfl

theorem core_restyle (r : Renderer δ) (change : Bool × ShaderParams) :
    (r.restyle change).2.core = r.core := by
  unfold restyle
  dsimp only
  split
  · rw [core_requestRedraw]
    rfl
  · rfl

theorem core_resize (r : Renderer δ) (item : Rect Float32) : (r.resize item).2.core = r.core := by
  unfold resize
  split
  · rfl
  · rw [core_requestRedraw, core_updateGeometry]
    rfl

theorem core_setDisplayAspect (r : Renderer δ) (ratio : Float) :
    (r.setDisplayAspect ratio).core = r.core := core_updateGeometry _

theorem core_setOffset (r : Renderer δ) (offset : Offset) :
    (r.setOffset offset).2.core = r.core := by
  unfold setOffset
  dsimp only
  split
  · rw [core_requestRedraw, core_emit rfl]
    rfl
  · rfl

theorem core_setOsdEnabled (r : Renderer δ) (enabled : Bool) :
    (r.setOsdEnabled enabled).core = r.core := by
  unfold setOsdEnabled
  split
  · rfl
  · rw [core_requestRedraw]
    rfl

theorem core_applyConfig (r : Renderer δ) (c : RendererConfig) :
    (r.applyConfig c).core = r.core := by
  have shown (r : Renderer δ) : Renderer.core { r with
      overlay := r.overlay.setEnabled c.osd
      clearColor := c.clearColor } = r.core := rfl
  unfold applyConfig
  dsimp only
  rw [shown]
  unfold setColorSpace setColor setEffects setAlignment setCrop setAspect
  rw [core_restyle, core_restyle, core_restyle, core_setOffset, core_refresh, core_refresh,
    core_refresh]

/-- The core of a renderer that was asked for nothing yet. -/
def Core.initial (device : δ) : Core δ where
  device := device
  mailbox := .initial
  announced := []
  frame := .empty
  format := .empty
  program := none
  programKey := none
  textures := .initial
  overlay := .initial false

/-- **A renderer is made with nothing in its core**, whatever its
configuration. -/
theorem core_withConfig (device : δ) (c : RendererConfig) :
    (withConfig device c).core = .initial device := core_applyConfig _ _

/-- Presenting a frame is storing it. -/
theorem core_present (r : Renderer δ) (frame : VideoFrame) (check : Bool) :
    (r.present frame check).core =
      { r.core with mailbox := r.core.mailbox.storeFrame frame check } := by
  unfold present
  rw [core_requestRedraw]
  rfl

/-- Drawing subtitles is storing a canvas of the size of the latest frame. -/
theorem core_drawOsd {r r' : Renderer δ} {bitmaps : List SubtitleBitmap}
    (e : r.drawOsd bitmaps = .ok r') : ∃ canvas skipped,
      OsdImage.compose r.mailbox.frame.format.width r.mailbox.frame.format.height bitmaps =
        .ok (canvas, skipped) ∧
      r'.core = { r.core with mailbox := r.core.mailbox.storeCanvas canvas } := by
  unfold drawOsd at e
  obtain ⟨⟨canvas, skipped⟩, hcompose, e⟩ := Checked.bind_eq_ok.1 e
  cases e
  refine ⟨canvas, skipped, hcompose, ?_⟩
  rw [core_requestRedraw]
  show Core.mk (r.bench.reports skipped).device _ _ _ _ _ _ _ _ = _
  rw [Bench.device_reports]
  rfl

/-! ## Steps of a part -/

section Parts

open Step

variable {α : Type} {r : Renderer δ} {good : α → Renderer δ → Prop}
  {refused : Error → Renderer δ → Prop} {broken : Fault → Prop}

@[simp] theorem ends_onTextures (m : Step (UploadEngine × Bench δ) α) :
    (onTextures m).Ends r good refused broken ↔
      m.Ends (r.textures, r.bench) (fun a s => good a { r with textures := s.1, bench := s.2 })
        (fun e s => refused e { r with textures := s.1, bench := s.2 }) broken :=
  ends_zoom _ _ m

@[simp] theorem ends_onOverlay (m : Step (OsdLayer × Bench δ) α) :
    (onOverlay m).Ends r good refused broken ↔
      m.Ends (r.overlay, r.bench) (fun a s => good a { r with overlay := s.1, bench := s.2 })
        (fun e s => refused e { r with overlay := s.1, bench := s.2 }) broken :=
  ends_zoom _ _ m

@[simp] theorem ends_onDevice (m : Step δ α) :
    (onDevice m).Ends r good refused broken ↔
      m.Ends r.bench.device
        (fun a d => good a { r with bench := { r.bench with device := d } })
        (fun e d => refused e { r with bench := { r.bench with device := d } }) broken :=
  ends_zoom _ _ m

end Parts

/-! ## Parts that a pass leaves alone -/

section Untouched

open Step

variable {α τ : Type} {p : Renderer δ → τ}

theorem keeps_onDevice (h : ∀ r bench, p { r with bench } = p r) (m : Step δ α) :
    (onDevice m).Keeps p :=
  keeps_zoom m fun _ r => h r _

theorem keeps_onOverlay (h : ∀ r overlay bench, p { r with overlay, bench } = p r)
    (m : Step (OsdLayer × Bench δ) α) : (onOverlay m).Keeps p :=
  keeps_zoom m fun s r => h r s.1 s.2

variable [Device δ]

/-- **Bringing the program up to date keeps what does not depend on it.** -/
theorem keeps_ensureProgram
    (h : ∀ r bench program programKey, p { r with bench, program, programKey } = p r) :
    (ensureProgram : Step (Renderer δ) Unit).Keeps p := by
  have dropped (r : Renderer δ) (key : Option ProgramKey) :
      p { r.dropProgram with programKey := key } = p r := by
    unfold dropProgram
    split
    · exact h r _ _ _
    · exact h r _ _ _
  unfold ensureProgram
  refine keeps_get.bind fun r => ?_
  dsimp only
  split
  · exact keeps_pure _
  refine Keeps.bind (keeps_modify fun r => dropped r _) fun _ => ?_
  split
  · exact keeps_pure _
  refine (keeps_onDevice (fun r bench => h r bench _ _) _).attempt.bind fun compiled => ?_
  split
  · exact keeps_modify fun r => h r _ _ _
  · exact keeps_modify fun r => h r _ _ _

/-- **Drawing the picture keeps what does not depend on the device.** -/
theorem keeps_drawVideo (h : ∀ r bench, p { r with bench } = p r) (update : VertexUpdate Float32) :
    (drawVideo update : Step (Renderer δ) Unit).Keeps p := by
  unfold drawVideo
  refine keeps_get.bind fun r => ?_
  split
  · split
    · exact keeps_pure _
    · exact (keeps_onDevice h _).bind fun _ => keeps_onDevice h _
  · exact keeps_pure _

/-- **A pass keeps what it does not touch**: it touches the device, the
programs, the geometry and the events. -/
theorem keeps_render (h : ∀ r bench program programKey geometry overlay events,
      p { r with bench, program, programKey, geometry, overlay, events } = p r) :
    (render : Step (Renderer δ) Unit).Keeps p := by
  have device (r : Renderer δ) (bench) : p { r with bench } = p r := h r bench _ _ _ _ _
  have contents : (drawContents : Step (Renderer δ) Unit).Keeps p := by
    intro r
    -- the geometry is set from the state itself, and the rest keeps the part
    have rest (update : VertexUpdate Float32) (geometry : Resolver Float32 Float) :
        (do
          if update.screenChanged then modify (emit (.screenRectChanged update.screen))
          drawVideo update
          let _ ← onOverlay (OsdLayer.draw geometry.cached) : Step (Renderer δ) Unit).Keeps p := by
      have drawn := (keeps_drawVideo device update).bind fun _ =>
        (keeps_onOverlay (fun r overlay bench => h r bench _ _ _ overlay _)
          (OsdLayer.draw geometry.cached)).bind fun _ => keeps_pure ()
      split
      · exact Keeps.bind (keeps_modify fun r => h r _ _ _ _ _ _) fun _ => drawn
      · exact drawn
    unfold drawContents
    rw [ends_bind, ends_get]
    dsimp only
    rw [ends_bind, ends_set, ← h r r.bench r.program r.programKey
      (r.geometry.updateVertex r.shader.effects).2 r.overlay r.events]
    exact rest _ _ _
  unfold render
  refine (keeps_ensureProgram fun r bench program programKey =>
    h r bench program programKey _ _ _).bind fun _ => keeps_get.bind fun r => ?_
  refine (keeps_onDevice device _).bind fun _ => contents.attempt.bind fun _ => ?_
  exact (keeps_onDevice device _).attempt.bind fun _ => keeps_ofExcept _

end Untouched

/-! ## The course of a preparation -/

section Course

open Step

variable [Device δ]

/-- **Bring the program up to date and upload a frame**, which is then the one
that is drawn. A frame is taken so, once its format is shown. -/
def fill (frame : VideoFrame) : Step (Renderer δ) Bool := do
  ensureProgram
  let uploaded ← uploadFrame frame
  modify fun r => { r with frame }
  return uploaded

variable {r : Renderer δ} {good : Bool → Renderer δ → Prop} {refused : Error → Renderer δ → Prop}
  {broken : Fault → Prop}

@[simp] theorem ends_fill (frame : VideoFrame) :
    (fill frame).Ends r good refused broken ↔
      ensureProgram.Ends r (fun _ s => (uploadFrame frame).Ends s
        (fun uploaded t => good uploaded { t with frame }) refused broken) refused broken := by
  unfold fill
  simp only [ends_bind, ends_modify, ends_pure]

/-- **A frame is taken in one of two ways**: its format is shown first, or the
one that is there is kept. -/
theorem takeFrame_ends_of {frame : VideoFrame} {check : Bool}
    (other : (r.compares frame check && !r.format.same frame.format) = true → (do
      resetFormat frame.format true
      fill frame : Step (Renderer δ) Bool).Ends r good refused broken)
    (same : ¬ (r.compares frame check && !r.format.same frame.format) = true →
      (fill frame).Ends r good refused broken) :
    (takeFrame frame check).Ends r good refused broken := by
  unfold takeFrame
  rw [ends_bind, ends_get]
  dsimp only
  split
  · next h => exact other h
  · next h => exact same h

/-- **A preparation works on what it takes from the mailbox**, if something is
there. -/
theorem prepare_ends_of
    (idle : ∀ mailbox, r.mailbox.take = (none, mailbox) → good false { r with mailbox })
    (busy : ∀ pending mailbox, r.mailbox.take = (some pending, mailbox) →
      (consume pending).Ends { r with mailbox } good refused broken) :
    prepare.Ends r good refused broken := by
  unfold prepare
  rw [ends_bind, ends_get]
  cases taken : r.mailbox.take with
  | mk pending mailbox =>
    dsimp only
    rw [ends_bind, ends_modify]
    cases pending with
    | none => exact idle mailbox taken
    | some pending => exact busy pending mailbox taken

end Course

end Renderer

/-! ## Requests that are settings -/

/-- Whether a request leaves the core of a renderer. -/
def Request.isSetting : Request → Bool
  | present .. => false
  | drawOsd _ => false
  | prepare => false
  | render => false
  | release => false
  | _ => true

namespace Renderer

variable {δ : Type} [Device δ]

/-- **A setting leaves the core.** -/
theorem core_perform_setting {r r' : Renderer δ} {request : Request} {answer : Answer}
    (setting : request.isSetting = true) (e : r.perform request = .ok (answer, r')) :
    r'.core = r.core := by
  cases request with
  | present | drawOsd | prepare | render | release => cases setting
  | resize item =>
    cases e
    exact core_resize r item
  | setAlignment | setAspect | setCrop =>
    cases e
    exact core_refresh r _
  | setDisplayAspect ratio =>
    cases e
    exact core_setDisplayAspect r ratio
  | setOffset offset =>
    cases e
    exact core_setOffset r offset
  | setEffects | setColor | setColorSpace =>
    cases e
    exact core_restyle r _
  | setOsdEnabled enabled =>
    cases e
    exact core_setOsdEnabled r enabled
  | setClearColor | receiveRedraw =>
    cases e
    rfl
  | applyConfig config =>
    cases e
    exact core_applyConfig r config

/-- **A setting is not refused.** -/
theorem answer_perform_setting {r r' : Renderer δ} {request : Request} {answer : Answer}
    (setting : request.isSetting = true) (e : r.perform request = .ok (answer, r')) (x : Error) :
    answer ≠ .failed x := by
  cases request with
  | present | drawOsd | prepare | render | release => cases setting
  | _ =>
    cases e
    exact nofun

omit [Device δ] in
/-- An answered step had an outcome: an answer, or an error. -/
theorem answered_eq_ok {α : Type} {m : Step (Renderer δ) α} {f : α → Answer} {r r' : Renderer δ}
    {answer : Answer} (e : answered m f r = .ok (answer, r')) :
    (∃ a, m.outcome r = .ok (.ok a, r') ∧ answer = f a) ∨
      ∃ x, m.outcome r = .ok (.error x, r') ∧ answer = .failed x := by
  obtain ⟨⟨a | x, t⟩, hm, e⟩ := Checked.bind_eq_ok.1 e
  · cases e
    exact .inr ⟨_, hm, rfl⟩
  · cases e
    exact .inl ⟨_, hm, rfl⟩

end Renderer

/-! ## Runs -/

/-- **One move**: a request, or a change of the device from outside. -/
inductive Move (δ : Type) where
  /-- Something is asked of the renderer. -/
  | ask (request : Request)
  /-- The device is changed. -/
  | adjust (change : δ → δ)

/-- **A move that was made.** -/
structure Transition (δ : Type) where
  /-- The state before. -/
  before : Renderer δ
  /-- What was done. -/
  move : Move δ
  /-- What was answered. -/
  answer : Answer
  /-- The state after. -/
  after : Renderer δ

/-- **A run from a state**: what happened, the latest first, and the state
that it led to. -/
inductive Run {δ : Type} [Device δ] (start : Renderer δ) :
    List (Transition δ) → Renderer δ → Prop
  /-- Nothing happened. -/
  | start : Run start [] start
  /-- A request was carried out. -/
  | ask {past r request answer r'} (run : Run start past r)
      (e : r.perform request = .ok (answer, r')) :
      Run start (⟨r, .ask request, answer, r'⟩ :: past) r'
  /-- The device was changed. -/
  | adjust {past r} (run : Run start past r) (change : δ → δ) :
      Run start (⟨r, .adjust change, .done, { r with bench := r.bench.onDevice change }⟩ :: past)
        { r with bench := r.bench.onDevice change }

end Projector
