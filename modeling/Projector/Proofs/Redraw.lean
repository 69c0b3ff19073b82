import Projector.Proofs.Safety

/-!
# Changes that ask for a redraw

A setter that changes something asks for a redraw, and one that changes nothing
leaves the renderer as it was (`Announced`). A host that draws when it is asked
to then shows every change.

Three setters do not ask. The aspect that the stream reports, the colour around
the picture, and of a configuration this colour and whether the overlay is to be
seen, are taken without a word. Whether it can be seen that they were taken is a
matter of what the next pass shows: the colour, the quad of the picture if there
is a picture, and the quad of the overlay if there is something to be seen on it
(`View`). Two states that differ in nothing else record the same pass exactly if
they have the same view.
-/

namespace Projector

open Step

/-! ## What a pass shows -/

/-- **What a pass shows**, whatever its programs and its textures are. -/
@[ext]
structure View where
  /-- The colour around the picture. -/
  clear : ClearColor
  /-- Where the picture is drawn, if it is. -/
  video : Option (Quad Float32)
  /-- Where the overlay is drawn, if it is. -/
  overlay : Option (Quad Float32)

/-- **The calls for one quad**, if it is drawn: what is made for it, the
numbers, and the quad. -/
def quadCalls (made : List DeviceRecord) (program : ProgramId) (textures : Bindings) :
    Option (Quad Float32) → List DeviceRecord
  | none => []
  | some quad => made ++ [.bindUniforms program, .drawQuad program textures quad]

/-- Other quads are other calls. -/
theorem quadCalls_injective (made : List DeviceRecord) (program : ProgramId)
    (textures : Bindings) : Function.Injective (quadCalls made program textures) := by
  intro a b h
  cases a with
  | none =>
    cases b with
    | none => rfl
    | some _ => exact absurd h.symm (List.append_ne_nil_of_right_ne_nil _ (List.cons_ne_nil _ _))
  | some _ =>
    cases b with
    | none => exact absurd h (List.append_ne_nil_of_right_ne_nil _ (List.cons_ne_nil _ _))
    | some _ =>
      cases List.append_cancel_left h
      rfl

/-- What follows a quad does not hide whether it is another one. -/
theorem quadCalls_append_inj {made : List DeviceRecord} {program : ProgramId}
    {textures : Bindings} {a b : Option (Quad Float32)} (there : a.isSome = b.isSome)
    {s t : List DeviceRecord}
    (h : quadCalls made program textures a ++ s = quadCalls made program textures b ++ t) :
    a = b ∧ s = t := by
  have length : (quadCalls made program textures a).length =
      (quadCalls made program textures b).length := by
    cases a with
    | none =>
      cases b with
      | none => rfl
      | some _ => cases there
    | some _ =>
      cases b with
      | none => cases there
      | some _ =>
        unfold quadCalls
        rw [List.length_append, List.length_append]
        rfl
  obtain ⟨first, rest⟩ := List.append_inj h length
  exact ⟨quadCalls_injective _ _ _ first, rest⟩

namespace OsdLayer

/-- **Whether the canvas is drawn** once the overlay is to be seen. -/
def ready (o : OsdLayer) (refuses : Bool) : Bool :=
  o.texture.isSome && o.uploaded && o.image.any (fun image => !image.blank) &&
    (o.program.isSome || !refuses)

theorem isSome_nextProgram (o : OsdLayer) (refuses : Bool) (fresh : ProgramId) :
    (o.nextProgram refuses fresh).isSome = (o.program.isSome || !refuses) := by
  unfold nextProgram
  cases o.program with
  | some _ => rfl
  | none => cases refuses <;> rfl

/-- **The canvas is drawn if it is to be seen and is ready.** With which program
and textures does not depend on whether it is to be seen. -/
theorem drawCalls_eq (o : OsdLayer) (refuses : Bool) (fresh : ProgramId) :
    ∃ made program textures, ∀ enabled rect,
      (o.setEnabled enabled).drawCalls refuses fresh rect = quadCalls made program textures
        (if enabled && o.ready refuses then some (Quad.of rect .whole) else none) := by
  have texture (enabled) : (o.setEnabled enabled).texture = o.texture := rfl
  have next (enabled) : (o.setEnabled enabled).nextProgram refuses fresh =
      o.nextProgram refuses fresh := rfl
  have program (enabled) : (o.setEnabled enabled).program = o.program := rfl
  have visible (enabled) : (o.setEnabled enabled).isVisible =
      (enabled && (o.uploaded && o.image.any fun image => !image.blank)) := Bool.and_assoc _ _ _
  unfold ready
  rw [← o.isSome_nextProgram refuses fresh]
  unfold drawCalls
  simp only [texture, next, program, visible]
  cases o.texture with
  | none =>
    refine ⟨[], fresh, #v[none, none, none], fun enabled rect => ?_⟩
    rw [Option.isSome_none, Bool.false_and, Bool.false_and, Bool.false_and, Bool.and_false]
    rfl
  | some texture =>
    cases o.nextProgram refuses fresh with
    | none =>
      refine ⟨[], fresh, #v[none, none, none], fun enabled rect => ?_⟩
      rw [Option.isSome_none, Bool.and_false, Bool.and_false]
      rfl
    | some program =>
      refine ⟨if o.program.isNone then [.createProgram program] else [], program,
        #v[some texture, none, none], fun enabled rect => ?_⟩
      rw [Option.isSome_some, Option.isSome_some, Bool.true_and, Bool.and_true]
      cases enabled && (o.uploaded && o.image.any fun image => !image.blank) with
      | true => rfl
      | false => rfl

/-- The program is compiled for a canvas that is to be seen and ready. -/
theorem compiles_eq (o : OsdLayer) (refuses : Bool) :
    o.compiles refuses = (o.enabled && o.ready refuses && o.program.isNone && !refuses) := by
  unfold compiles isVisible ready
  cases o.program with
  | some _ => simp only [Option.isNone_some, Bool.and_false, Bool.false_and]
  | none =>
    cases refuses with
    | true => simp only [Bool.not_true, Bool.and_false]
    | false => simp only [Option.isNone_none, Bool.not_false, Bool.or_true, Bool.and_true,
        Bool.and_assoc, Bool.and_left_comm]

end OsdLayer

namespace Renderer

/-- **Whether the picture is drawn.** -/
def showsVideo (r : Renderer Recorder) : Bool :=
  (r.nextProgram r.format.pixelType).isSome && !(r.format.isEmpty || r.textures.drawnFrames == 0)

/-- **Whether the overlay is drawn.** -/
def showsOverlay (r : Renderer Recorder) : Bool :=
  r.overlay.enabled && r.overlay.ready r.bench.device.refusesPrograms

/-- **What the next pass shows.** -/
def view (r : Renderer Recorder) : View where
  clear := r.clearColor
  video := if r.showsVideo then some r.videoQuad else none
  overlay := if r.showsOverlay then some (Quad.of r.geometry.cached .whole) else none

theorem isSome_view_video (r : Renderer Recorder) : r.view.video.isSome = r.showsVideo := by
  unfold view
  cases r.showsVideo with
  | true => rfl
  | false => rfl

theorem isSome_view_overlay (r : Renderer Recorder) :
    r.view.overlay.isSome = r.showsOverlay := by
  unfold view
  cases r.showsOverlay with
  | true => rfl
  | false => rfl

/-- The picture is drawn with one program and its textures, wherever it is. -/
theorem videoCalls_eq (r : Renderer Recorder) : ∃ program textures, ∀ quad,
    r.videoCalls (r.nextProgram r.format.pixelType) quad =
      quadCalls [] program textures (if r.showsVideo then some quad else none) := by
  unfold videoCalls showsVideo
  cases r.nextProgram r.format.pixelType with
  | none => exact ⟨⟨0⟩, #v[none, none, none], fun _ => rfl⟩
  | some program =>
    refine ⟨program, r.textures.textureIds, fun quad => ?_⟩
    rw [Option.isSome_some, Bool.true_and]
    cases r.format.isEmpty || r.textures.drawnFrames == 0 with
    | true => rfl
    | false => rfl

/-! ## States that differ in little -/

/-- **The same renderer** but for the log, the geometry, the colour around the
picture, and whether the overlay is to be seen. -/
def Alike {δ : Type} (r t : Renderer δ) : Prop :=
  ∃ log geometry clearColor enabled, t = { r with
    bench := { r.bench with log }, geometry, clearColor, overlay := r.overlay.setEnabled enabled }

namespace Alike

variable {r t : Renderer Recorder}

theorem refl {δ : Type} (r : Renderer δ) : Alike r r :=
  ⟨r.bench.log, r.geometry, r.clearColor, r.overlay.enabled, rfl⟩

/-- A pass makes as many objects for the same view. -/
theorem passNumbers_eq (h : Alike r t) (same : t.view = r.view) :
    t.passNumbers = r.passNumbers := by
  have shown : t.showsOverlay = r.showsOverlay := by
    rw [← isSome_view_overlay, ← isSome_view_overlay, same]
  obtain ⟨log, geometry, clear, enabled, rfl⟩ := h
  unfold passNumbers
  rw [OsdLayer.compiles_eq, OsdLayer.compiles_eq]
  exact congrArg (fun b => _ + (b && r.overlay.program.isNone &&
    !r.bench.device.refusesPrograms).toNat) shown

/-- **The same calls are made for the same view**, and for no other one. -/
theorem passCalls_iff (h : Alike r t) : t.passCalls = r.passCalls ↔ t.view = r.view := by
  obtain ⟨program, textures, video⟩ := r.videoCalls_eq
  obtain ⟨made, program', textures', overlay⟩ := r.overlay.drawCalls_eq
    r.bench.device.refusesPrograms
    ⟨r.bench.device.lastId + (r.compiles r.format.pixelType).toNat + 1⟩
  have drawn {t : Renderer Recorder} (h : Alike r t) :
      t.view.video.isSome = r.showsVideo ∧ t.passCalls =
        r.programCalls r.format.pixelType ++ .beginPass r.item.size t.view.clear ::
          (quadCalls [] program textures t.view.video ++
            (quadCalls made program' textures' t.view.overlay ++ [.endPass])) := by
    obtain ⟨log, geometry, clear, enabled, rfl⟩ := h
    refine ⟨isSome_view_video _, ?_⟩
    unfold passCalls contentCalls
    rw [List.append_assoc]
    exact congrArg₂ (fun a b => _ ++ .beginPass r.item.size clear :: (a ++ (b ++ [.endPass])))
      (video _) (overlay enabled geometry.cached)
  obtain ⟨shown, calls⟩ := drawn h
  obtain ⟨shown', calls'⟩ := drawn (.refl r)
  rw [calls, calls']
  refine ⟨fun same => ?_, fun same => by rw [same]⟩
  obtain ⟨clear, same⟩ := List.cons.inj (List.append_cancel_left same)
  obtain ⟨video, same⟩ := quadCalls_append_inj (shown.trans shown'.symm) same
  exact View.ext (DeviceRecord.beginPass.inj clear).2 video
    (quadCalls_injective _ _ _ (List.append_cancel_right same))

/-- States that differ in little have the same core. -/
theorem core_eq (h : Alike r t) : t.core = r.core := by
  obtain ⟨log, geometry, clear, enabled, rfl⟩ := h
  rfl

/-- **The same view is recorded in the same way.** -/
theorem recorded_eq (h : Alike r t) (rest : r.core.AtRest) (same : t.view = r.view) :
    t.recorded = r.recorded := by
  have device : t.bench.device = r.bench.device := congrArg Core.device h.core_eq
  rw [Renderer.recorded_eq rest, Renderer.recorded_eq (h.core_eq ▸ rest), device,
    h.passNumbers_eq same, h.passCalls_iff.2 same]

/-- **Another view is recorded in another way**, while there are two numbers
left. -/
theorem view_eq (h : Alike r t) (rest : r.core.AtRest)
    (room : r.bench.device.lastId + 2 < UInt32.size) (same : t.recorded = r.recorded) :
    t.view = r.view := by
  have device : t.bench.device = r.bench.device := congrArg Core.device h.core_eq
  have two := r.passNumbers_le
  have two' := t.passNumbers_le
  rw [Renderer.recorded_eq rest, Renderer.recorded_eq (h.core_eq ▸ rest), device,
    if_pos (by omega), if_pos (by omega)] at same
  exact h.passCalls_iff.1 (Option.some.inj same)

end Alike

end Renderer

/-! ## Setters that ask -/

/-- Offsets are compared by what they are. -/
theorem Offset.eq_of_bne {a b : Offset} (h : ¬ (a != b) = true) : a = b := by
  have same : (a == b) = true := by simpa [bne] using h
  obtain ⟨across, down⟩ := (Bool.and_eq_true _ _).mp same
  exact congrArg₂ Point.mk (eq_of_beq across) (eq_of_beq down)

namespace Renderer

section Setters

variable {δ : Type}

/-- **A change is announced**: either nothing was changed, or a redraw is asked
for. The flag says which. -/
structure Announced (r : Renderer δ) (x : Bool × Renderer δ) : Prop where
  /-- Nothing was changed. -/
  kept : x.1 = false → x.2 = r
  /-- A redraw is asked for. -/
  asked : x.1 = true → x.2.mailbox.redraw = true

/-- One change after the other. The flag is whether either one changes the
state before. -/
def andThen (f g : Renderer δ → Bool × Renderer δ) (r : Renderer δ) : Bool × Renderer δ :=
  ((f r).1 || (g r).1, (g (f r).2).2)

theorem snd_andThen (f g : Renderer δ → Bool × Renderer δ) (r : Renderer δ) :
    (andThen f g r).2 = (g (f r).2).2 := rfl

/-- Announced changes, one after the other, are announced. -/
theorem Announced.andThen {f g : Renderer δ → Bool × Renderer δ}
    (first : ∀ r, Announced r (f r)) (second : ∀ r, Announced r (g r)) (r : Renderer δ) :
    Announced r (andThen f g r) := by
  unfold Renderer.andThen
  cases h : (f r).1 with
  | false =>
    rw [(first r).kept h]
    exact second r
  | true =>
    refine ⟨nofun, fun _ => ?_⟩
    show (g (f r).2).2.mailbox.redraw = true
    cases h' : (g (f r).2).1 with
    | false =>
      rw [(second _).kept h']
      exact (first r).asked h
    | true => exact (second _).asked h'

/-- A value that is kept on one branch. -/
theorem kept_ite {α : Type} {p : Prop} [Decidable p] {a b : α}
    (h : (if p then (false, a) else (true, b)).1 = false) :
    (if p then (false, a) else (true, b)).2 = a := by
  split at h
  · next same => rw [if_pos same]
  · cases h

theorem redraw_requestRedraw (r : Renderer δ) : r.requestRedraw.mailbox.redraw = true := by
  unfold requestRedraw
  dsimp only
  split <;> rfl

theorem announced_refresh (r : Renderer δ) {change : Bool × Resolver Float32 Float}
    (kept : change.1 = false → change.2 = r.geometry) : Announced r (r.refresh change) := by
  obtain ⟨changed, geometry⟩ := change
  cases changed with
  | true => exact ⟨nofun, fun _ => redraw_requestRedraw _⟩
  | false =>
    cases kept rfl
    exact ⟨fun _ => rfl, nofun⟩

theorem announced_restyle (r : Renderer δ) {change : Bool × ShaderParams}
    (kept : change.1 = false → change.2 = r.shader) : Announced r (r.restyle change) := by
  obtain ⟨changed, shader⟩ := change
  cases changed with
  | true => exact ⟨nofun, fun _ => redraw_requestRedraw _⟩
  | false =>
    cases kept rfl
    exact ⟨fun _ => rfl, nofun⟩

theorem announced_resize (r : Renderer δ) (item : Rect Float32) : Announced r (r.resize item) := by
  unfold resize
  split
  · exact ⟨fun _ => rfl, nofun⟩
  · exact ⟨nofun, fun _ => redraw_requestRedraw _⟩

theorem announced_setAlignment (r : Renderer δ) (alignment : Alignment) :
    Announced r (r.setAlignment alignment) := by
  refine announced_refresh r fun h => ?_
  have same : r.geometry.alignment = alignment := bne_eq_false_iff_eq.1 h
  cases same
  rfl

theorem announced_setAspect (r : Renderer δ) (ratio : Float) :
    Announced r (r.setAspect ratio) :=
  announced_refresh r kept_ite

theorem announced_setCrop (r : Renderer δ) (ratio : Float) : Announced r (r.setCrop ratio) :=
  announced_refresh r kept_ite

theorem announced_setOffset (r : Renderer δ) (offset : Offset) :
    Announced r (r.setOffset offset) := by
  unfold setOffset Resolver.setOffset
  dsimp only
  split
  · exact ⟨nofun, fun _ => redraw_requestRedraw _⟩
  · next same =>
    refine ⟨fun _ => ?_, nofun⟩
    cases Offset.eq_of_bne same
    rfl

theorem announced_setEffects (r : Renderer δ) (effects : Effects) :
    Announced r (r.setEffects effects) :=
  announced_restyle r kept_ite

theorem announced_setColor (r : Renderer δ) (color : ColorProperty) :
    Announced r (r.setColor color) :=
  announced_restyle r kept_ite

theorem announced_setColorSpace (r : Renderer δ) (space : ColorSpace) (range : ColorRange) :
    Announced r (r.setColorSpace space range) :=
  announced_restyle r kept_ite

/-- Showing or hiding the overlay is announced as well. -/
theorem announced_setOsdEnabled (r : Renderer δ) (enabled : Bool) :
    Announced r (r.overlay.enabled != enabled, r.setOsdEnabled enabled) := by
  unfold setOsdEnabled
  split
  · next same => exact ⟨fun _ => rfl, fun h => absurd same (bne_iff_ne.1 h)⟩
  · next other =>
    exact ⟨fun h => absurd (bne_eq_false_iff_eq.1 h) other, fun _ => redraw_requestRedraw _⟩

/-- **The settings of a configuration that are announced**, one after the
other. -/
def settle (c : RendererConfig) : Renderer δ → Bool × Renderer δ :=
  andThen (setAspect · c.aspectRatio) <| andThen (setCrop · c.cropRatio) <|
    andThen (setAlignment · c.alignment) <| andThen (setOffset · ⟨c.offsetX, c.offsetY⟩) <|
      andThen (setEffects · c.effects) <| andThen (setColor · c.color)
        (setColorSpace · c.colorSpace c.colorRange)

theorem announced_settle (c : RendererConfig) (r : Renderer δ) : Announced r (settle c r) :=
  .andThen (announced_setAspect · _) (.andThen (announced_setCrop · _)
    (.andThen (announced_setAlignment · _) (.andThen (announced_setOffset · _)
      (.andThen (announced_setEffects · _) (.andThen (announced_setColor · _)
        (announced_setColorSpace · _ _)))))) r

/-- The others are taken without a word. -/
theorem applyConfig_eq (r : Renderer δ) (c : RendererConfig) :
    r.applyConfig c = { (settle c r).2 with
      overlay := (settle c r).2.overlay.setEnabled c.osd, clearColor := c.clearColor } := by
  unfold applyConfig settle
  simp only [snd_andThen]

end Setters

end Renderer

/-! ## Mutations -/

/-- **Whether a request is a setting** that may be seen: any but receiving a
redraw request. -/
def Request.isMutation : Request → Bool
  | receiveRedraw => false
  | request => request.isSetting

namespace Renderer

/-- **Whether a request is carried out without a word**, whatever it changes. -/
def isSilent {δ : Type} (r : Renderer δ) : Request → Bool
  | .setDisplayAspect _ | .setClearColor _ => true
  | .applyConfig config => !(settle config r).1
  | _ => false

/-- **A mutation asks for a redraw, or changes nothing**, or is carried out
without a word and changes nothing but what the aspect, the colour and the
overlay come to. -/
theorem perform_mutation {δ : Type} [Device δ] (r : Renderer δ) {request : Request}
    (mutation : request.isMutation = true) : ∃ answer t, r.perform request = .ok (answer, t) ∧
      (r.isSilent request = false → t = r ∨ t.mailbox.redraw = true) ∧
      (r.isSilent request = true → t.mailbox = r.mailbox ∧ Alike r t) := by
  -- a setter that asks is not silent
  have asking {x : Bool × Renderer δ} (announced : Announced r x) :
      (false = false → x.2 = r ∨ x.2.mailbox.redraw = true) ∧
        (false = true → x.2.mailbox = r.mailbox ∧ Alike r x.2) := by
    refine ⟨fun _ => ?_, nofun⟩
    cases h : x.1 with
    | false => exact .inl (announced.kept h)
    | true => exact .inr (announced.asked h)
  cases request with
  | present | drawOsd | prepare | render | release | receiveRedraw => cases mutation
  | resize item => exact ⟨_, _, rfl, asking (announced_resize r item)⟩
  | setAlignment alignment => exact ⟨_, _, rfl, asking (announced_setAlignment r alignment)⟩
  | setAspect ratio => exact ⟨_, _, rfl, asking (announced_setAspect r ratio)⟩
  | setCrop ratio => exact ⟨_, _, rfl, asking (announced_setCrop r ratio)⟩
  | setOffset offset => exact ⟨_, _, rfl, asking (announced_setOffset r offset)⟩
  | setEffects effects => exact ⟨_, _, rfl, asking (announced_setEffects r effects)⟩
  | setColor color => exact ⟨_, _, rfl, asking (announced_setColor r color)⟩
  | setColorSpace space range =>
    exact ⟨_, _, rfl, asking (announced_setColorSpace r space range)⟩
  | setOsdEnabled enabled => exact ⟨_, _, rfl, asking (announced_setOsdEnabled r enabled)⟩
  | setDisplayAspect ratio =>
    refine ⟨_, _, rfl, nofun, fun _ => ?_⟩
    unfold setDisplayAspect updateGeometry
    dsimp only
    split
    · exact ⟨rfl, _, _, r.clearColor, r.overlay.enabled, rfl⟩
    · exact ⟨rfl, r.bench.log, _, r.clearColor, r.overlay.enabled, rfl⟩
  | setClearColor color =>
    exact ⟨_, _, rfl, nofun, fun _ => ⟨rfl, r.bench.log, r.geometry, color, r.overlay.enabled, rfl⟩⟩
  | applyConfig config =>
    have announced := announced_settle config r
    have silent : r.isSilent (.applyConfig config) = !(settle config r).1 := rfl
    refine ⟨_, _, rfl, ?_⟩
    rw [applyConfig_eq, silent]
    generalize settle config r = x at announced
    obtain ⟨changed, s⟩ := x
    cases changed with
    | true => exact ⟨fun _ => .inr (announced.asked rfl), nofun⟩
    | false =>
      cases announced.kept rfl
      exact ⟨nofun, fun _ => ⟨rfl, s.bench.log, s.geometry, config.clearColor, config.osd, rfl⟩⟩

/-- **A change that can be seen and is not asked for.** -/
structure Hidden (r : Renderer Recorder) (request : Request) (t : Renderer Recorder) : Prop where
  /-- No redraw was asked for before. -/
  unasked : r.mailbox.redraw = false
  /-- The request is carried out without a word. -/
  silent : r.isSilent request = true
  /-- The next pass shows something else. -/
  seen : t.view ≠ r.view

/-- **Before any frame came, a pass begins at once**, with the size of the item
and the colour around the picture. -/
theorem head_recorded {r : Renderer Recorder} (fresh : r.core = .initial .initial) :
    r.recorded.bind List.head? = some (.beginPass r.item.size r.clearColor) := by
  have device : r.bench.device = .initial := congrArg Core.device fresh
  have program : r.program = none := congrArg Core.program fresh
  have type : r.format.pixelType = .empty := congrArg (fun c => c.format.pixelType) fresh
  have source : r.shader.fragmentSource .empty = none := rfl
  have nothing : r.programCalls r.format.pixelType = [] := by
    unfold programCalls compiles
    rw [program, type, source]
    split
    · rfl
    · rw [Option.isSome_none, Bool.and_false, Bool.false_and]
      rfl
  -- no number was handed out, and a pass hands out two at most
  have room : r.bench.device.lastId + r.passNumbers < UInt32.size := by
    have two := r.passNumbers_le
    have unused : r.bench.device.lastId = 0 := congrArg Recorder.lastId device
    have size : 2 < UInt32.size := by decide
    omega
  rw [recorded_eq (fresh ▸ Core.atRest_initial), if_pos room]
  unfold passCalls
  rw [nothing]
  rfl

end Renderer

/-- **Every mutation that changes what the next pass records asks for a redraw
unless it is hidden.** Whatever was asked of a renderer, a mutation is carried
out, and if a pass then records other calls than before, a redraw request is
outstanding, or the mutation is a hidden one: no request was outstanding, it is
one of the three that do not ask, and the view is another one. Then, while there
are two numbers left, a pass does record other calls, and no request is
outstanding. -/
theorem redraw_requested_unless_hidden {config : RendererConfig}
    {past : List (Transition Recorder)} {r : Renderer Recorder}
    (run : Run (.withConfig .initial config) past r) (proper : ∀ x ∈ past, x.Proper)
    {request : Request} (mutation : request.isMutation = true) :
    ∃ answer t, r.perform request = .ok (answer, t) ∧
      (t.recorded ≠ r.recorded → t.mailbox.redraw = true ∨ r.Hidden request t) ∧
      (r.Hidden request t → t.mailbox.redraw = false ∧
        (r.bench.device.lastId + 2 < UInt32.size → t.recorded ≠ r.recorded)) := by
  obtain ⟨rest, -⟩ := run.did (Renderer.core_withConfig Recorder.initial config) proper
  obtain ⟨answer, t, e, loud, silent⟩ := r.perform_mutation mutation
  refine ⟨answer, t, e, fun other => ?_, fun hidden => ?_⟩
  · cases h : r.isSilent request with
    | false =>
      obtain rfl | asked := loud h
      · exact absurd rfl other
      · exact .inl asked
    | true =>
      obtain ⟨mailbox, alike⟩ := silent h
      rw [mailbox]
      cases unasked : r.mailbox.redraw with
      | true => exact .inl rfl
      | false => exact .inr ⟨unasked, h, fun same => other (alike.recorded_eq rest same)⟩
  · obtain ⟨mailbox, alike⟩ := silent hidden.silent
    exact ⟨mailbox ▸ hidden.unasked, fun room same => hidden.seen (alike.view_eq rest room same)⟩

/-- An item that is given a size is shown with it, and this is asked for. -/
theorem redraw_requested_unless_hidden_resized : ∃ (r t : Renderer Recorder),
    Run (.withConfig .initial .standard) [] r ∧ r.mailbox.redraw = false ∧
      r.perform (.resize ⟨0, 0, 1, 1⟩) = .ok (.flag true, t) ∧
      t.recorded ≠ r.recorded ∧ t.mailbox.redraw = true := by
  have fresh := Renderer.core_withConfig Recorder.initial .standard
  have unasked : (Renderer.withConfig Recorder.initial .standard).mailbox.redraw = false := by
    decide +kernel
  have width : (Renderer.withConfig Recorder.initial .standard).item.width = 0 := by
    decide +kernel
  have wider : ((Renderer.withConfig Recorder.initial .standard).resize ⟨0, 0, 1, 1⟩).2.item.width =
    1 := by decide +kernel
  have changed : ((Renderer.withConfig Recorder.initial .standard).resize ⟨0, 0, 1, 1⟩).1 =
    true := by decide +kernel
  generalize hr : Renderer.withConfig Recorder.initial .standard = r
    at fresh unasked width wider changed
  have run : Run (.withConfig .initial .standard) [] r := hr ▸ .start
  have mutation : (Request.resize ⟨0, 0, 1, 1⟩).isMutation = true := rfl
  obtain ⟨answer, t, e, asked, -⟩ :=
    redraw_requested_unless_hidden run (List.forall_mem_nil _) mutation
  have e' : r.perform (.resize ⟨0, 0, 1, 1⟩) = .ok (.flag true, t) := by
    rw [← changed, e]
    cases e
    rfl
  cases e
  have other : (r.resize ⟨0, 0, 1, 1⟩).2.recorded ≠ r.recorded := by
    intro same
    have heads := congrArg (Option.bind · List.head?) same
    rw [Renderer.head_recorded fresh,
      Renderer.head_recorded ((Renderer.core_resize r _).trans fresh)] at heads
    have widths : (r.resize ⟨0, 0, 1, 1⟩).2.item.width = r.item.width :=
      congrArg Size.width (DeviceRecord.beginPass.inj (Option.some.inj heads)).1
    rw [wider, width] at widths
    exact absurd widths (by decide)
  refine ⟨r, _, .start, unasked, e', other, (asked other).resolve_right fun hidden => ?_⟩
  cases hidden.silent

/-- **Another colour around the picture is not asked for.** A renderer with the
usual settings is told to show white around the picture. Its next pass is
another one, and no redraw request is outstanding. -/
theorem clear_color_not_announced : ∃ (r t : Renderer Recorder),
    Run (.withConfig .initial .standard) [] r ∧
      r.perform (.setClearColor ⟨1, 1, 1, 1⟩) = .ok (.done, t) ∧
      t.recorded ≠ r.recorded ∧ t.mailbox.redraw = false := by
  have fresh := Renderer.core_withConfig Recorder.initial .standard
  have unasked : (Renderer.withConfig Recorder.initial .standard).mailbox.redraw = false := by
    decide +kernel
  have black : (Renderer.withConfig Recorder.initial .standard).clearColor.red = 0 := by
    decide +kernel
  generalize Renderer.withConfig Recorder.initial .standard = r at fresh unasked black
  refine ⟨r, _, .start, rfl, fun same => ?_, unasked⟩
  have heads := congrArg (Option.bind · List.head?) same
  rw [Renderer.head_recorded fresh, Renderer.head_recorded (r := r.setClearColor ⟨1, 1, 1, 1⟩)
    fresh] at heads
  have reds : (1 : Float32) = r.clearColor.red :=
    congrArg ClearColor.red (DeviceRecord.beginPass.inj (Option.some.inj heads)).2
  rw [black] at reds
  exact absurd reds (by decide)

end Projector
