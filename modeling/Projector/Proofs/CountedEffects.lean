import Projector.Proofs.Agreement
import Projector.Proofs.Redraw

/-!
# Effects that count

A set of effects may hold more than is done. A bit without a name does nothing,
and one effect suspends all the others. Two sets are *alike* if they differ in
nothing that counts, and that is so exactly if their active effects with a name
are the same.

Effects are read in four places: for the key of the program, for the convolution,
for the inversion of colours, and for the flips of the texture coordinates. Each
place asks for effects with a name, and of the active ones only. So a renderer
cannot tell sets that are alike from each other. Two renderers that differ in this,
in the log, and in whether a redraw was asked for, do the same to the device
(`Renderer.Resembles`). Each request leaves them so, and a run is compared with a
run request by request.
-/

namespace Projector

/-! ## Bits -/

namespace Effects

/-- **Every effect with a name.** -/
def everything : Effects := ⟨flags.foldl (fun bits flag => bits ||| flag.bits) 0⟩

/-- **The effects of a set that have a name.** -/
def named (e : Effects) : Effects := ⟨e.bits &&& everything.bits⟩

/-- **Two sets that differ in nothing that counts**: in bits without a name only,
or in any bits if both are suspended, or if one is and the other one has no effect
with a name. -/
inductive Alike (e e' : Effects) : Prop where
  /-- They have the same effects with a name. -/
  | named (same : e.named = e'.named)
  /-- Both are suspended. -/
  | suspended (h : e.contains ignoreEffect = true) (h' : e'.contains ignoreEffect = true)
  /-- The first one is suspended, and the second one has no effect with a name. -/
  | firstSuspended (h : e.contains ignoreEffect = true) (h' : e'.named = none)
  /-- The second one is suspended, and the first one has no effect with a name. -/
  | secondSuspended (h : e.named = none) (h' : e'.contains ignoreEffect = true)

variable {e e' : Effects}

/-- An effect with a name is looked for among the effects with a name. -/
theorem contains_named {f : Effects} (known : everything.bits &&& f.bits = f.bits) :
    e.named.contains f = e.contains f := by
  show (e.bits &&& everything.bits &&& f.bits == f.bits) = (e.bits &&& f.bits == f.bits)
  rw [UInt32.and_assoc, known]

theorem contains_congr {f : Effects} (known : everything.bits &&& f.bits = f.bits)
    (same : e.named = e'.named) : e.contains f = e'.contains f := by
  rw [← contains_named known, same, contains_named known]

theorem active_of_suspended (h : e.contains ignoreEffect = true) : e.active = none := if_pos h

theorem active_of_not_suspended (h : e.contains ignoreEffect = false) : e.active = e :=
  if_neg (Bool.eq_false_iff.1 h)

@[simp] theorem active_active (e : Effects) : e.active.active = e.active := by
  cases h : e.contains ignoreEffect with
  | true =>
    rw [active_of_suspended h]
    rfl
  | false => rw [active_of_not_suspended h, active_of_not_suspended h]

/-- **Sets are alike exactly if their active effects with a name are the same.** -/
theorem alike_iff : e.Alike e' ↔ e.active.named = e'.active.named := by
  have ignored : everything.bits &&& ignoreEffect.bits = ignoreEffect.bits := by decide
  have nothing : none.named = none := by decide
  constructor
  · rintro (same | ⟨h, h'⟩ | ⟨h, h'⟩ | ⟨h, h'⟩)
    · cases h : e.contains ignoreEffect with
      | true =>
        rw [active_of_suspended h, active_of_suspended (contains_congr ignored same ▸ h)]
      | false =>
        rw [active_of_not_suspended h, active_of_not_suspended (contains_congr ignored same ▸ h),
          same]
    · rw [active_of_suspended h, active_of_suspended h']
    · have awake : e'.contains ignoreEffect = false := by
        rw [← contains_named ignored, h']
        rfl
      rw [active_of_suspended h, active_of_not_suspended awake, h', nothing]
    · have awake : e.contains ignoreEffect = false := by
        rw [← contains_named ignored, h]
        rfl
      rw [active_of_suspended h', active_of_not_suspended awake, h, nothing]
  · intro same
    cases h : e.contains ignoreEffect with
    | true =>
      rw [active_of_suspended h, nothing] at same
      cases h' : e'.contains ignoreEffect with
      | true => exact .suspended h h'
      | false =>
        rw [active_of_not_suspended h'] at same
        exact .firstSuspended h same.symm
    | false =>
      rw [active_of_not_suspended h] at same
      cases h' : e'.contains ignoreEffect with
      | true =>
        rw [active_of_suspended h', nothing] at same
        exact .secondSuspended same h'
      | false =>
        rw [active_of_not_suspended h'] at same
        exact .named same

theorem Alike.refl (e : Effects) : e.Alike e := .named rfl

theorem Alike.symm (h : e.Alike e') : e'.Alike e := alike_iff.2 (alike_iff.1 h).symm

theorem Alike.trans {e'' : Effects} (h : e.Alike e') (h' : e'.Alike e'') : e.Alike e'' :=
  alike_iff.2 ((alike_iff.1 h).trans (alike_iff.1 h'))

end Effects

/-! ## The four readers -/

namespace Effects.Alike

variable {e e' : Effects}

/-- Of sets that are alike the same effects with a name count. -/
theorem contains_eq (h : e.Alike e') {f : Effects}
    (known : everything.bits &&& f.bits = f.bits) : e.active.contains f = e'.active.contains f :=
  contains_congr known (alike_iff.1 h)

/-- **They ask for the same program.** -/
theorem programKey_eq (h : e.Alike e') : e.programKey = e'.programKey := by
  have known : everything.bits &&& (filters.bits ||| kernels.bits) =
      filters.bits ||| kernels.bits := by decide
  have masked (e : Effects) : e.named.bits &&& (filters.bits ||| kernels.bits) =
      e.bits &&& (filters.bits ||| kernels.bits) := by
    unfold Effects.named
    rw [UInt32.and_assoc, known]
  unfold programKey
  rw [← masked, alike_iff.1 h, masked]

/-- **They ask for the same convolution.** -/
theorem ofEffects_eq (h : e.Alike e') : Kernel.ofEffects e.active = Kernel.ofEffects e'.active := by
  have selected : Kernel.selected e.active = Kernel.selected e'.active := by
    unfold Kernel.selected
    rw [active_active, active_active, h.contains_eq (f := blur) (by decide),
      h.contains_eq (f := sharpen) (by decide)]
  unfold Kernel.ofEffects
  rw [selected]

/-- **They ask for the same part of the texture.** -/
theorem ofFormat_eq {S : Type} [Scalar S] (h : e.Alike e') (format : VideoFormat) :
    (TexCoords.ofFormat format e : TexCoords S) = TexCoords.ofFormat format e' := by
  unfold TexCoords.ofFormat
  dsimp only
  rw [h.contains_eq (f := flipVertically) (by decide),
    h.contains_eq (f := flipHorizontally) (by decide)]

end Effects.Alike

namespace ShaderParams

/-- **The same parameters but for effects that do not count.** -/
structure Alike (p q : ShaderParams) : Prop where
  /-- The effects are alike. -/
  effects : p.effects.Alike q.effects
  /-- The colours are the same, -/
  color : p.color = q.color
  /-- the weights of luma -/
  space : p.space = q.space
  /-- and the range. -/
  range : p.range = q.range

/-- The effects are taken, whether they are others or not. -/
theorem setEffects_eq (p : ShaderParams) (e : Effects) :
    (p.setEffects e).2 = { p with effects := e } := by
  unfold setEffects
  split
  · next same => rw [← same]
  · rfl

variable {p q : ShaderParams}

namespace Alike

theorem programKey_eq (h : p.Alike q) (type : PixelType) : p.programKey type = q.programKey type :=
  congrArg (ProgramKey.mk type) h.effects.programKey_eq

theorem fragmentSource_eq (h : p.Alike q) (type : PixelType) :
    p.fragmentSource type = q.fragmentSource type :=
  congrArg Program.source? (h.programKey_eq type)

/-- **A program reads the same numbers.** -/
theorem uniforms_eq (h : p.Alike q) (format : VideoFormat) (correction : Float32 × Float32) :
    p.uniforms format correction = q.uniforms format correction := by
  unfold uniforms
  dsimp only
  rw [h.color, h.space, h.range, h.effects.ofEffects_eq,
    h.effects.contains_eq (f := .invertColor) (by decide)]

/-- Taking effects that are alike leaves parameters alike. -/
theorem setEffects (h : p.Alike q) {e e' : Effects} (alike : e.Alike e') :
    (p.setEffects e).2.Alike (q.setEffects e').2 := by
  rw [setEffects_eq, setEffects_eq]
  exact { h with effects := alike }

/-- Taking colours does not look at the effects. -/
theorem setColor (h : p.Alike q) (color : ColorProperty) :
    (p.setColor color).2.Alike (q.setColor color).2 := by
  unfold ShaderParams.setColor
  rw [h.color]
  split
  · exact h
  · exact { h with color := rfl }

theorem setColorSpace (h : p.Alike q) (space : ColorSpace) (range : ColorRange) :
    (p.setColorSpace space range).2.Alike (q.setColorSpace space range).2 := by
  unfold ShaderParams.setColorSpace
  rw [h.space, h.range]
  split
  · exact h
  · exact { h with space := rfl, range := rfl }

end Alike

end ShaderParams

/-! ## Renderers -/

namespace Mailbox

/-- The mailbox, whatever redraw is asked for. -/
def calm (m : Mailbox) : Mailbox := { m with redraw := false }

/-- **What is taken does not depend on whether a redraw is asked for.** -/
theorem take_calm (m : Mailbox) : m.calm.take = (m.take.1, m.take.2.calm) := by
  have pending : (m.calm.framePending || m.calm.canvasPending) =
    (m.framePending || m.canvasPending) := rfl
  unfold take
  rw [pending]
  split <;> rfl

end Mailbox

namespace Renderer

variable {δ : Type}

/-- **Two renderers with the same future**: they differ in effects that do not
count, in the log, and in whether a redraw is asked for. -/
structure Resembles (r t : Renderer δ) : Prop where
  /-- They have the same device. -/
  device : r.bench.device = t.bench.device
  /-- The same is stored in the mailbox. -/
  mailbox : r.mailbox.calm = t.mailbox.calm
  /-- Layout code was told the same. -/
  events : r.events = t.events
  /-- The same frame was uploaded. -/
  frame : r.frame = t.frame
  /-- The same format is shown. -/
  format : r.format = t.format
  /-- The effects and colours are alike. -/
  shader : r.shader.Alike t.shader
  /-- The video program is the same, -/
  program : r.program = t.program
  /-- and what it was asked for. -/
  programKey : r.programKey = t.programKey
  /-- The textures are the same, -/
  textures : r.textures = t.textures
  /-- the geometry, -/
  geometry : r.geometry = t.geometry
  /-- the overlay, -/
  overlay : r.overlay = t.overlay
  /-- the item -/
  item : r.item = t.item
  /-- and the colour around the picture. -/
  clearColor : r.clearColor = t.clearColor

namespace Resembles

variable {r t : Renderer δ}

theorem refl (r : Renderer δ) : r.Resembles r :=
  ⟨rfl, rfl, rfl, rfl, rfl, ⟨.refl _, rfl, rfl, rfl⟩, rfl, rfl, rfl, rfl, rfl, rfl, rfl⟩

theorem symm (h : r.Resembles t) : t.Resembles r :=
  ⟨h.device.symm, h.mailbox.symm, h.events.symm, h.frame.symm, h.format.symm,
    ⟨h.shader.effects.symm, h.shader.color.symm, h.shader.space.symm, h.shader.range.symm⟩,
    h.program.symm, h.programKey.symm, h.textures.symm, h.geometry.symm, h.overlay.symm,
    h.item.symm, h.clearColor.symm⟩

theorem trans {u : Renderer δ} (h : r.Resembles t) (h' : t.Resembles u) : r.Resembles u :=
  ⟨h.device.trans h'.device, h.mailbox.trans h'.mailbox, h.events.trans h'.events,
    h.frame.trans h'.frame, h.format.trans h'.format,
    ⟨h.shader.effects.trans h'.shader.effects, h.shader.color.trans h'.shader.color,
      h.shader.space.trans h'.shader.space, h.shader.range.trans h'.shader.range⟩,
    h.program.trans h'.program, h.programKey.trans h'.programKey, h.textures.trans h'.textures,
    h.geometry.trans h'.geometry, h.overlay.trans h'.overlay, h.item.trans h'.item,
    h.clearColor.trans h'.clearColor⟩

end Resembles

/-- **Asking for a redraw makes no difference.** -/
theorem resembles_requestRedraw (r : Renderer δ) : r.requestRedraw.Resembles r := by
  unfold requestRedraw
  dsimp only
  split
  · exact { Resembles.refl r with device := rfl, mailbox := rfl }
  · exact { Resembles.refl r with mailbox := rfl }

/-- **A change of effects or colours is that change**, whether a redraw is asked for
or not. -/
theorem resembles_restyle (r : Renderer δ) (change : Bool × ShaderParams) :
    (r.restyle change).2.Resembles { r with shader := change.2 } := by
  unfold restyle
  dsimp only
  split
  · exact resembles_requestRedraw _
  · exact .refl _

/-! ## Settings -/

namespace Resembles

variable {r t : Renderer δ}

theorem requestRedraw (h : r.Resembles t) : r.requestRedraw.Resembles t.requestRedraw :=
  (resembles_requestRedraw r).trans (h.trans (resembles_requestRedraw t).symm)

theorem updateGeometry (h : r.Resembles t) : r.updateGeometry.Resembles t.updateGeometry := by
  unfold Renderer.updateGeometry
  rw [h.geometry]
  dsimp only
  split
  · exact { h with device := h.device, geometry := rfl }
  · exact { h with geometry := rfl }

theorem emit (h : r.Resembles t) (e : RenderEvent) : (r.emit e).Resembles (t.emit e) :=
  { h with events := congrArg (·.push e) h.events }

theorem present (h : r.Resembles t) (frame : VideoFrame) (check : Bool) :
    (r.present frame check).Resembles (t.present frame check) :=
  requestRedraw { h with mailbox := congrArg (·.storeFrame frame check) h.mailbox }

theorem receiveRedraw (h : r.Resembles t) : r.receiveRedraw.2.Resembles t.receiveRedraw.2 :=
  { h with mailbox := h.mailbox }

theorem refresh (h : r.Resembles t) (change : Bool × Resolver Float32 Float) :
    (r.refresh change).2.Resembles (t.refresh change).2 := by
  unfold Renderer.refresh
  dsimp only
  split
  · have taken : { r with geometry := change.2 }.Resembles { t with geometry := change.2 } :=
      { h with geometry := rfl }
    exact taken.updateGeometry.requestRedraw
  · exact { h with geometry := rfl }

/-- A wish is compared with the one that is there, which is the same one. -/
theorem wish (h : r.Resembles t)
    (change : Resolver Float32 Float → Bool × Resolver Float32 Float) :
    (r.refresh (change r.geometry)).2.Resembles (t.refresh (change t.geometry)).2 := by
  rw [h.geometry]
  exact h.refresh _

theorem resize (h : r.Resembles t) (item : Rect Float32) :
    (r.resize item).2.Resembles (t.resize item).2 := by
  unfold Renderer.resize
  rw [h.item, h.geometry]
  split
  · exact h
  · have taken : { r with item, geometry := (t.geometry.setItem item.size).2 }.Resembles
        { t with item, geometry := (t.geometry.setItem item.size).2 } :=
      { h with item := rfl, geometry := rfl }
    exact taken.updateGeometry.requestRedraw

theorem setDisplayAspect (h : r.Resembles t) (ratio : Float) :
    (r.setDisplayAspect ratio).Resembles (t.setDisplayAspect ratio) :=
  updateGeometry { h with geometry := congrArg (·.setDisplayAspect ratio) h.geometry }

theorem setOffset (h : r.Resembles t) (offset : Offset) :
    (r.setOffset offset).2.Resembles (t.setOffset offset).2 := by
  unfold Renderer.setOffset
  rw [h.geometry]
  have taken : { r with geometry := (t.geometry.setOffset offset).2 }.Resembles
      { t with geometry := (t.geometry.setOffset offset).2 } := { h with geometry := rfl }
  dsimp only
  split
  · exact (taken.emit _).requestRedraw
  · exact taken

/-- **Changes to parameters that are alike** leave renderers as they are to each
other. -/
theorem restyle (h : r.Resembles t) {change change' : Bool × ShaderParams}
    (alike : change.2.Alike change'.2) : (r.restyle change).2.Resembles (t.restyle change').2 := by
  have same : { r with shader := change.2 }.Resembles { t with shader := change'.2 } :=
    { h with shader := alike }
  exact (resembles_restyle r change).trans (same.trans (resembles_restyle t change').symm)

theorem setOsdEnabled (h : r.Resembles t) (enabled : Bool) :
    (r.setOsdEnabled enabled).Resembles (t.setOsdEnabled enabled) := by
  unfold Renderer.setOsdEnabled
  rw [h.overlay]
  split
  · exact h
  · have taken : { r with overlay := t.overlay.setEnabled enabled }.Resembles
        { t with overlay := t.overlay.setEnabled enabled } := { h with overlay := rfl }
    exact taken.requestRedraw

/-- **Configurations that differ in effects that do not count** make the same of
renderers. -/
theorem applyConfig (h : r.Resembles t) (c : RendererConfig) {e e' : Effects} (alike : e.Alike e') :
    (r.applyConfig { c with effects := e }).Resembles
      (t.applyConfig { c with effects := e' }) := by
  have placed := (((h.wish (·.setAspect c.aspectRatio)).wish (·.setCrop c.cropRatio)).wish
    (·.setAlignment c.alignment)).setOffset ⟨c.offsetX, c.offsetY⟩
  have styled := placed.restyle (placed.shader.setEffects alike)
  have coloured := styled.restyle (styled.shader.setColor c.color)
  have all := coloured.restyle (coloured.shader.setColorSpace c.colorSpace c.colorRange)
  have shown {r t : Renderer δ} (h : r.Resembles t) :
      { r with overlay := r.overlay.setEnabled c.osd, clearColor := c.clearColor }.Resembles
        { t with overlay := t.overlay.setEnabled c.osd, clearColor := c.clearColor } :=
    { h with overlay := congrArg (·.setEnabled c.osd) h.overlay, clearColor := rfl }
  unfold Renderer.applyConfig
  dsimp only
  unfold Renderer.setColorSpace Renderer.setColor Renderer.setEffects Renderer.setAlignment
    Renderer.setCrop Renderer.setAspect
  exact shown all

/-- **Subtitles are composed for the latest frame**, whatever else is stored. -/
theorem drawOsd (h : r.Resembles t) (bitmaps : List SubtitleBitmap) :
    (∃ r' t', r.drawOsd bitmaps = .ok r' ∧ t.drawOsd bitmaps = .ok t' ∧ r'.Resembles t') ∨
      ∃ fault, r.drawOsd bitmaps = .error fault ∧ t.drawOsd bitmaps = .error fault := by
  have frame : r.mailbox.calm.frame = t.mailbox.calm.frame := congrArg Mailbox.frame h.mailbox
  have frame : r.mailbox.frame = t.mailbox.frame := frame
  unfold Renderer.drawOsd
  rw [frame]
  dsimp only
  cases OsdImage.compose t.mailbox.frame.format.size.1 t.mailbox.frame.format.size.2 bitmaps with
  | error fault => exact .inr ⟨fault, rfl, rfl⟩
  | ok composed =>
    refine .inl ⟨_, _, rfl, rfl, requestRedraw ?_⟩
    have device (r : Renderer δ) : (r.bench.reports composed.2).device = r.bench.device :=
      Bench.device_reports _ _
    exact { h with
      device := (device r).trans (h.device.trans (device t).symm)
      mailbox := congrArg (·.storeCanvas composed.1) h.mailbox }

end Resembles

/-! ## Steps -/

section Steps

open Step Bench

variable {α : Type}

theorem respects_onDevice (m : Step δ α) : (onDevice m).Respects Resembles := by
  have same : m.Respects Eq := by
    rintro s - rfl
    cases m.outcome s with
    | error fault => exact .broken fault
    | ok p => exact .ended p.1 rfl
  exact same.zoom (fun _ _ h => h.device) fun _ _ h _ _ device => { h with device }

theorem respects_onTextures {m : Step (UploadEngine × Bench δ) α} (h : m.Respects Level) :
    (onTextures m).Respects Resembles :=
  h.zoom (fun _ _ h => ⟨h.textures, h.device⟩)
    fun _ _ h _ _ level => { h with textures := level.1, device := level.2 }

theorem respects_onOverlay {m : Step (OsdLayer × Bench δ) α} (h : m.Respects Level) :
    (onOverlay m).Respects Resembles :=
  h.zoom (fun _ _ h => ⟨h.overlay, h.device⟩)
    fun _ _ h _ _ level => { h with overlay := level.1, device := level.2 }

variable [Device δ]

theorem Resembles.dropProgram {r t : Renderer δ} (h : r.Resembles t) :
    r.dropProgram.Resembles t.dropProgram := by
  unfold Renderer.dropProgram
  rw [h.program]
  split
  · exact h
  · next old _ =>
    exact { h with
      program := rfl
      device := congrArg (Device.destroyProgram old) h.device }

/-- **The same program is compiled**, or none. -/
theorem respects_ensureProgram : (ensureProgram : Step (Renderer δ) Unit).Respects Resembles := by
  unfold ensureProgram
  refine respects_get_bind (fun r t h => ?_) fun r => ?_
  · rw [h.format, h.shader.programKey_eq, h.programKey]
    simp only [h.shader.fragmentSource_eq]
  dsimp only
  split
  · exact respects_pure _
  refine (respects_modify fun _ _ h => ?_).bind fun _ => ?_
  · exact { h.dropProgram with programKey := rfl }
  split
  · exact respects_pure _
  refine (respects_onDevice _).attempt.bind fun compiled => ?_
  split
  · exact respects_modify fun _ _ h => { h with device := h.device, program := rfl }
  · exact respects_modify fun _ _ h => { h with device := h.device }

theorem respects_resetFormat (format : VideoFormat) (notify : Bool) :
    (resetFormat format notify : Step (Renderer δ) Unit).Respects Resembles := by
  unfold resetFormat
  refine (respects_modify fun _ _ h => ?_).bind fun _ => ?_
  · exact { h with
      device := h.device
      format := rfl
      geometry := congrArg (fun g => (g.setFormat format).2) h.geometry }
  refine (respects_onOverlay (OsdLayer.respects_setFrameSize _)).bind fun _ => ?_
  refine (respects_onTextures (UploadEngine.respects_ensureAllocated _)).bind fun _ => ?_
  refine (respects_modify fun _ _ h => h.updateGeometry).bind fun _ => ?_
  split
  · exact respects_modify fun _ _ h => h.emit _
  · exact respects_pure _

theorem respects_uploadFrame (frame : VideoFrame) :
    (uploadFrame frame : Step (Renderer δ) Bool).Respects Resembles := by
  have upload : (onTextures (UploadEngine.upload frame) : Step (Renderer δ) Bool).Respects
      Resembles := respects_onTextures (UploadEngine.respects_upload frame)
  unfold uploadFrame
  refine upload.attempt.bind fun answer => ?_
  split
  · exact respects_pure _
  · refine (respects_modify fun _ _ h => { h with device := h.device }).bind fun _ => ?_
    exact (respects_resetFormat _ _).bind fun _ => respects_ensureProgram.bind fun _ => upload
  · exact respects_throw _

theorem respects_takeFrame (frame : VideoFrame) (check : Bool) :
    (takeFrame frame check : Step (Renderer δ) Bool).Respects Resembles := by
  have fill : (do
      ensureProgram
      let uploaded ← uploadFrame frame
      modify fun r => { r with frame }
      return uploaded : Step (Renderer δ) Bool).Respects Resembles :=
    respects_ensureProgram.bind fun _ => (respects_uploadFrame frame).bind fun _ =>
      (respects_modify fun _ _ h => { h with frame := rfl }).bind fun _ => respects_pure _
  unfold takeFrame
  refine respects_get_bind (fun r t h => ?_) fun r => ?_
  · unfold compares
    rw [h.format]
  · split
    · exact (respects_resetFormat _ _).bind fun _ => fill
    · exact fill

/-- **What has arrived is taken** without a look at effects that do not count. -/
theorem respects_prepare : (prepare : Step (Renderer δ) Bool).Respects Resembles := by
  have consume (pending : Pending) : (consume pending : Step (Renderer δ) Bool).Respects
      Resembles := by
    unfold Renderer.consume
    refine Respects.bind ?_ fun _ => Respects.bind ?_ fun _ => respects_pure _
    · unfold takePending
      split
      · exact respects_takeFrame _ _
      · exact respects_pure _
    · unfold takeCanvas
      have upload := respects_onOverlay (δ := δ) OsdLayer.respects_upload
      split
      · next canvas _ =>
        refine (respects_modify fun _ _ h => ?_).bind fun _ => upload
        exact { h with overlay := congrArg (·.setImage canvas) h.overlay }
      · exact upload
  intro r t h
  have same : (r.mailbox.take.1, r.mailbox.take.2.calm) =
      (t.mailbox.take.1, t.mailbox.take.2.calm) := by
    rw [← Mailbox.take_calm, h.mailbox, Mailbox.take_calm]
  unfold prepare
  rw [outcome_get_bind, outcome_get_bind]
  cases taken : r.mailbox.take with
  | mk pending mailbox =>
    cases taken' : t.mailbox.take with
    | mk pending' mailbox' =>
      rw [taken, taken'] at same
      obtain ⟨rfl, left⟩ := Prod.mk.inj same
      refine agree_bind (Agree.ended (.ok PUnit.unit) { h with mailbox := left }) fun _ r t h => ?_
      cases pending with
      | none => exact .ended (.ok false) h
      | some pending => exact consume pending r t h

/-- **The picture is drawn alike**: with the same numbers, from the same textures. -/
theorem respects_drawVideo (update : VertexUpdate Float32) :
    (drawVideo update : Step (Renderer δ) Unit).Respects Resembles := by
  unfold drawVideo
  refine respects_get_bind (fun r t h => ?_) fun r => ?_
  · rw [h.program, h.format, h.textures, h.shader.uniforms_eq]
  · split
    · split
      · exact respects_pure _
      · exact (respects_onDevice _).bind fun _ => respects_onDevice _
    · exact respects_pure _

/-- **The picture and the overlay are drawn alike**: the picture shows the same part
of its textures. -/
theorem respects_drawContents : (drawContents : Step (Renderer δ) Unit).Respects Resembles := by
  have drawn (update : VertexUpdate Float32) (rect : Rect Float32) : (do
      drawVideo update
      let _ ← onOverlay (OsdLayer.draw rect) : Step (Renderer δ) Unit).Respects Resembles :=
    (respects_drawVideo update).bind fun _ =>
      (respects_onOverlay (OsdLayer.respects_draw rect)).bind fun _ => respects_pure _
  intro r t h
  have same : r.geometry.updateVertex r.shader.effects =
      t.geometry.updateVertex t.shader.effects := by
    unfold Resolver.updateVertex
    rw [h.geometry, h.shader.effects.ofFormat_eq]
  unfold drawContents
  rw [outcome_get_bind, outcome_get_bind, same]
  dsimp only
  refine agree_bind (agree_set { h with geometry := rfl }) fun _ r t h => ?_
  split
  · exact (Respects.bind (respects_modify fun _ _ h => h.emit _) fun _ => drawn _ _) r t h
  · exact drawn _ _ r t h

/-- **A pass is drawn alike.** -/
theorem respects_render : (render : Step (Renderer δ) Unit).Respects Resembles := by
  unfold render
  refine respects_ensureProgram.bind fun _ => respects_get_bind (fun r t h => ?_) fun r => ?_
  · rw [h.item, h.clearColor]
  · refine (respects_onDevice _).bind fun _ => respects_drawContents.attempt.bind fun drawn => ?_
    exact (respects_onDevice _).attempt.bind fun ended => respects_ofExcept _

/-- Everything is dropped alike. -/
theorem Resembles.release {r t : Renderer δ} (h : r.Resembles t) :
    r.release.Resembles t.release := by
  have device : (UploadEngine.release (r.textures, r.bench)).2.device =
      (UploadEngine.release (t.textures, t.bench)).2.device := by
    rw [h.textures]
    exact congrArg (UploadEngine.dropAll t.textures.slots.toList) h.device
  -- what is left of the textures is a count, and of the overlay whether it is shown
  have parts : Resembles
      ({ r with
        textures := { UploadEngine.initial with drawnFrames := r.textures.drawnFrames }
        overlay := .initial r.overlay.enabled
        bench := (OsdLayer.release (r.overlay, (UploadEngine.release (r.textures, r.bench)).2)).2 })
      { t with
        textures := { UploadEngine.initial with drawnFrames := t.textures.drawnFrames }
        overlay := .initial t.overlay.enabled
        bench :=
          (OsdLayer.release (t.overlay, (UploadEngine.release (t.textures, t.bench)).2)).2 } := by
    rw [h.overlay, congrArg UploadEngine.drawnFrames h.textures]
    refine { h with device := ?_, textures := rfl, overlay := rfl }
    exact congrArg (fun d => (OsdLayer.release (t.overlay, Bench.of d)).2.device) device
  exact { parts.dropProgram with
    programKey := rfl
    format := rfl
    geometry := congrArg (fun g => (g.setFormat .empty).2) parts.dropProgram.geometry }

end Steps

end Renderer

/-! ## Requests -/

/-- **The same request but for effects that do not count.** -/
inductive Request.Alike : Request → Request → Prop where
  /-- The same request. -/
  | same (request : Request) : Alike request request
  /-- Effects that are alike are to be taken. -/
  | setEffects {e e' : Effects} (h : e.Alike e') : Alike (.setEffects e) (.setEffects e')
  /-- Configurations that differ in effects that are alike are to be taken. -/
  | applyConfig (c : RendererConfig) {e e' : Effects} (h : e.Alike e') :
      Alike (.applyConfig { c with effects := e }) (.applyConfig { c with effects := e' })

/-- **The same move but for effects that do not count.** -/
inductive Move.Alike {δ : Type} : Move δ → Move δ → Prop where
  /-- The requests are alike. -/
  | ask {x y : Request} (h : x.Alike y) : Alike (.ask x) (.ask y)
  /-- The device is changed in the same way. -/
  | adjust (change : δ → δ) : Alike (.adjust change) (.adjust change)

namespace Renderer.Resembles

open Step

variable {δ : Type} [Device δ] {r t : Renderer δ}

omit [Device δ] in
/-- Steps that agree are answered alike. -/
theorem answered {α : Type} {m : Step (Renderer δ) α} (respects : m.Respects Resembles)
    (h : r.Resembles t) (f : α → Answer) :
    (∃ answer r' t', Renderer.answered m f r = .ok (answer, r') ∧
      Renderer.answered m f t = .ok (answer, t') ∧ r'.Resembles t') ∨
    ∃ fault, Renderer.answered m f r = .error fault ∧ Renderer.answered m f t = .error fault := by
  have agree := respects r t h
  unfold Renderer.answered
  generalize m.outcome r = x, m.outcome t = y at agree
  cases agree with
  | broken fault => exact .inr ⟨fault, rfl, rfl⟩
  | ended answer h =>
    cases answer with
    | error e => exact .inl ⟨.failed e, _, _, rfl, rfl, h⟩
    | ok a => exact .inl ⟨f a, _, _, rfl, rfl, h⟩

/-- **Requests that are alike are carried out alike**, or break in the same way.
Only a setting may tell the two apart, since it says whether anything was changed. -/
theorem perform (h : r.Resembles t) {x y : Request} (alike : x.Alike y) :
    (∃ answer r' answer' t', r.perform x = .ok (answer, r') ∧ t.perform y = .ok (answer', t') ∧
      r'.Resembles t' ∧ (x.isSetting = false → answer = answer')) ∨
    ∃ fault, r.perform x = .error fault ∧ t.perform y = .error fault := by
  have asked {α : Type} {m : Step (Renderer δ) α} (respects : m.Respects Resembles)
      (f : α → Answer) {p : Prop} :
      (∃ answer r' answer' t', Renderer.answered m f r = .ok (answer, r') ∧
        Renderer.answered m f t = .ok (answer', t') ∧ r'.Resembles t' ∧ (p → answer = answer')) ∨
      ∃ fault, Renderer.answered m f r = .error fault ∧
        Renderer.answered m f t = .error fault := by
    refine (h.answered respects f).imp_left ?_
    rintro ⟨answer, r', t', e, e', resembles⟩
    exact ⟨answer, r', answer, t', e, e', resembles, fun _ => rfl⟩
  cases alike with
  | setEffects alike =>
    exact .inl ⟨_, _, _, _, rfl, rfl, h.restyle (h.shader.setEffects alike), nofun⟩
  | applyConfig c alike => exact .inl ⟨_, _, _, _, rfl, rfl, h.applyConfig c alike, nofun⟩
  | same =>
    cases x with
    | present frame check =>
      exact .inl ⟨_, _, _, _, rfl, rfl, h.present frame check, fun _ => rfl⟩
    | drawOsd bitmaps =>
      obtain ⟨r', t', e, e', resembles⟩ | ⟨fault, e, e'⟩ := h.drawOsd bitmaps
      · refine .inl ⟨.done, r', .done, t', ?_, ?_, resembles, fun _ => rfl⟩
        · exact congrArg (Except.bind · done) e
        · exact congrArg (Except.bind · done) e'
      · refine .inr ⟨fault, ?_, ?_⟩
        · exact congrArg (Except.bind · done) e
        · exact congrArg (Except.bind · done) e'
    | prepare => exact asked respects_prepare .flag
    | render => exact asked respects_render fun _ => .done
    | resize item => exact .inl ⟨_, _, _, _, rfl, rfl, h.resize item, nofun⟩
    | setAlignment alignment =>
      exact .inl ⟨_, _, _, _, rfl, rfl, h.wish (·.setAlignment alignment), nofun⟩
    | setAspect ratio => exact .inl ⟨_, _, _, _, rfl, rfl, h.wish (·.setAspect ratio), nofun⟩
    | setCrop ratio => exact .inl ⟨_, _, _, _, rfl, rfl, h.wish (·.setCrop ratio), nofun⟩
    | setDisplayAspect ratio =>
      exact .inl ⟨_, _, _, _, rfl, rfl, h.setDisplayAspect ratio, nofun⟩
    | setOffset offset => exact .inl ⟨_, _, _, _, rfl, rfl, h.setOffset offset, nofun⟩
    | setEffects e =>
      exact .inl ⟨_, _, _, _, rfl, rfl, h.restyle (h.shader.setEffects (.refl e)), nofun⟩
    | setColor color =>
      exact .inl ⟨_, _, _, _, rfl, rfl, h.restyle (h.shader.setColor color), nofun⟩
    | setColorSpace space range =>
      exact .inl ⟨_, _, _, _, rfl, rfl, h.restyle (h.shader.setColorSpace space range), nofun⟩
    | setOsdEnabled enabled =>
      exact .inl ⟨_, _, _, _, rfl, rfl, h.setOsdEnabled enabled, nofun⟩
    | setClearColor color =>
      exact .inl ⟨_, _, _, _, rfl, rfl, { h with clearColor := rfl }, nofun⟩
    | applyConfig c =>
      exact .inl ⟨_, _, _, _, rfl, rfl, h.applyConfig c (.refl c.effects), nofun⟩
    | release => exact .inl ⟨_, _, _, _, rfl, rfl, h.release, fun _ => rfl⟩
    | receiveRedraw => exact .inl ⟨_, _, _, _, rfl, rfl, h.receiveRedraw, nofun⟩

end Renderer.Resembles

/-! ## Runs -/

/-- **Two moves that were made alike**: on the same device, with the same calls and
the same answer. A setting may have answered something else, for it says whether
anything was changed. -/
structure Transition.Resembles {δ : Type} (x y : Transition δ) : Prop where
  /-- The device was the same before, -/
  before : x.before.bench.device = y.before.bench.device
  /-- and is the same after. -/
  after : x.after.bench.device = y.after.bench.device
  /-- The answer to a request that is not a setting is the same. -/
  answer : ∀ request, x.move = .ask request → request.isSetting = false → x.answer = y.answer

variable {δ : Type} [Device δ] {start : Renderer δ} {past past' : List (Transition δ)}
  {r t : Renderer δ}

/-- **Two runs with moves that are alike** lead to renderers that resemble each
other. -/
theorem Run.resembles (run : Run start past r) (run' : Run start past' t)
    (moves : List.Forall₂ Move.Alike (past.map Transition.move) (past'.map Transition.move)) :
    r.Resembles t ∧ List.Forall₂ Transition.Resembles past past' := by
  induction run generalizing past' t with
  | start =>
    cases run' with
    | start => exact ⟨.refl _, .nil⟩
    | ask => cases moves
    | adjust => cases moves
  | @ask past r request answer r' run e ih =>
    cases run' with
    | start => cases moves
    | adjust =>
      obtain ⟨⟨⟩, -⟩ := List.forall₂_cons.1 moves
    | ask run' e' =>
      obtain ⟨⟨alike⟩, rest⟩ := List.forall₂_cons.1 moves
      obtain ⟨resembles, each⟩ := ih run' rest
      obtain ⟨_, _, _, _, f, f', after, answers⟩ | ⟨_, f, -⟩ := resembles.perform alike
      · cases e.symm.trans f
        cases e'.symm.trans f'
        refine ⟨after, .cons ⟨resembles.device, after.device, ?_⟩ each⟩
        intro _ same setting
        cases same
        exact answers setting
      · cases e.symm.trans f
  | adjust run change ih =>
    cases run' with
    | start => cases moves
    | ask =>
      obtain ⟨⟨⟩, -⟩ := List.forall₂_cons.1 moves
    | adjust run' =>
      obtain ⟨⟨⟩, rest⟩ := List.forall₂_cons.1 moves
      obtain ⟨resembles, each⟩ := ih run' rest
      have device := congrArg change resembles.device
      exact ⟨{ resembles with device }, .cons ⟨resembles.device, device, fun _ _ _ => rfl⟩ each⟩

/-- **Moves that are alike can be made** where the others were. -/
theorem Run.exists_alike (run : Run start past r) {moves : List (Move δ)}
    (alike : List.Forall₂ Move.Alike (past.map Transition.move) moves) :
    ∃ past' t, Run start past' t ∧ past'.map Transition.move = moves := by
  induction run generalizing moves with
  | start =>
    cases alike
    exact ⟨[], start, .start, rfl⟩
  | @ask past r request answer r' run e ih =>
    obtain ⟨move, moves, first, rest, rfl⟩ := List.forall₂_cons_left_iff.1 alike
    obtain ⟨requests⟩ := first
    obtain ⟨past', t, run', rfl⟩ := ih rest
    obtain ⟨resembles, -⟩ := run.resembles run' rest
    obtain ⟨_, _, answer', t', f, f', -, -⟩ | ⟨_, f, -⟩ := resembles.perform requests
    · exact ⟨_, t', .ask run' f', rfl⟩
    · cases e.symm.trans f
  | adjust run change ih =>
    obtain ⟨move, moves, ⟨⟩, rest, rfl⟩ := List.forall₂_cons_left_iff.1 alike
    obtain ⟨past', t, run', rfl⟩ := ih rest
    exact ⟨_, _, .adjust run' change, rfl⟩

end Projector
