import Mathlib.Logic.Relation
import Projector.Proofs.Redraw

/-!
# What layout code sees

Layout code sees little of a renderer: the item, the format, the state of the
geometry and the events. Whatever is asked of a renderer, this changes in
small steps of six kinds. The item is resized, the wishes are adjusted,
another format is shown, and after each of these the picture's rectangle is
worked out anew; a format is told of; the visible box is moved; a pass is laid
out.

There is a seventh kind. The geometry follows another format, and the
rectangle is not worked out. This is how a format comes to be shown that is
not shown in the end, because a device refuses its textures, and it is what a
release does. Each request is a chain of small steps, and
`Scene.Change.followed` is among them only if the request is a release, or a
preparation that was refused.

What every small step keeps is then true after every run.
-/

namespace Projector

/-- **What layout code sees of a renderer.** -/
structure Scene where
  /-- The item. -/
  item : Rect Float32
  /-- The format that is shown. -/
  format : VideoFormat
  /-- Where the picture goes. -/
  geometry : Resolver Float32 Float
  /-- The events, the first one first. -/
  events : Array RenderEvent

namespace Scene

/-- Before anything is known. -/
def initial : Scene := ⟨Rect.zero, .empty, .initial, #[]⟩

/-- A pass is laid out: the visible part is worked out, and told of if it is
another one. -/
def lay (s : Scene) (effects : Effects) : Scene :=
  let (update, geometry) := s.geometry.updateVertex effects
  { s with
    geometry
    events := if update.screenChanged then s.events.push (.screenRectChanged update.screen)
      else s.events }

/-- **One small step.** Whether the geometry may follow a format on its own is
a matter of what was asked. -/
inductive Change (follows : Prop) : Scene → Scene → Prop
  /-- The item is resized. -/
  | resized (s : Scene) (item : Rect Float32) :
      Change follows s { s with item, geometry := (s.geometry.setItem item.size).2.update.2 }
  /-- Something is wished for. -/
  | adjusted (s : Scene) (geometry : Resolver Float32 Float)
      (item : geometry.item = s.geometry.item) (format : geometry.format = s.geometry.format)
      (offset : geometry.offset = s.geometry.offset)
      (letterbox : geometry.letterbox = s.geometry.letterbox) :
      Change follows s { s with geometry := geometry.update.2 }
  /-- Another format is shown. -/
  | shown (s : Scene) (format : VideoFormat) :
      Change follows s { s with format, geometry := (s.geometry.setFormat format).2.update.2 }
  /-- A format is told of. -/
  | told (s : Scene) (format : VideoFormat) :
      Change follows s { s with events := s.events.push (.formatChanged format) }
  /-- The visible box is moved. -/
  | moved (s : Scene) (offset : Offset) (other : (s.geometry.offset != offset) = true) :
      Change follows s { s with
        geometry := (s.geometry.setOffset offset).2
        events := s.events.push (.offsetChanged offset) }
  /-- A pass is laid out. -/
  | laid (s : Scene) (effects : Effects) : Change follows s (s.lay effects)
  /-- The geometry follows another format, and no more. -/
  | followed (may : follows) (s : Scene) (format : VideoFormat) :
      Change follows s { s with format, geometry := (s.geometry.setFormat format).2 }

/-- **Any number of small steps.** -/
abbrev Leads (follows : Prop) : Scene → Scene → Prop := Relation.ReflTransGen (Change follows)

variable {s t : Scene} {follows follows' : Prop}

theorem Change.mono (h : follows → follows') (change : Change follows s t) :
    Change follows' s t := by
  cases change with
  | resized _ item => exact .resized _ item
  | adjusted _ geometry item format offset letterbox =>
    exact .adjusted _ geometry item format offset letterbox
  | shown _ format => exact .shown _ format
  | told _ format => exact .told _ format
  | moved _ offset other => exact .moved _ offset other
  | laid _ effects => exact .laid _ effects
  | followed may _ format => exact .followed (h may) _ format

theorem Leads.mono (h : follows → follows') (leads : Leads follows s t) : Leads follows' s t :=
  Relation.ReflTransGen.mono (fun _ _ => Change.mono h) _ _ leads

/-- **What every small step keeps, any number of them keep.** -/
theorem Leads.keeps {p : Scene → Prop} (leads : Leads follows s t)
    (next : ∀ s t, Change follows s t → p s → p t) (first : p s) : p t := by
  induction leads with
  | refl => exact first
  | tail _ change ih => exact next _ _ change ih

end Scene

namespace Renderer

open Step Scene

variable {δ : Type}

/-- What layout code sees. -/
def scene (r : Renderer δ) : Scene := ⟨r.item, r.format, r.geometry, r.events⟩

/-! ## Settings -/

@[simp] theorem scene_report (e : LogEvent) (r : Renderer δ) : (r.report e).scene = r.scene := rfl

@[simp] theorem scene_requestRedraw (r : Renderer δ) : r.requestRedraw.scene = r.scene := by
  unfold requestRedraw
  dsimp only
  split <;> rfl

theorem scene_updateGeometry (r : Renderer δ) :
    r.updateGeometry.scene = { r.scene with geometry := r.geometry.update.2 } := by
  unfold updateGeometry
  dsimp only
  split <;> rfl

theorem scene_restyle (r : Renderer δ) (change : Bool × ShaderParams) :
    (r.restyle change).2.scene = r.scene := by
  unfold restyle
  dsimp only
  split
  · rw [scene_requestRedraw]
    rfl
  · rfl

theorem leads_restyle (r : Renderer δ) (change : Bool × ShaderParams) :
    Leads False r.scene (r.restyle change).2.scene := by
  rw [scene_restyle]

theorem scene_setOsdEnabled (r : Renderer δ) (enabled : Bool) :
    (r.setOsdEnabled enabled).scene = r.scene := by
  unfold setOsdEnabled
  split
  · rfl
  · rw [scene_requestRedraw]
    rfl

/-- A wish that is another one is followed, and one that is not changes
nothing. -/
theorem leads_refresh (r : Renderer δ) {change : Bool × Resolver Float32 Float}
    (kept : change.1 = false → change.2 = r.geometry)
    (item : change.2.item = r.geometry.item) (format : change.2.format = r.geometry.format)
    (offset : change.2.offset = r.geometry.offset)
    (letterbox : change.2.letterbox = r.geometry.letterbox) :
    Leads False r.scene (r.refresh change).2.scene := by
  obtain ⟨changed, geometry⟩ := change
  cases changed with
  | false =>
    cases kept rfl
    exact .refl
  | true =>
    show Leads False r.scene (requestRedraw _).scene
    rw [scene_requestRedraw, scene_updateGeometry]
    exact .single (.adjusted r.scene geometry item format offset letterbox)

theorem leads_setAlignment (r : Renderer δ) (alignment : Alignment) :
    Leads False r.scene (r.setAlignment alignment).2.scene := by
  refine leads_refresh r (fun h => ?_) rfl rfl rfl rfl
  have same : r.geometry.alignment = alignment := bne_eq_false_iff_eq.1 h
  cases same
  rfl

theorem leads_setAspect (r : Renderer δ) (ratio : Float) :
    Leads False r.scene (r.setAspect ratio).2.scene := by
  unfold setAspect Resolver.setAspect
  split
  · exact leads_refresh r (fun _ => rfl) rfl rfl rfl rfl
  · exact leads_refresh r nofun rfl rfl rfl rfl

theorem leads_setCrop (r : Renderer δ) (ratio : Float) :
    Leads False r.scene (r.setCrop ratio).2.scene := by
  unfold setCrop Resolver.setCrop
  split
  · exact leads_refresh r (fun _ => rfl) rfl rfl rfl rfl
  · exact leads_refresh r nofun rfl rfl rfl rfl

theorem leads_setDisplayAspect (r : Renderer δ) (ratio : Float) :
    Leads False r.scene (r.setDisplayAspect ratio).scene := by
  unfold setDisplayAspect
  rw [scene_updateGeometry]
  exact .single (.adjusted r.scene (r.geometry.setDisplayAspect ratio) rfl rfl rfl rfl)

theorem leads_resize (r : Renderer δ) (item : Rect Float32) :
    Leads False r.scene (r.resize item).2.scene := by
  unfold resize
  split
  · exact .refl
  · show Leads False r.scene (requestRedraw _).scene
    rw [scene_requestRedraw, scene_updateGeometry]
    exact .single (.resized r.scene item)

theorem leads_setOffset (r : Renderer δ) (offset : Offset) :
    Leads False r.scene (r.setOffset offset).2.scene := by
  unfold setOffset Resolver.setOffset
  dsimp only
  split
  · next other =>
    rw [scene_requestRedraw]
    exact .single (.moved r.scene offset other)
  · next same =>
    cases Offset.eq_of_bne same
    exact .refl

theorem leads_applyConfig (r : Renderer δ) (c : RendererConfig) :
    Leads False r.scene (r.applyConfig c).scene := by
  have shown (r : Renderer δ) : Renderer.scene { r with
      overlay := r.overlay.setEnabled c.osd
      clearColor := c.clearColor } = r.scene := rfl
  unfold applyConfig
  dsimp only
  rw [shown]
  unfold setColorSpace setColor setEffects
  rw [scene_restyle, scene_restyle, scene_restyle]
  exact (((leads_setAspect r _).trans (leads_setCrop _ _)).trans (leads_setAlignment _ _)).trans
    (leads_setOffset _ _)

/-- **A renderer is made in small steps**, from one that knows nothing. -/
theorem leads_withConfig (device : δ) (c : RendererConfig) :
    Leads False .initial (withConfig device c).scene :=
  leads_applyConfig (bare device c.osd c.clearColor) c

/-! ## Steps -/

section Steps

variable {α β : Type} {m : Step (Renderer δ) α}

/-- **A step that is answered leads on in small steps.** If it is refused, the
geometry may have followed a format on its own, where this is allowed. -/
def Lays (follows : Prop) (m : Step (Renderer δ) α) : Prop :=
  ∀ r, m.Ends r (fun _ t => Leads False r.scene t.scene) (fun _ t => Leads follows r.scene t.scene)
    fun _ => True

variable {follows : Prop}

theorem Lays.of_keeps (h : m.Keeps scene) : Lays follows m := by
  intro r
  refine (h r).mono (fun _ t same => ?_) (fun _ t same => ?_) fun _ => id
  · rw [same]
  · rw [same]

theorem Lays.bind {m : Step (Renderer δ) β} {f : β → Step (Renderer δ) α} (h : Lays follows m)
    (hf : ∀ b, Lays follows (f b)) : Lays follows (m >>= f) := by
  intro r
  rw [ends_bind]
  refine (h r).mono (fun b t first => ?_) (fun _ _ => id) fun _ => id
  exact (hf b t).mono (fun _ _ next => first.trans next)
    (fun _ _ next => (first.mono False.elim).trans next) fun _ => id

theorem Lays.attempt (h : Lays False m) : Lays follows (Step.attempt m) := by
  intro r
  rw [ends_attempt]
  exact h r

theorem keeps_scene_onTextures (m : Step (UploadEngine × Bench δ) α) :
    (onTextures m).Keeps scene := keeps_zoom m fun _ _ => rfl

theorem keeps_scene_onOverlay (m : Step (OsdLayer × Bench δ) α) :
    (onOverlay m).Keeps scene := keeps_onOverlay (fun _ _ _ => rfl) m

theorem keeps_scene_onDevice (m : Step δ α) : (onDevice m : Step (Renderer δ) α).Keeps scene :=
  keeps_onDevice (fun _ _ => rfl) m

variable [Device δ]

theorem scene_dropProgram (r : Renderer δ) : r.dropProgram.scene = r.scene := by
  unfold dropProgram
  split <;> rfl

theorem keeps_scene_ensureProgram : (ensureProgram : Step (Renderer δ) Unit).Keeps scene :=
  keeps_ensureProgram fun _ _ _ _ => rfl

/-- **Another format is shown**, or it was refused and only followed. -/
theorem lays_resetFormat (format : VideoFormat) (notify : Bool) :
    Lays True (resetFormat format notify : Step (Renderer δ) Unit) := by
  intro r
  -- the textures are made between the geometry and the rectangle
  let followed : Scene := { r.scene with format, geometry := (r.geometry.setFormat format).2 }
  have refused {t : Renderer δ} (ht : t.scene = followed) : Leads True r.scene t.scene := by
    rw [ht]
    exact .single (.followed trivial r.scene format)
  have answered {t : Renderer δ} (ht : t.scene = followed) :
      Leads False r.scene t.updateGeometry.scene := by
    have geometry : t.geometry = followed.geometry := congrArg Scene.geometry ht
    rw [scene_updateGeometry, ht, geometry]
    exact .single (.shown r.scene format)
  unfold resetFormat
  rw [ends_bind, ends_modify, ends_bind]
  refine (keeps_scene_onOverlay _ _).mono (fun _ s hs => ?_) (fun _ s hs => refused hs) fun _ => id
  rw [ends_bind]
  refine (keeps_scene_onTextures _ s).mono (fun _ t ht => ?_)
    (fun _ t ht => refused (ht.trans hs)) fun _ => id
  rw [ends_bind, ends_modify]
  have shown := answered (ht.trans hs)
  cases notify with
  | false => exact shown
  | true => exact shown.tail (.told _ format)

theorem lays_uploadFrame (frame : VideoFrame) :
    Lays True (uploadFrame frame : Step (Renderer δ) Bool) := by
  have upload := keeps_scene_onTextures (δ := δ) (UploadEngine.upload frame)
  unfold uploadFrame
  refine Lays.bind (.of_keeps upload.attempt) fun uploaded => ?_
  split
  · exact .of_keeps (keeps_pure _)
  · refine Lays.bind (.of_keeps (keeps_modify fun _ => rfl)) fun _ => ?_
    refine Lays.bind (lays_resetFormat frame.format false) fun _ => ?_
    exact Lays.bind (.of_keeps keeps_scene_ensureProgram) fun _ => .of_keeps upload
  · exact .of_keeps fun _ => rfl

theorem lays_takeFrame (frame : VideoFrame) (check : Bool) :
    Lays True (takeFrame frame check : Step (Renderer δ) Bool) := by
  have rest : Lays True (fill frame : Step (Renderer δ) Bool) :=
    Lays.bind (.of_keeps keeps_scene_ensureProgram) fun _ =>
      Lays.bind (lays_uploadFrame frame) fun _ =>
        .of_keeps (Keeps.bind (keeps_modify fun _ => rfl) fun _ => keeps_pure _)
  intro r
  refine takeFrame_ends_of (fun _ => ?_) fun _ => rest r
  exact Lays.bind (lays_resetFormat frame.format true) (fun _ => rest) r

theorem keeps_scene_takeCanvas (pending : Pending) :
    (takeCanvas pending : Step (Renderer δ) Unit).Keeps scene := by
  unfold takeCanvas
  split
  · exact Keeps.bind (keeps_modify fun _ => rfl) fun _ => keeps_scene_onOverlay _
  · exact keeps_scene_onOverlay _

theorem lays_prepare : Lays True (prepare : Step (Renderer δ) Bool) := by
  have taken (pending : Pending) : Lays True (takePending pending : Step (Renderer δ) Bool) := by
    unfold takePending
    split
    · exact lays_takeFrame _ _
    · exact .of_keeps (keeps_pure _)
  intro r
  refine prepare_ends_of (fun _ _ => .refl) fun pending mailbox _ => ?_
  have consumed : Lays True (consume pending : Step (Renderer δ) Bool) :=
    Lays.bind (taken pending) fun _ =>
      .of_keeps (Keeps.bind (keeps_scene_takeCanvas pending) fun _ => keeps_pure _)
  exact consumed { r with mailbox }

theorem keeps_scene_drawVideo (update : VertexUpdate Float32) :
    (drawVideo update : Step (Renderer δ) Unit).Keeps scene :=
  keeps_drawVideo (fun _ _ => rfl) update

/-- **A pass is laid out**, whatever becomes of it. -/
theorem drawContents_ends_lay (r : Renderer δ) :
    (drawContents : Step (Renderer δ) Unit).Ends r
      (fun _ t => t.scene = r.scene.lay r.shader.effects)
      (fun _ t => t.scene = r.scene.lay r.shader.effects) fun _ => True := by
  -- what is drawn leaves the scene
  have rest (update : VertexUpdate Float32) (geometry : Resolver Float32 Float) {s : Renderer δ}
      (laid : s.scene = r.scene.lay r.shader.effects) : (do
        drawVideo update
        let _ ← onOverlay (OsdLayer.draw geometry.cached) : Step (Renderer δ) Unit).Ends s
        (fun _ t => t.scene = r.scene.lay r.shader.effects)
        (fun _ t => t.scene = r.scene.lay r.shader.effects) fun _ => True := by
    have overlay := keeps_scene_onOverlay (δ := δ) (OsdLayer.draw geometry.cached)
    have keeps := Keeps.bind (keeps_scene_drawVideo update) fun _ =>
      overlay.bind fun _ => keeps_pure ()
    exact (keeps s).mono (fun _ _ same => same.trans laid) (fun _ _ same => same.trans laid)
      fun _ => id
  unfold drawContents Scene.lay at *
  rw [ends_bind, ends_get]
  cases h : r.geometry.updateVertex r.shader.effects with
  | mk update geometry =>
  rw [show r.scene.geometry = r.geometry from rfl, h] at rest
  rw [show r.scene.geometry = r.geometry from rfl, h]
  dsimp only at rest ⊢
  rw [ends_bind, ends_set]
  split
  · next changed =>
    rw [if_pos changed] at rest
    rw [ends_bind, ends_modify]
    exact rest update geometry rfl
  · next same =>
    rw [if_neg same] at rest
    exact rest update geometry rfl

/-- **A pass is laid out, or it was refused before.** -/
theorem render_ends_lay (r : Renderer δ) :
    (render : Step (Renderer δ) Unit).Ends r
      (fun _ t => t.scene = r.scene.lay r.shader.effects)
      (fun _ t => t.scene = r.scene ∨ t.scene = r.scene.lay r.shader.effects) fun _ => True := by
  let seen (s : Renderer δ) := (s.scene, s.shader)
  -- the pass is ended, whatever was drawn
  have ending (drawn : Except Error Unit) {t : Renderer δ}
      (laid : t.scene = r.scene.lay r.shader.effects) : (do
        let ended ← Step.attempt (onDevice Device.endPass)
        Step.ofExcept (drawn.bind fun _ => ended) : Step (Renderer δ) Unit).Ends t
        (fun _ u => u.scene = r.scene.lay r.shader.effects)
        (fun _ u => u.scene = r.scene ∨ u.scene = r.scene.lay r.shader.effects) fun _ => True := by
    have keeps := (keeps_scene_onDevice (δ := δ) Device.endPass).attempt.bind fun ended =>
      keeps_ofExcept (drawn.bind fun _ => ended)
    exact (keeps t).mono (fun _ _ same => same.trans laid)
      (fun _ _ same => .inr (same.trans laid)) fun _ => id
  unfold render
  rw [ends_bind]
  have ensures : (ensureProgram : Step (Renderer δ) Unit).Keeps seen :=
    keeps_ensureProgram fun _ _ _ _ => rfl
  refine (ensures r).mono (fun _ s same => ?_)
    (fun _ _ same => .inl (congrArg Prod.fst same)) fun _ => id
  rw [ends_bind, ends_get, ends_bind]
  have begins := keeps_onDevice (p := seen) (fun _ _ => rfl)
    (Device.beginPass s.item.size s.clearColor)
  refine (begins s).mono (fun _ t begun => ?_)
    (fun _ _ begun => .inl (congrArg Prod.fst (begun.trans same))) fun _ => id
  obtain ⟨scene, shader⟩ := Prod.mk.inj (begun.trans same)
  rw [ends_bind, ends_attempt, ← scene, ← shader]
  rw [← scene, ← shader] at ending
  exact (drawContents_ends_lay t).mono (fun _ _ => ending _) (fun _ _ => ending _) fun _ => id

theorem lays_render : Lays False (render : Step (Renderer δ) Unit) := by
  intro r
  have laid (t : Renderer δ) (h : t.scene = r.scene.lay r.shader.effects) :
      Leads False r.scene t.scene := h ▸ .single (.laid r.scene _)
  refine (render_ends_lay r).mono (fun _ => laid) (fun _ t h => ?_) fun _ => id
  obtain same | h := h
  · rw [same]
  · exact laid t h

end Steps

/-! ## Requests -/

end Renderer

/-- Whether the geometry may follow a format on its own: at a release, and in a
preparation that was refused. -/
def Request.Follows (request : Request) (answer : Answer) : Prop :=
  request = release ∨ request = prepare ∧ ∃ error, answer = .failed error

namespace Renderer

open Scene

variable {δ : Type} [Device δ]

theorem scene_release (r : Renderer δ) : r.release.scene =
    { r.scene with format := .empty, geometry := (r.geometry.setFormat .empty).2 } := by
  unfold release
  dsimp only
  generalize hs : dropProgram (δ := δ) _ = s
  have same : s.scene = r.scene := by
    rw [← hs, scene_dropProgram]
    rfl
  have item : s.item = r.item := congrArg Scene.item same
  have geometry : s.geometry = r.geometry := congrArg Scene.geometry same
  have events : s.events = r.events := congrArg Scene.events same
  show Scene.mk s.item .empty (s.geometry.setFormat .empty).2 s.events = _
  rw [item, geometry, events]
  rfl

/-- **Every request leads on in small steps.** -/
theorem perform_leads {r t : Renderer δ} {request : Request} {answer : Answer}
    (e : r.perform request = .ok (answer, t)) :
    Leads (request.Follows answer) r.scene t.scene := by
  have settled {t : Renderer δ} (h : Leads False r.scene t.scene) :
      Leads (request.Follows answer) r.scene t.scene := h.mono False.elim
  cases request with
  | present frame check =>
    cases e
    show Leads _ r.scene (requestRedraw _).scene
    rw [scene_requestRedraw]
    exact .refl
  | drawOsd bitmaps =>
    obtain ⟨r', hr, e⟩ := Checked.bind_eq_ok.1 e
    cases e
    unfold drawOsd at hr
    obtain ⟨composed, -, hr⟩ := Checked.bind_eq_ok.1 hr
    cases hr
    rw [scene_requestRedraw]
    exact .refl
  | prepare =>
    obtain ⟨a, hm, rfl⟩ | ⟨x, hm, rfl⟩ := answered_eq_ok e
    · exact settled ((lays_prepare r).of_ok hm)
    · exact Leads.mono (fun _ => .inr ⟨rfl, x, rfl⟩) ((lays_prepare r).of_error hm)
  | render =>
    obtain ⟨a, hm, -⟩ | ⟨x, hm, -⟩ := answered_eq_ok e
    · exact settled ((lays_render r).of_ok hm)
    · exact settled ((lays_render r).of_error hm)
  | release =>
    cases e
    rw [scene_release]
    exact .single (.followed (.inl rfl) r.scene .empty)
  | resize item =>
    cases e
    exact settled (leads_resize r item)
  | setAlignment alignment =>
    cases e
    exact settled (leads_setAlignment r alignment)
  | setAspect ratio =>
    cases e
    exact settled (leads_setAspect r ratio)
  | setCrop ratio =>
    cases e
    exact settled (leads_setCrop r ratio)
  | setDisplayAspect ratio =>
    cases e
    exact settled (leads_setDisplayAspect r ratio)
  | setOffset offset =>
    cases e
    exact settled (leads_setOffset r offset)
  | applyConfig config =>
    cases e
    exact settled (leads_applyConfig r config)
  | setEffects | setColor | setColorSpace =>
    cases e
    exact settled (leads_restyle r _)
  | setOsdEnabled enabled =>
    cases e
    rw [scene_setOsdEnabled]
  | setClearColor | receiveRedraw =>
    cases e
    exact .refl

end Renderer

/-! ## What the geometry knows -/

namespace Resolver

variable (r : Resolver Float32 Float)

/-- Working out the rectangle changes the rectangle at most. -/
theorem update_eq : r.update.2 = { r with cached := r.update.2.cached } := by
  unfold update
  dsimp only
  split <;> rfl

@[simp] theorem item_update : r.update.2.item = r.item := by rw [update_eq]

@[simp] theorem format_update : r.update.2.format = r.format := by rw [update_eq]

@[simp] theorem offset_update : r.update.2.offset = r.offset := by rw [update_eq]

@[simp] theorem letterbox_update : r.update.2.letterbox = r.letterbox := by rw [update_eq]

end Resolver

namespace Scene

variable {s t : Scene} {follows : Prop}

/-- **The geometry knows the item and the format.** -/
structure Agrees (s : Scene) : Prop where
  /-- It has the size of the item, -/
  item : s.geometry.item = s.item.size
  /-- and the format that is shown. -/
  format : s.geometry.format = s.format

theorem agrees_initial : Agrees initial := ⟨rfl, rfl⟩

theorem Agrees.change (change : Change follows s t) (h : s.Agrees) : t.Agrees := by
  cases change with
  | resized _ item => exact ⟨Resolver.item_update _, (Resolver.format_update _).trans h.format⟩
  | adjusted _ geometry item format =>
    exact ⟨(Resolver.item_update _).trans (item.trans h.item),
      (Resolver.format_update _).trans (format.trans h.format)⟩
  | shown _ format => exact ⟨(Resolver.item_update _).trans h.item, Resolver.format_update _⟩
  | told | moved | laid => exact ⟨h.item, h.format⟩
  | followed _ _ format => exact ⟨h.item, rfl⟩

end Scene

/-! ## Runs -/

section Runs

variable {δ : Type} [Device δ] {device : δ} {config : RendererConfig} {r : Renderer δ}
  {past : List (Transition δ)}

/-- **A run leads on in small steps.** -/
theorem Run.leads {start : Renderer δ} (run : Run start past r) :
    Scene.Leads True start.scene r.scene := by
  induction run with
  | start => exact .refl
  | ask run e ih => exact ih.trans ((Renderer.perform_leads e).mono fun _ => trivial)
  | adjust run change ih => exact ih

/-- **What every small step keeps is true after every run** of a renderer that
was made with a configuration. -/
theorem Run.scene {p : Scene → Prop} (run : Run (.withConfig device config) past r)
    (first : p .initial) (next : ∀ s t, Scene.Change True s t → p s → p t) : p r.scene := by
  have made : p (Renderer.withConfig device config).scene :=
    ((Renderer.leads_withConfig device config).mono False.elim).keeps next first
  exact run.leads.keeps next made

/-- **After every run the geometry knows the item and the format.** -/
theorem Run.agrees (run : Run (.withConfig device config) past r) : r.scene.Agrees :=
  run.scene Scene.agrees_initial fun _ _ => Scene.Agrees.change

end Runs

end Projector
