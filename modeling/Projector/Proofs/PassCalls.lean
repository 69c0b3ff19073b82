import Projector.Proofs.Numbers
import Projector.Proofs.Recorded

/-!
# What a pass records

A pass asks a device for few things, and all of them are decided before it
begins. The program is brought up to date, the pass is begun, the picture is
drawn if there is a program and a picture, the overlay is drawn if there is
something to be seen on it, and the pass is ended. `passCalls` is this list,
read off the state, and `recorded_eq` says that it is what is recorded.

So whether two states are drawn alike can be seen without drawing them.
-/

namespace Projector

open Step Recorder

/-! ## One quad -/

/-- **Numbers are set and a quad is drawn** with a program and textures that
are there, inside a pass. -/
theorem Recorder.bindUniforms_drawQuad_ends {d : Recorder} {p : ProgramId} {source : String}
    {textures : Bindings} (opened : d.inPass = true) (live : d.programs.get? p = some source)
    (there : ∀ t, some t ∈ textures.toList → ∃ desc, d.textures.get? t = some desc)
    (u : VideoUniforms) (quad : Quad Float32) {good : Unit → Recorder → Prop}
    {refused : Error → Recorder → Prop} {broken : Fault → Prop}
    (h : good () ((d.bound p u).record (.drawQuad p textures quad))) :
    (bindUniforms p u).Ends d (fun _ d => (drawQuad p textures quad).Ends d good refused broken)
      refused broken := by
  refine (bindUniforms_ends live u).mono ?_ (fun _ _ => False.elim) fun _ => False.elim
  rintro - d' rfl
  refine (drawQuad_ends (d := d.bound p u) opened live there quad).mono ?_
    (fun _ _ => False.elim) fun _ => False.elim
  rintro - d' rfl
  exact h

/-- The two calls are recorded, one after the other. -/
theorem Recorder.calls_bound_record (d : Recorder) (p : ProgramId) (u : VideoUniforms)
    (call : DeviceRecord) :
    ((d.bound p u).record call).calls.toList = d.calls.toList ++ [.bindUniforms p, call] := by
  show ((d.calls.push _).push _).toList = _
  rw [Array.toList_push, Array.toList_push, List.append_assoc]
  rfl

/-! ## The overlay -/

namespace OsdLayer

/-- **Whether drawing the canvas compiles the program.** -/
def compiles (o : OsdLayer) (refuses : Bool) : Bool :=
  o.texture.isSome && o.isVisible && o.program.isNone && !refuses

/-- **The program to draw the canvas with**: the one that is there, or a new
one unless it is refused. -/
def nextProgram (o : OsdLayer) (refuses : Bool) (fresh : ProgramId) : Option ProgramId :=
  o.program.or (if refuses then none else some fresh)

/-- **The calls that draw the canvas** over a rectangle. -/
def drawCalls (o : OsdLayer) (refuses : Bool) (fresh : ProgramId) (rect : Rect Float32) :
    List DeviceRecord :=
  match o.texture, o.nextProgram refuses fresh with
  | some texture, some program =>
    if o.isVisible then
      (if o.program.isNone then [.createProgram program] else []) ++
        [.bindUniforms program,
          .drawQuad program ⟨#[some texture, none, none], size_bindings texture⟩
            (Quad.of rect .whole)]
    else []
  | _, _ => []

/-- **What drawing the canvas comes to.** -/
structure Recorded (rect : Rect Float32) (s t : OsdLayer × Bench Recorder) : Prop where
  /-- The calls were made. -/
  calls : t.2.device.calls.toList = s.2.device.calls.toList ++
    s.1.drawCalls s.2.device.refusesPrograms s.2.device.freshProgram rect
  /-- A number is handed out if the program was compiled. -/
  lastId : t.2.device.lastId =
    s.2.device.lastId + (s.1.compiles s.2.device.refusesPrograms).toNat

/-- Nothing is drawn where nothing is to be seen. -/
theorem Recorded.nothing {s : OsdLayer × Bench Recorder} (rect : Rect Float32)
    (none : s.1.texture = none ∨ s.1.isVisible = false) : Recorded rect s s := by
  have calls (refuses fresh) : s.1.drawCalls refuses fresh rect = [] := by
    unfold drawCalls
    obtain none | none := none
    · rw [none]
    · rw [none]
      split <;> rfl
  have compiles (refuses) : s.1.compiles refuses = false := by
    unfold compiles
    obtain none | none := none
    · rw [none]
      rfl
    · rw [none, Bool.and_false]
      rfl
  exact ⟨by rw [calls, List.append_nil], by rw [compiles]; rfl⟩

/-- **What a program for the canvas comes to.** -/
structure Equipped (p : ProgramId) (s t : OsdLayer × Bench Recorder) : Prop where
  /-- It is the next one. -/
  program : s.1.nextProgram s.2.device.refusesPrograms s.2.device.freshProgram = some p
  /-- It was compiled if it was not there. -/
  calls : t.2.device.calls.toList =
    s.2.device.calls.toList ++ if s.1.program.isNone then [.createProgram p] else []
  /-- Then a number is handed out. -/
  lastId : t.2.device.lastId =
    s.2.device.lastId + (s.1.program.isNone && !s.2.device.refusesPrograms).toNat
  /-- It can be used. -/
  live : ∃ source, t.2.device.programs.get? p = some source
  /-- The textures are the same. -/
  textures : t.2.device.textures = s.2.device.textures
  /-- A pass stays open. -/
  inPass : t.2.device.inPass = s.2.device.inPass

/-- **The program is there** unless it is refused, or is to be compiled and the
numbers are used up. -/
theorem ensureProgram_equips {s : OsdLayer × Bench Recorder}
    (live : ∀ p, s.1.program = some p → ∃ source, s.2.device.programs.get? p = some source) :
    ensureProgram.Ends s (fun p t => Equipped p s t)
      (fun _ t => t = s ∧
        s.1.nextProgram s.2.device.refusesPrograms s.2.device.freshProgram = none ∧
        (s.1.program.isNone && !s.2.device.refusesPrograms) = false)
      fun _ => UInt32.size ≤
        s.2.device.lastId + (s.1.program.isNone && !s.2.device.refusesPrograms).toNat := by
  obtain ⟨o, b⟩ := s
  unfold ensureProgram
  simp only [ends_bind, ends_get]
  split
  · next p there =>
    have there : o.program = some p := there
    refine ⟨?_, ?_, ?_, live p there, rfl, rfl⟩
    · unfold nextProgram
      rw [there]
      rfl
    · rw [there]
      exact (List.append_nil _).symm
    · rw [there]
      rfl
  · next missing =>
    have missing : o.program = none := missing
    unfold nextProgram
    rw [missing]
    simp only [ends_bind, Bench.ends_call, Bench.ends_change, ends_pure]
    refine ((createProgram_ends b.device _).and (createProgram_numbers _ _)).mono ?_ ?_ ?_
    · rintro p d ⟨⟨willing, -, rfl, rfl⟩, -⟩
      refine ⟨?_, ?_, ?_, ⟨_, (Registry.get?_put _ _ _ _).trans (if_pos rfl)⟩, rfl, rfl⟩
      · unfold nextProgram
        rw [missing, willing]
        rfl
      · rw [missing]
        exact Array.toList_push
      · rw [missing, willing]
        rfl
    · rintro e d ⟨⟨unwilling, rfl, -⟩, -⟩
      rw [unwilling]
      exact ⟨rfl, rfl, rfl⟩
    · rintro - ⟨full, willing⟩
      rw [willing]
      exact full

/-- Nothing is recorded where the program is refused. -/
theorem Recorded.refused {s : OsdLayer × Bench Recorder} (rect : Rect Float32)
    (none : s.1.nextProgram s.2.device.refusesPrograms s.2.device.freshProgram = none)
    (compiles : s.1.compiles s.2.device.refusesPrograms = false) : Recorded rect s s := by
  refine ⟨?_, by rw [compiles]; rfl⟩
  unfold drawCalls
  rw [none]
  split
  · next h => cases h
  · exact (List.append_nil _).symm

/-- **The canvas is drawn** if there is one to be seen, unless its program is
to be compiled and the numbers are used up. If the program is refused, nothing
is recorded. -/
theorem draw_records {others : List (ProgramId × String)} {s : OsdLayer × Bench Recorder}
    (holds : s.2.device.Holds "osd" s.1.held)
    (programs : s.2.device.Employs (s.1.employed ++ others))
    (opened : s.2.device.inPass = true) (rect : Rect Float32) :
    (draw rect).Ends s (fun _ t => Recorded rect s t) (fun _ t => Recorded rect s t)
      fun _ => UInt32.size ≤ s.2.device.lastId +
        (s.1.compiles s.2.device.refusesPrograms).toNat := by
  unfold draw
  simp only [ends_bind, ends_get]
  split
  next texture htexture =>
    split
    · next hidden => exact .nothing rect (.inr (by simpa using hidden))
    next hvisible =>
    have visible : s.1.isVisible = true := by simpa using hvisible
    have compiles : s.1.compiles s.2.device.refusesPrograms =
        (s.1.program.isNone && !s.2.device.refusesPrograms) := by
      unfold OsdLayer.compiles
      rw [htexture, visible]
      rfl
    rw [held_of_texture htexture] at holds
    have live (p) (h : s.1.program = some p) :
        ∃ source, s.2.device.programs.get? p = some source := by
      refine ⟨Program.overlaySource, (programs.live _ _).2 (List.mem_append_left _ ?_)⟩
      unfold employed
      rw [h]
      exact List.mem_singleton.2 rfl
    simp only [ends_bind, Bench.ends_call, ends_pure]
    rw [compiles]
    refine (ensureProgram_equips live).mono ?_ ?_ fun _ => id
    · rintro p t equipped
      obtain ⟨source, live⟩ := equipped.live
      have there (id) (h : some id ∈ (#v[some texture, none, none] : Bindings).toList) :
          ∃ desc, t.2.device.textures.get? id = some desc := by
        have same : id = texture := by simpa using h
        rw [equipped.textures, same]
        exact ⟨_, holds.live.1⟩
      refine bindUniforms_drawQuad_ends (equipped.inPass.trans opened) live there _ _ ⟨?_, ?_⟩
      · unfold drawCalls
        rw [htexture, equipped.program]
        dsimp only
        rw [if_pos visible, ← List.append_assoc, ← equipped.calls]
        exact calls_bound_record _ _ _ _
      · rw [compiles]
        exact equipped.lastId
    · rintro e t ⟨rfl, none, unasked⟩
      exact .refused rect none (compiles.trans unasked)
  next hnone => exact .nothing rect (.inl (Option.eq_none_iff_forall_ne_some.2 hnone))

end OsdLayer

namespace Renderer

/-! ## The picture -/

/-- **The calls that draw the picture** with a program, over a quad. -/
def videoCalls {δ : Type} (r : Renderer δ) (program : Option ProgramId) (quad : Quad Float32) :
    List DeviceRecord :=
  match program with
  | none => []
  | some p =>
    if r.format.isEmpty || r.textures.drawnFrames == 0 then []
    else [.bindUniforms p, .drawQuad p r.textures.textureIds quad]

/-- **The quad of the picture** in the next pass. -/
def videoQuad {δ : Type} (r : Renderer δ) : Quad Float32 :=
  let update := (r.geometry.updateVertex r.shader.effects).1
  Quad.of update.vertex update.tex

/-- **Whether there is a picture to draw.** -/
def showsPicture {δ : Type} (r : Renderer δ) : Bool :=
  !(r.format.isEmpty || r.textures.drawnFrames == 0)

/-- **The picture is drawn**, if there is one, with the numbers for the format
and the corrections of the textures. -/
theorem drawVideo_records {r : Renderer Recorder} (tidy : r.core.Tidy)
    (opened : r.bench.device.inPass = true) (update : VertexUpdate Float32) :
    (drawVideo update).Ends r
      (fun _ t => t.bench.device.calls.toList = r.bench.device.calls.toList ++
          r.videoCalls r.program (Quad.of update.vertex update.tex) ∧
        ∀ p, r.program = some p → r.showsPicture = true → t.bench.device.uniforms.get? p =
          some (r.shader.uniforms r.format r.textures.correction))
      (fun _ _ => False) fun _ => False := by
  unfold drawVideo videoCalls showsPicture
  rw [ends_bind, ends_get]
  cases hp : r.program with
  | none => exact ⟨(List.append_nil _).symm, nofun⟩
  | some p =>
    dsimp only
    cases r.format.isEmpty || r.textures.drawnFrames == 0 with
    | true => exact ⟨(List.append_nil _).symm, nofun⟩
    | false =>
      obtain ⟨source, -, live⟩ := tidy.live_program hp
      simp only [Bool.false_eq_true, if_false, ends_bind, ends_onDevice]
      refine bindUniforms_drawQuad_ends opened live (fun t ht => tidy.live_textureIds ht) _ _
        ⟨calls_bound_record _ _ _ _, fun q hq _ => ?_⟩
      cases hq
      exact (Registry.get?_put _ _ _ _).trans (if_pos rfl)

/-! ## The pass -/

/-- **How many objects a pass makes.** -/
def passNumbers (r : Renderer Recorder) : Nat :=
  (r.compiles r.format.pixelType).toNat +
    (r.overlay.compiles r.bench.device.refusesPrograms).toNat

/-- **A pass makes at most two objects**, which are programs. -/
theorem passNumbers_le (r : Renderer Recorder) : r.passNumbers ≤ 2 :=
  Nat.add_le_add (Bool.toNat_le _) (Bool.toNat_le _)

/-- **The calls between the beginning and the end of a pass**, with a program
for the picture and the next number. -/
def contentCalls (r : Renderer Recorder) (program : Option ProgramId) (fresh : ProgramId) :
    List DeviceRecord :=
  r.videoCalls program r.videoQuad ++
    r.overlay.drawCalls r.bench.device.refusesPrograms fresh r.geometry.cached

/-- **The calls of a pass.** -/
def passCalls (r : Renderer Recorder) : List DeviceRecord :=
  r.programCalls r.format.pixelType ++ .beginPass r.item.size r.clearColor ::
    (r.contentCalls (r.nextProgram r.format.pixelType)
      ⟨r.bench.device.lastId + (r.compiles r.format.pixelType).toNat + 1⟩ ++ [.endPass])

/-- **What drawing the picture and the overlay comes to.** -/
structure Sketched (r t : Renderer Recorder) : Prop where
  /-- The calls were made. -/
  calls : t.bench.device.calls.toList =
    r.bench.device.calls.toList ++ r.contentCalls r.program r.bench.device.freshProgram
  /-- A number is handed out if the program of the overlay was compiled. -/
  lastId : t.bench.device.lastId = r.bench.device.lastId +
    (r.overlay.compiles r.bench.device.refusesPrograms).toNat

/-- **What drawing the picture comes to**, before the overlay is drawn. -/
structure Filmed (r t : Renderer Recorder) : Prop where
  /-- The renderer is tidy. -/
  tidy : t.core.Tidy
  /-- The pass is open. -/
  inPass : t.bench.device.inPass = true
  /-- The calls were made. -/
  calls : t.bench.device.calls.toList =
    r.bench.device.calls.toList ++ r.videoCalls r.program r.videoQuad
  /-- The program is the same. -/
  program : t.program = r.program
  /-- The overlay is the same. -/
  overlay : t.overlay = r.overlay
  /-- The numbers were bound, if there is a picture. -/
  bound : ∀ p, r.program = some p → r.showsPicture = true → t.bench.device.uniforms.get? p =
    some (r.shader.uniforms r.format r.textures.correction)
  /-- Programs are refused as before. -/
  refuses : t.bench.device.refusesPrograms = r.bench.device.refusesPrograms
  /-- No number is handed out. -/
  lastId : t.bench.device.lastId = r.bench.device.lastId

/-- **The picture is drawn**, whatever was worked out and told of before. -/
theorem drawVideo_films {r s : Renderer Recorder} (tidy : r.core.Tidy)
    (opened : r.bench.device.inPass = true) (core : s.core = r.core)
    (overlay : s.overlay = r.overlay) (shader : s.shader = r.shader)
    {update : VertexUpdate Float32} (quad : Quad.of update.vertex update.tex = r.videoQuad) :
    (drawVideo update).Ends s (fun _ t => Filmed r t) (fun _ _ => False) fun _ => False := by
  have device : s.bench.device = r.bench.device := congrArg Core.device core
  have program : s.program = r.program := congrArg Core.program core
  have format : s.format = r.format := congrArg Core.format core
  have textures : s.textures = r.textures := congrArg Core.textures core
  have video : s.videoCalls s.program (Quad.of update.vertex update.tex) =
      r.videoCalls r.program r.videoQuad := by
    unfold videoCalls
    rw [program, quad, format, textures]
  have shows : s.showsPicture = r.showsPicture := by
    unfold showsPicture
    rw [format, textures]
  have tidy : s.core.Tidy := core ▸ tidy
  have opened : s.bench.device.inPass = true := device ▸ opened
  refine ((drawVideo_ends tidy opened update).and (drawVideo_records tidy opened update)).mono
    ?_ (fun _ _ h => h.1.elim) fun _ h => h.1.elim
  rintro - t ⟨traced, calls, bound⟩
  rw [device, video] at calls
  rw [program, shows, shader, format, textures] at bound
  exact ⟨traced.tidy, traced.inPass.trans opened, calls, by rw [traced.same, ← program],
    by rw [traced.same, ← overlay], bound,
    traced.refusesPrograms.trans (congrArg Recorder.refusesPrograms device),
    traced.lastId.trans (congrArg Recorder.lastId device)⟩

/-- **The overlay is drawn over the picture** unless its program is to be
compiled and the numbers are used up. -/
theorem Filmed.sketches {r t : Renderer Recorder} (h : Filmed r t) :
    (onOverlay (OsdLayer.draw r.geometry.cached)).Ends t (fun _ u => Sketched r u)
      (fun _ u => Sketched r u) fun _ => UInt32.size ≤ r.bench.device.lastId +
        (r.overlay.compiles r.bench.device.refusesPrograms).toNat := by
  have fresh : t.bench.device.freshProgram = r.bench.device.freshProgram :=
    congrArg (fun n => ProgramId.mk (n + 1)) h.lastId
  have sketched {o : OsdLayer} {b : Bench Recorder}
      (recorded : OsdLayer.Recorded r.geometry.cached (t.overlay, t.bench) (o, b)) :
      Sketched r { t with overlay := o, bench := b } := by
    obtain ⟨calls, lastId⟩ := recorded
    dsimp only at calls lastId
    rw [h.overlay, h.refuses, fresh, h.calls, List.append_assoc] at calls
    rw [h.overlay, h.refuses, h.lastId] at lastId
    exact ⟨calls, lastId⟩
  rw [ends_onOverlay]
  refine (OsdLayer.draw_records (s := (t.overlay, t.bench)) h.tidy.osd h.tidy.programs
    h.inPass r.geometry.cached).mono ?_ ?_ ?_
  · exact fun _ _ => sketched
  · exact fun _ _ => sketched
  · rintro - full
    dsimp only at full
    rw [h.overlay, h.refuses, h.lastId] at full
    exact full

/-- **The picture is drawn, and then the overlay.** -/
theorem drawContents_films {r : Renderer Recorder} (tidy : r.core.Tidy)
    (opened : r.bench.device.inPass = true) {good : Unit → Renderer Recorder → Prop}
    {refused : Error → Renderer Recorder → Prop} {broken : Fault → Prop}
    (overlay : ∀ t, Filmed r t → (onOverlay (OsdLayer.draw r.geometry.cached)).Ends t
      (fun _ => good ()) refused broken) :
    drawContents.Ends r good refused broken := by
  -- the geometry and its event come first, and are no part of the core
  unfold drawContents
  rw [ends_bind, ends_get]
  dsimp only
  rw [ends_bind, ends_set]
  split
  · rw [ends_bind, ends_modify, ends_bind]
    refine Ends.mono (drawVideo_films tidy opened ?_ ?_ ?_ ?_) ?_ (fun _ _ => False.elim)
      fun _ => False.elim
    · exact core_emit rfl _
    · rfl
    · rfl
    · rfl
    · exact fun _ t filmed => (ends_bind ..).2 (overlay t filmed)
  · rw [ends_bind]
    refine Ends.mono (drawVideo_films tidy opened ?_ ?_ ?_ ?_) ?_ (fun _ _ => False.elim)
      fun _ => False.elim
    · rfl
    · rfl
    · rfl
    · rfl
    · exact fun _ t filmed => (ends_bind ..).2 (overlay t filmed)

/-- **The picture and the overlay are drawn** unless the overlay's program is
to be compiled and the numbers are used up. -/
theorem drawContents_records {r : Renderer Recorder} (tidy : r.core.Tidy)
    (opened : r.bench.device.inPass = true) :
    drawContents.Ends r (fun _ t => Sketched r t) (fun _ t => Sketched r t)
      fun _ => UInt32.size ≤ r.bench.device.lastId +
        (r.overlay.compiles r.bench.device.refusesPrograms).toNat :=
  drawContents_films tidy opened fun _ filmed => filmed.sketches

/-- **What a pass comes to.** -/
structure Passed (r t : Renderer Recorder) : Prop where
  /-- The calls were made. -/
  calls : t.bench.device.calls.toList = r.bench.device.calls.toList ++ r.passCalls
  /-- The program is the next one. -/
  program : t.program = r.nextProgram r.format.pixelType
  /-- So many numbers are handed out. -/
  lastId : t.bench.device.lastId = r.bench.device.lastId + r.passNumbers

/-- What was sketched is a pass once the pass is ended. -/
theorem Sketched.passed {r s t : Renderer Recorder} (ensured : Ensured r s)
    (updated : Updated r s) (program : t.program = s.program)
    (sketched : Sketched { s with
      bench := { s.bench with device := s.bench.device.begun s.item.size s.clearColor } } t) :
    Passed r { t with bench := { t.bench with device := t.bench.device.ended } } := by
  obtain ⟨calls, lastId⟩ := sketched
  have item : s.item = r.item := by rw [ensured.same]
  have clear : s.clearColor = r.clearColor := by rw [ensured.same]
  have geometry : s.geometry = r.geometry := by rw [ensured.same]
  have refuses : s.bench.device.refusesPrograms = r.bench.device.refusesPrograms :=
    ensured.calm.still.refusesPrograms
  have contents : contentCalls { s with
      bench := { s.bench with device := s.bench.device.begun s.item.size s.clearColor } } =
      r.contentCalls := by
    funext program fresh
    unfold contentCalls videoCalls videoQuad
    dsimp only
    rw [ensured.format, ensured.textures, ensured.shader, ensured.overlay, geometry,
      show (s.bench.device.begun s.item.size s.clearColor).refusesPrograms = _ from refuses]
  have fresh : (s.bench.device.begun s.item.size s.clearColor).freshProgram =
      ⟨r.bench.device.lastId + (r.compiles r.format.pixelType).toNat + 1⟩ :=
    congrArg (fun n => ProgramId.mk (n + 1)) updated.lastId
  have first : (s.bench.device.begun s.item.size s.clearColor).calls.toList =
      s.bench.device.calls.toList ++ [.beginPass s.item.size s.clearColor] := Array.toList_push
  refine ⟨?_, program.trans updated.program, ?_⟩
  · show (t.bench.device.calls.push _).toList = _
    rw [Array.toList_push, calls, contents]
    dsimp only
    rw [fresh, first, updated.calls, updated.program, item, clear]
    unfold passCalls
    simp only [List.append_assoc, List.cons_append, List.nil_append]
  · show t.bench.device.lastId = _
    rw [lastId]
    dsimp only
    rw [ensured.overlay, show (s.bench.device.begun s.item.size s.clearColor).refusesPrograms = _
      from refuses, show (s.bench.device.begun s.item.size s.clearColor).lastId = _
      from updated.lastId, Nat.add_assoc]
    rfl

/-- **A pass is drawn** unless what is to be made is more than there are
numbers. It records the same calls where the overlay is refused. -/
theorem pass_records {r : Renderer Recorder} (tidy : r.core.Tidy)
    (closed : r.bench.device.inPass = false) :
    render.Ends r (fun _ t => Passed r t) (fun _ t => Passed r t)
      fun _ => UInt32.size ≤ r.bench.device.lastId + r.passNumbers := by
  refine render_ends_of (((ensureProgram_ends tidy).and (ensureProgram_updates r)).mono ?_
    (fun _ _ h => h.1.elim) ?_)
  · rintro - s ⟨ensured, updated⟩
    have closed := ensured.calm.still.inPass.trans closed
    have begun := ensured.tidy.begun closed
    refine ⟨closed, ((drawContents_ends begun rfl).and (drawContents_records begun rfl)).mono
      ?_ ?_ ?_⟩
    · exact fun _ t ⟨painted, sketched⟩ => ⟨painted.inPass,
        sketched.passed ensured updated (congrArg Core.program painted.same)⟩
    · -- the overlay was refused, and the pass is ended all the same
      exact fun _ t ⟨⟨painted, _, _⟩, sketched⟩ => ⟨painted.inPass,
        sketched.passed ensured updated (congrArg Core.program painted.same)⟩
    · rintro - ⟨-, full⟩
      have refuses : s.bench.device.refusesPrograms = r.bench.device.refusesPrograms :=
        ensured.calm.still.refusesPrograms
      have full : UInt32.size ≤ s.bench.device.lastId +
        (s.overlay.compiles s.bench.device.refusesPrograms).toNat := full
      rw [updated.lastId, ensured.overlay, refuses] at full
      unfold passNumbers
      omega
  · rintro - ⟨-, full⟩
    unfold passNumbers
    omega

/-! ## What is recorded -/

/-- **The calls that a pass records**, if it does not break. -/
def recorded (r : Renderer Recorder) : Option (List DeviceRecord) :=
  match render.outcome r with
  | .ok (_, t) => some (t.bench.device.calls.toList.drop r.bench.device.calls.size)
  | .error _ => none

/-- **The calls of a pass are what it records**, and it breaks only where the
numbers are used up. -/
theorem recorded_eq {r : Renderer Recorder} (rest : r.core.AtRest) :
    r.recorded = if r.bench.device.lastId + r.passNumbers < UInt32.size then some r.passCalls
      else none := by
  have ends := (render_ends rest.tidy rest.closed).and (pass_records rest.tidy rest.closed)
  have drawn {t : Renderer Recorder} (rendered : Rendered r t) (passed : Passed r t) :
      some (t.bench.device.calls.toList.drop r.bench.device.calls.size) =
        if r.bench.device.lastId + r.passNumbers < UInt32.size then some r.passCalls
        else none := by
    have counter : t.bench.device.lastId < UInt32.size := rendered.tidy.stocked.orderly.counter
    rw [if_pos (passed.lastId ▸ counter), passed.calls, ← Array.length_toList, List.drop_left]
  unfold recorded
  cases h : render.outcome r with
  | error f => exact (if_neg (Nat.not_lt.2 (ends.of_fault h).2)).symm
  | ok x =>
    obtain ⟨e | a, t⟩ := x
    · obtain ⟨rendered, passed⟩ := ends.of_error h
      exact drawn rendered passed
    · obtain ⟨rendered, passed⟩ := ends.of_ok h
      exact drawn rendered passed

end Renderer

end Projector
