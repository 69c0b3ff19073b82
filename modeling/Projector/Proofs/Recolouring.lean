import Projector.Proofs.CountedEffects

/-!
# Changes of colour and orientation

After a pass nothing is to be compiled: the program was asked for with the type and
the effects, and the program of the overlay is there if it is needed and is not
refused. Of what may be changed then, flips go into the texture coordinates, and
colours into the numbers of the program. Neither is part of what a program is asked
for, and nothing of them is stored in a texture. So whatever of this is changed, and
however often a pass is drawn in between, no object of the device is made, filled or
dropped.

Together with the comparison of runs this says on what a drawing depends: of the
effects on those that are active and have a name, and of these on the flips in the
coordinates only.
-/

namespace Projector

open Step

/-! ## What is changed -/

namespace Effects

/-- **The effects of a set but for the flips.** -/
def unflipped (e : Effects) : Effects :=
  ⟨e.bits &&& ~~~(flipVertically.bits ||| flipHorizontally.bits)⟩

/-- Flips are not part of what a program is asked for. -/
theorem programKey_unflipped (e : Effects) : e.unflipped.programKey = e.programKey := by
  have kept (bits mask : UInt32)
      (apart : ~~~(flipVertically.bits ||| flipHorizontally.bits) &&& mask = mask) :
      bits &&& ~~~(flipVertically.bits ||| flipHorizontally.bits) &&& mask = bits &&& mask := by
    rw [UInt32.and_assoc, apart]
  have suspended : e.unflipped.contains ignoreEffect = e.contains ignoreEffect :=
    congrArg (· == ignoreEffect.bits) (kept e.bits ignoreEffect.bits (by decide))
  unfold programKey
  cases h : e.contains ignoreEffect with
  | true => rw [active_of_suspended h, active_of_suspended (suspended.trans h)]
  | false =>
    rw [active_of_not_suspended h, active_of_not_suspended (suspended.trans h)]
    exact congrArg Effects.mk (kept e.bits _ (by decide))

end Effects

/-- **A request to change flips, effects that do not count, or colours**, and nothing
else, where these are the effects. -/
inductive Request.Recolours (e : Effects) : Request → Prop where
  /-- Other effects are to be taken, that differ in flips or do not count. -/
  | setEffects {e' : Effects} (h : e.unflipped.Alike e'.unflipped) : Recolours e (.setEffects e')
  /-- Colour properties are to be taken. -/
  | setColor (color : ColorProperty) : Recolours e (.setColor color)
  /-- A colour space and a range are to be taken. -/
  | setColorSpace (space : ColorSpace) (range : ColorRange) :
      Recolours e (.setColorSpace space range)
  /-- A colour for what is around the picture is to be taken. -/
  | setClearColor (color : ClearColor) : Recolours e (.setClearColor color)

/-- **Whether an object of the device was made, filled or dropped.** -/
def DeviceRecord.isUpkeep : DeviceRecord → Bool
  | createTexture .. | destroyTexture _ | writeTexture .. => true
  | createProgram _ | destroyProgram _ => true
  | _ => false

/-! ## After a pass -/

namespace OsdLayer

/-- **The program of the canvas is there once the canvas was drawn**, if it is needed
and is not refused. -/
theorem draw_equips (rect : Rect Float32) (s : OsdLayer × Bench Recorder) :
    (draw rect).Ends s (fun _ t => t.1.compiles t.2.device.refusesPrograms = false)
      (fun _ t => t.1.compiles t.2.device.refusesPrograms = false) fun _ => True := by
  have there {o : OsdLayer} {p : ProgramId} (h : o.program = some p) (refuses : Bool) :
      o.compiles refuses = false := by
    unfold compiles
    rw [h, Option.isNone_some, Bool.and_false, Bool.false_and]
  have program : (ensureProgram : Step (OsdLayer × Bench Recorder) ProgramId).Ends s
      (fun _ t => t.1.program.isSome = true)
      (fun _ t => t.1.compiles t.2.device.refusesPrograms = false) fun _ => True := by
    unfold ensureProgram
    rw [ends_bind, ends_get]
    split
    · next p h => exact congrArg Option.isSome h
    · rw [ends_bind, Bench.ends_call]
      refine (Recorder.createProgram_ends s.2.device _).mono ?_ ?_ fun _ _ => trivial
      · exact fun p d _ => rfl
      · rintro e d ⟨refuses, rfl, -⟩
        show s.1.compiles s.2.device.refusesPrograms = false
        unfold compiles
        rw [refuses, Bool.not_true, Bool.and_false]
  unfold draw
  rw [ends_bind, ends_get]
  dsimp only
  split
  · split
    · next hidden =>
      have hidden : s.1.isVisible = false := by simpa using hidden
      show s.1.compiles _ = false
      unfold compiles
      rw [hidden, Bool.and_false, Bool.false_and, Bool.false_and]
    · rw [ends_bind]
      refine program.mono (fun p t h => ?_) (fun _ _ => id) fun _ => id
      obtain ⟨p, h⟩ := Option.isSome_iff_exists.1 h
      rw [ends_bind, Bench.ends_call]
      refine (ends_somehow _ _).mono (fun _ d _ => ?_) (fun _ _ _ => there h _) fun _ _ => trivial
      rw [ends_bind, Bench.ends_call]
      exact (ends_somehow _ _).mono (fun _ d _ => there h _) (fun _ _ _ => there h _)
        fun _ _ => trivial
  · next none =>
    show s.1.compiles _ = false
    unfold compiles
    rw [Option.eq_none_iff_forall_ne_some.2 none, Option.isSome_none, Bool.false_and,
      Bool.false_and, Bool.false_and]

end OsdLayer

namespace Renderer

/-- **Nothing is to be compiled**: the program was asked for with the type and these
effects, and the program of the overlay is there if it is needed and not refused. -/
structure Equipped (e : Effects) (r : Renderer Recorder) : Prop where
  /-- No pass is open. -/
  rest : r.core.AtRest
  /-- The program was asked for with what the effects ask for, -/
  key : r.programKey = some ⟨r.format.pixelType, e.programKey⟩
  /-- and so do the effects that are set. -/
  effects : r.shader.effects.programKey = e.programKey
  /-- The overlay needs no other program. -/
  overlay : r.overlay.compiles r.bench.device.refusesPrograms = false

/-- **A pass leaves nothing to be compiled.** -/
theorem equipped_of_pass {r t : Renderer Recorder} {answer : Answer} (rest : r.core.AtRest)
    (e : r.perform .render = .ok (answer, t)) : Equipped t.shader.effects t := by
  have contents {s : Renderer Recorder} (tidy : s.core.Tidy)
      (opened : s.bench.device.inPass = true) :
      drawContents.Ends s (fun _ t => t.overlay.compiles t.bench.device.refusesPrograms = false)
        (fun _ t => t.overlay.compiles t.bench.device.refusesPrograms = false) fun _ => True := by
    refine drawContents_films tidy opened fun t _ => ?_
    rw [ends_onOverlay]
    exact OsdLayer.draw_equips _ (t.overlay, t.bench)
  have ends : render.Ends r
      (fun _ t => t.overlay.compiles t.bench.device.refusesPrograms = false)
      (fun _ t => t.overlay.compiles t.bench.device.refusesPrograms = false) fun _ => True := by
    refine render_ends_of ((ensureProgram_ends rest.tidy).mono ?_ (fun _ _ => False.elim)
      fun _ _ => trivial)
    rintro - s ensured
    have closed := ensured.calm.still.inPass.trans rest.closed
    have begun := ensured.tidy.begun closed
    refine ⟨closed, ((drawContents_ends begun rfl).and (contents begun rfl)).mono ?_ ?_
      fun _ _ => trivial⟩
    · exact fun _ t ⟨painted, equipped⟩ => ⟨painted.inPass, equipped⟩
    · exact fun _ t ⟨⟨painted, _, _⟩, equipped⟩ => ⟨painted.inPass, equipped⟩
  have rendered := rest.rendered e
  have shader : t.shader = r.shader := by
    have keeps := keeps_render (p := @Renderer.shader Recorder)
      (fun _ _ _ _ _ _ _ => rfl) r
    obtain ⟨_, hm, -⟩ | ⟨_, hm, -⟩ := answered_eq_ok e
    · exact keeps.of_ok hm
    · exact keeps.of_error hm
  refine ⟨⟨rendered.tidy, rendered.closed⟩, ?_, rfl, ?_⟩
  · rw [rendered.key, rendered.format, shader]
    rfl
  · obtain ⟨_, hm, -⟩ | ⟨_, hm, -⟩ := answered_eq_ok e
    · exact ends.of_ok hm
    · exact ends.of_error hm

/-! ## Changes and passes -/

/-- **Objects of the device were left alone.** -/
structure Spared (r t : Renderer Recorder) : Prop where
  /-- No call made, filled or dropped one. -/
  calls : ∃ calls, t.bench.device.calls.toList = r.bench.device.calls.toList ++ calls ∧
    ∀ call ∈ calls, call.isUpkeep = false
  /-- The textures have the bytes that they had. -/
  pictures : r.bench.device.SamePictures t.bench.device
  /-- The picture is drawn with the program that it was drawn with. -/
  program : t.program = r.program

namespace Spared

theorem refl (r : Renderer Recorder) : Spared r r :=
  ⟨⟨[], (List.append_nil _).symm, List.forall_mem_nil _⟩, .refl _, rfl⟩

theorem trans {r s t : Renderer Recorder} (h : Spared r s) (h' : Spared s t) : Spared r t := by
  obtain ⟨calls, e, spared⟩ := h.calls
  obtain ⟨calls', e', spared'⟩ := h'.calls
  refine ⟨⟨calls ++ calls', by rw [e', e, List.append_assoc], ?_⟩, h.pictures.trans h'.pictures,
    h'.program.trans h.program⟩
  exact List.forall_mem_append.2 ⟨spared, spared'⟩

end Spared

namespace Equipped

variable {e : Effects} {r : Renderer Recorder}

/-- **A pass makes nothing** if nothing is to be compiled. -/
theorem passCalls_spare (h : Equipped e r) : ∀ call ∈ r.passCalls, call.isUpkeep = false := by
  have key : r.programKey = some (r.shader.programKey r.format.pixelType) := by
    rw [h.key, ← h.effects]
    rfl
  have video (program : Option ProgramId) (quad : Quad Float32) :
      ∀ call ∈ r.videoCalls program quad, call.isUpkeep = false := by
    unfold videoCalls
    split
    · exact List.forall_mem_nil _
    · split
      · exact List.forall_mem_nil _
      · exact List.forall_mem_cons.2 ⟨rfl, List.forall_mem_singleton.2 rfl⟩
  have overlay (fresh : ProgramId) (rect : Rect Float32) :
      ∀ call ∈ r.overlay.drawCalls r.bench.device.refusesPrograms fresh rect,
        call.isUpkeep = false := by
    unfold OsdLayer.drawCalls
    split
    · next texture program textures next =>
      split
      · next visible =>
        have there : r.overlay.program.isNone = false := by
          have needless := h.overlay
          unfold OsdLayer.compiles at needless
          rw [textures, visible] at needless
          unfold OsdLayer.nextProgram at next
          cases hp : r.overlay.program with
          | some p => rfl
          | none =>
            rw [hp] at needless next
            cases hr : r.bench.device.refusesPrograms with
            | true =>
              rw [hr] at next
              cases next
            | false =>
              rw [hr] at needless
              cases needless
        rw [there, if_neg Bool.false_ne_true, List.nil_append]
        exact List.forall_mem_cons.2 ⟨rfl, List.forall_mem_singleton.2 rfl⟩
      · exact List.forall_mem_nil _
    · exact List.forall_mem_nil _
  unfold passCalls contentCalls programCalls
  rw [if_pos key, List.nil_append]
  refine List.forall_mem_cons.2 ⟨rfl, List.forall_mem_append.2 ⟨List.forall_mem_append.2
    ⟨video _ _, overlay _ _⟩, List.forall_mem_singleton.2 rfl⟩⟩

/-- **A pass of what is equipped is drawn**, and nothing else. -/
theorem exists_pass (h : Equipped e r) :
    ∃ answer t, r.perform .render = .ok (answer, t) ∧ Equipped e t ∧ Spared r t := by
  have key : r.programKey = some (r.shader.programKey r.format.pixelType) := by
    rw [h.key, ← h.effects]
    rfl
  have none : r.passNumbers = 0 := by
    unfold passNumbers
    rw [compiles_of_key key, h.overlay]
    rfl
  have room : r.bench.device.lastId + r.passNumbers < UInt32.size := by
    rw [none]
    exact h.rest.tidy.stocked.orderly.counter
  obtain ⟨answer, t, drawn, rendered, passed, -⟩ := h.rest.perform_render room
  have equipped := equipped_of_pass h.rest drawn
  have asked : t.shader.effects.programKey = e.programKey := by
    have key := equipped.key.symm.trans rendered.key
    rw [← h.effects]
    exact congrArg ProgramKey.effects (Option.some.inj key)
  refine ⟨answer, t, drawn, ⟨equipped.rest, ?_, asked, equipped.overlay⟩,
    ⟨r.passCalls, passed.calls, h.passCalls_spare⟩, rendered.pictures, ?_⟩
  · rw [equipped.key, asked]
  · rw [passed.program]
    unfold nextProgram
    rw [if_pos key]

/-- **A change of flips or colours is not a matter of the device**, and asks for no
other program. -/
theorem exists_change (h : Equipped e r) {request : Request} (change : request.Recolours e) :
    ∃ answer t, r.perform request = .ok (answer, t) ∧ Equipped e t ∧ Spared r t := by
  have styled {change : Bool × ShaderParams}
      (same : change.2.effects.programKey = e.programKey) :
      Equipped e (r.restyle change).2 ∧ Spared r (r.restyle change).2 := by
    have resembles := resembles_restyle r change
    refine ⟨⟨(core_restyle r change).symm ▸ h.rest, ?_, ?_, ?_⟩,
      ⟨⟨[], ?_, List.forall_mem_nil _⟩, ?_, resembles.program⟩⟩
    · rw [resembles.programKey, resembles.format]
      exact h.key
    · exact resembles.shader.effects.programKey_eq.trans same
    · rw [resembles.overlay, resembles.device]
      exact h.overlay
    · rw [resembles.device, List.append_nil]
    · rw [resembles.device]
      exact .refl _
  have coloured {change : Bool × ShaderParams} (same : change.2.effects = r.shader.effects) :
      Equipped e (r.restyle change).2 ∧ Spared r (r.restyle change).2 :=
    styled (by rw [same, h.effects])
  cases change with
  | @setEffects e' alike =>
    refine ⟨_, _, rfl, styled ?_⟩
    rw [ShaderParams.setEffects_eq]
    show e'.programKey = e.programKey
    rw [← Effects.programKey_unflipped, ← alike.programKey_eq, Effects.programKey_unflipped]
  | setColor color =>
    refine ⟨_, _, rfl, coloured ?_⟩
    unfold ShaderParams.setColor
    split <;> rfl
  | setColorSpace space range =>
    refine ⟨_, _, rfl, coloured ?_⟩
    unfold ShaderParams.setColorSpace
    split <;> rfl
  | setClearColor color =>
    exact ⟨_, _, rfl, ⟨h.rest, h.key, h.effects, h.overlay⟩,
      ⟨[], (List.append_nil _).symm, List.forall_mem_nil _⟩, .refl _, rfl⟩

/-- **Whatever is changed of flips and colours between passes**, all of it is carried
out, and objects of the device are left alone. -/
theorem exists_run (h : Equipped e r) {requests : List Request}
    (changes : ∀ request ∈ requests, request = .render ∨ request.Recolours e) :
    ∃ t, r.run requests = .ok t ∧ Spared r t := by
  induction requests generalizing r with
  | nil => exact ⟨r, rfl, .refl r⟩
  | cons request requests ih =>
    obtain ⟨change, changes⟩ := List.forall_mem_cons.1 changes
    have first : ∃ answer s, r.perform request = .ok (answer, s) ∧ Equipped e s ∧ Spared r s := by
      obtain rfl | change := change
      · exact h.exists_pass
      · exact h.exists_change change
    obtain ⟨answer, s, carried, equipped, spared⟩ := first
    obtain ⟨t, rest, spared'⟩ := ih equipped changes
    refine ⟨t, ?_, spared.trans spared'⟩
    rw [run_cons, carried]
    exact rest

end Equipped

end Renderer

/-- **What is drawn depends on the active effects only.** Let the moves of two runs
be the same but for effects that do not count: bits without a name, any bits if both
sets are suspended, and any bits if one is suspended and the other one has no effect
with a name. Then the device is the same before and after every move. So each pass
binds the same programs, with the same texts, and the same numbers, and draws the
same quads with the same textures. And where the moves of one run can be made, those
of the other one can.

After a pass, let flips, effects that do not count, and colours be changed, and
passes be drawn in between. Then no program is compiled or dropped, no texture is
made, filled or dropped, and the picture is drawn with the same program. -/
theorem drawing_depends_on_active_effects {config : RendererConfig}
    {past : List (Transition Recorder)} {r : Renderer Recorder}
    (run : Run (.withConfig .initial config) past r) :
    (∀ past' t, Run (.withConfig .initial config) past' t →
      List.Forall₂ Move.Alike (past.map Transition.move) (past'.map Transition.move) →
      List.Forall₂ Transition.Resembles past past') ∧
    (∀ moves, List.Forall₂ Move.Alike (past.map Transition.move) moves →
      ∃ past' t, Run (.withConfig .initial config) past' t ∧
        past'.map Transition.move = moves) ∧
    ((∀ x ∈ past, x.Proper) → ∀ answer s, r.perform .render = .ok (answer, s) →
      ∀ requests : List Request,
        (∀ x ∈ requests, x = .render ∨ x.Recolours s.shader.effects) →
          ∃ t, s.run requests = .ok t ∧ Renderer.Spared s t) := by
  refine ⟨fun past' t run' moves => (run.resembles run' moves).2,
    fun moves alike => run.exists_alike alike, fun proper answer s drawn requests changes => ?_⟩
  obtain ⟨rest, -⟩ := run.did (Renderer.core_withConfig Recorder.initial config) proper
  exact (Renderer.equipped_of_pass rest drawn).exists_run changes

/-- A grey picture is to be drawn, in one run with a bit more that has no name. The
same is done to the device. The picture is drawn, then drawn upside down, and then
drawn the other way round with the bit: nothing but passes is recorded. -/
theorem drawing_depends_on_active_effects_pixel : ∃ past past' r t answer s u,
    Run (.withConfig .initial .standard) past r ∧ Run (.withConfig .initial .standard) past' t ∧
      past.map Transition.move = [.ask (.setEffects ⟨4⟩), .ask .prepare,
        .ask (.present .blackPixel true)] ∧
      past'.map Transition.move = [.ask (.setEffects ⟨260⟩), .ask .prepare,
        .ask (.present .blackPixel true)] ∧
      List.Forall₂ Transition.Resembles past past' ∧
      r.perform .render = .ok (answer, s) ∧
      s.run [.setEffects ⟨5⟩, .render, .setEffects ⟨262⟩, .render] = .ok u ∧
      Renderer.Spared s u := by
  let requests : List Request := [.present .blackPixel true, .prepare, .setEffects ⟨4⟩]
  have made : ∀ request ∈ requests, request.Proper := by
    simp only [requests, List.forall_mem_cons]
    exact ⟨VideoFrame.made_blackPixel, trivial, trivial, List.forall_mem_nil _⟩
  obtain ⟨past, r, run, proper, moves, found⟩ := Run.exists_carried
    (.withConfig .initial .standard) made (fun r => (r.perform .render).toOption.any fun p =>
      p.2.shader.effects = ⟨4⟩) (by decide +kernel)
  obtain ⟨⟨answer, s⟩, drawn, effects⟩ := Checked.exists_ok_of_any found
  have effects : s.shader.effects = ⟨4⟩ := of_decide_eq_true effects
  have alike : List.Forall₂ Move.Alike (past.map Transition.move)
      [.ask (.setEffects ⟨260⟩), .ask .prepare, .ask (.present .blackPixel true)] := by
    rw [moves]
    exact .cons (.ask (.setEffects (.named (by decide))))
      (.cons (.ask (.same _)) (.cons (.ask (.same _)) .nil))
  obtain ⟨compare, counterpart, spare⟩ := drawing_depends_on_active_effects run
  obtain ⟨past', t, run', moves'⟩ := counterpart _ alike
  have turned (e : Effects) (same : (⟨4⟩ : Effects).unflipped.named = e.unflipped.named) :
      Request.Recolours s.shader.effects (.setEffects e) := by
    rw [effects]
    exact .setEffects (.named same)
  obtain ⟨u, carried, spared⟩ := spare proper answer s drawn
    [.setEffects ⟨5⟩, .render, .setEffects ⟨262⟩, .render] <|
      List.forall_mem_cons.2 ⟨.inr (turned _ (by decide)), List.forall_mem_cons.2 ⟨.inl rfl,
        List.forall_mem_cons.2 ⟨.inr (turned _ (by decide)),
          List.forall_mem_singleton.2 (.inl rfl)⟩⟩⟩
  exact ⟨past, past', r, t, answer, s, u, run, run', moves, moves',
    compare past' t run' (moves' ▸ alike), drawn, carried, spared⟩

end Projector
