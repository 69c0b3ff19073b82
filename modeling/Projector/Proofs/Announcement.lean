import Projector.Proofs.Recorded

/-!
# Who is told of a format

Layout code follows the format that it was told of last. A frame that is
compared with the format and differs from it is told of. A frame that is not
compared is found out by the upload, if it does not fit, and then the format
is the frame's without a word. This is meant for rows that are padded
differently, which layout code need not know of. But a frame of another size
is taken the same way if nobody asked for a check: it slips through, and
layout code keeps the former size.

Nothing else goes wrong. A preparation tells of what it changes unless a
frame slips through it, and as long as none did, layout code knows the
format.
-/

namespace Projector

open History

/-! ## The same format -/

namespace VideoFormat

theorem same_iff {a b : VideoFormat} :
    a.same b = true ↔ a.pixelType = b.pixelType ∧ a.width = b.width ∧ a.height = b.height := by
  unfold same
  simp only [Bool.and_eq_true, beq_iff_eq, and_assoc]

theorem same_self (a : VideoFormat) : a.same a = true := same_iff.2 ⟨rfl, rfl, rfl⟩

theorem same_symm {a b : VideoFormat} (h : a.same b = true) : b.same a = true := by
  obtain ⟨type, width, height⟩ := same_iff.1 h
  exact same_iff.2 ⟨type.symm, width.symm, height.symm⟩

theorem same_trans {a b c : VideoFormat} (h : a.same b = true) (h' : b.same c = true) :
    a.same c = true := by
  obtain ⟨type, width, height⟩ := same_iff.1 h
  obtain ⟨type', width', height'⟩ := same_iff.1 h'
  exact same_iff.2 ⟨type.trans type', width.trans width', height.trans height'⟩

end VideoFormat

/-! ## Being told -/

namespace Renderer

/-- **Whether a frame slips through**: it is not compared, it differs, and
its slots differ, so that the textures are made anew. -/
def slips (r : Renderer Recorder) (frame : VideoFrame) (check : Bool) : Bool :=
  !r.compares frame check && !r.format.same frame.format && !r.format.sameSlots frame.format

/-- **Whether layout code knows the format**: it was told of it last, or of
nothing while there is no picture. -/
def Core.informed (c : Core Recorder) : Bool := (c.announced.getLast?.getD .empty).same c.format

/-- **A step that tells of what it changes**, and of nothing else. -/
structure InStep (r t : Renderer Recorder) : Prop where
  /-- Nobody is told if the format is the same. -/
  same : r.format.same t.format = true → t.announced = r.announced
  /-- Of another format everybody is told. -/
  other : r.format.same t.format = false → t.announced = r.announced ++ [t.format]

/-- **What a preparation does to the format.** -/
inductive Formatted (r t : Renderer Recorder) (slips : Bool) : Prop
  /-- It keeps the format. -/
  | kept (format : t.format = r.format) (told : t.announced = r.announced) (caught : slips = false)
  /-- It tells of another one. -/
  | announced (other : r.format.same t.format = false)
      (told : t.announced = r.announced ++ [t.format]) (caught : slips = false)
  /-- It takes the format of a frame that does not fit, and tells nobody. -/
  | silent (told : t.announced = r.announced) (slipped : slips = !r.format.same t.format)

/-- **A frame slips through the silent way only**, and only with another
size. -/
theorem Prepared.formatted {waiting : Option (VideoFrame × Bool)} {r t : Renderer Recorder}
    (h : Prepared waiting r t) : Formatted r t (waiting.any fun w => r.slips w.1 w.2) := by
  have told := h.told
  have shown := h.shown
  cases waiting with
  | none => exact .kept shown (told.trans (List.append_nil _)) rfl
  | some w =>
    obtain ⟨frame, check⟩ := w
    replace told : t.announced = r.announced ++ r.tells frame check := told
    replace shown : t.format = r.formatAfter frame check := shown
    show Formatted r t (r.slips frame check)
    unfold tells at told
    unfold formatAfter at shown
    unfold slips
    cases announces : r.announces frame check with
    | true =>
      rw [announces, if_pos rfl] at told
      rw [announces, Bool.true_or, if_pos rfl] at shown
      obtain ⟨compared, differs⟩ := Bool.and_eq_true_iff.1 announces
      rw [compared]
      refine .announced ?_ (shown ▸ told) rfl
      rwa [shown, ← Bool.not_eq_true']
    | false =>
      rw [announces, if_neg Bool.false_ne_true, List.append_nil] at told
      rw [announces, Bool.false_or] at shown
      cases slots : r.format.sameSlots frame.format with
      | true =>
        rw [slots, Bool.not_true, if_neg Bool.false_ne_true] at shown
        exact .kept shown told (Bool.and_false _)
      | false =>
        rw [slots, Bool.not_false, if_pos rfl] at shown
        refine .silent told ?_
        rw [shown, Bool.not_false, Bool.and_true]
        -- what differs and was not told of was not compared
        unfold Renderer.announces at announces
        cases differs : r.format.same frame.format with
        | true => exact Bool.and_false _
        | false =>
          rw [differs, Bool.not_false, Bool.and_true] at announces
          rw [announces]
          rfl

/-- **A preparation is in step unless a frame slips through.** -/
theorem Formatted.inStep_iff {r t : Renderer Recorder} {slips : Bool} (h : Formatted r t slips) :
    r.InStep t ↔ slips = false := by
  cases h with
  | kept format told caught =>
    refine ⟨fun _ => caught, fun _ => ⟨fun _ => told, fun other => ?_⟩⟩
    rw [format, VideoFormat.same_self] at other
    cases other
  | announced other told caught =>
    refine ⟨fun _ => caught, fun _ => ⟨fun same => ?_, fun _ => told⟩⟩
    cases same.symm.trans other
  | silent told slipped =>
    rw [slipped, Bool.not_eq_false']
    refine ⟨fun step => ?_, fun same => ⟨fun _ => told, fun other => ?_⟩⟩
    · -- the list would have to be longer than itself
      refine Decidable.byContradiction fun other => ?_
      have longer := told.symm.trans (step.other (Bool.eq_false_iff.2 other))
      cases List.self_eq_append_right.1 longer
    · cases same.symm.trans other

/-- **What layout code knew it knows after a preparation**, unless a frame
slips through. -/
theorem Formatted.informed {r t : Renderer Recorder} {slips : Bool} (h : Formatted r t slips)
    (informed : r.core.informed = true) : t.core.informed = true ↔ slips = false := by
  have known : (r.announced.getLast?.getD .empty).same r.format = true := informed
  show (t.announced.getLast?.getD .empty).same t.format = true ↔ _
  cases h with
  | kept format told caught =>
    rw [format, told]
    exact ⟨fun _ => caught, fun _ => known⟩
  | announced other told caught =>
    rw [told, List.getLast?_concat, Option.getD_some]
    exact ⟨fun _ => caught, fun _ => VideoFormat.same_self _⟩
  | silent told slipped =>
    rw [told, slipped, Bool.not_eq_false']
    exact ⟨VideoFormat.same_trans (VideoFormat.same_symm known), VideoFormat.same_trans known⟩

end Renderer

/-! ## Runs -/

namespace Transition

/-- **Whether a frame slips through a move.** -/
def slips (x : Transition Recorder) : Bool :=
  match x.move with
  | .ask .prepare => x.before.waiting.any fun w => x.before.slips w.1 w.2
  | _ => false

variable {x : Transition Recorder}

/-- Only a preparation lets a frame slip through. -/
theorem slips_of_ne_prepare (h : x.move ≠ .ask .prepare) : x.slips = false := by
  unfold slips
  split
  · next hx => exact (h hx).elim
  · rfl

/-- What a preparation does to the format. -/
theorem Did.formatted (did : x.Did) (hx : x.move = .ask .prepare) :
    Renderer.Formatted x.before x.after x.slips := by
  unfold slips
  rw [hx]
  cases did with
  | stored idle =>
    rw [hx] at idle
    cases idle
  | prepared _ _ _ prepared => exact prepared.formatted
  | rendered hr => cases hr.symm.trans hx
  | released hr => cases hr.symm.trans hx

/-- **What layout code knew it knows after a move**, unless a frame slips
through or everything is released. -/
theorem Did.informed (did : x.Did) (stays : x.move ≠ .ask .release)
    (informed : x.before.core.informed = true) :
    x.after.core.informed = true ↔ x.slips = false := by
  by_cases hx : x.move = .ask .prepare
  · exact (did.formatted hx).informed informed
  · refine ⟨fun _ => slips_of_ne_prepare hx, fun _ => ?_⟩
    unfold Renderer.Core.informed at informed ⊢
    cases did with
    | stored idle mailbox refuses core =>
      rw [core]
      exact informed
    | prepared hp => exact (hx hp).elim
    | rendered _ rendered =>
      show (x.after.announced.getLast?.getD .empty).same x.after.format = true
      rw [rendered.announced, rendered.format]
      exact informed
    | released hr => exact (stays hr).elim

end Transition

/-- **In a run layout code knows the format after each preparation if, and
only if, no frame slips through.** -/
theorem Run.informed_iff {start r : Renderer Recorder} {past : List (Transition Recorder)}
    (fresh : start.core = .initial .initial) (run : Run start past r)
    (proper : ∀ x ∈ past, x.Proper) (stays : ∀ x ∈ past, x.move ≠ .ask .release) :
    ((∀ x ∈ past, x.move = .ask .prepare → x.after.core.informed = true) ↔
      ∀ x ∈ past, x.slips = false) ∧
    ((∀ x ∈ past, x.slips = false) → r.core.informed = true) := by
  have did := (run.did fresh proper).2
  refine run.keeps (p := fun c past =>
    ((∀ x ∈ past, x.move = .ask .prepare → x.after.core.informed = true) ↔
      ∀ x ∈ past, x.slips = false) ∧ ((∀ x ∈ past, x.slips = false) → c.informed = true)) ?_ ?_
  · rw [fresh]
    exact ⟨⟨fun _ => List.forall_mem_nil _, fun _ => List.forall_mem_nil _⟩, fun _ => rfl⟩
  · -- as long as no frame slipped through, the next move starts from what is known
    rintro x hx earlier - ⟨known, informed⟩
    have step := (did x hx).informed (stays x hx)
    simp only [List.forall_mem_cons]
    refine ⟨⟨?_, ?_⟩, fun ⟨hslips, rest⟩ => (step (informed rest)).2 hslips⟩
    · rintro ⟨told, rest⟩
      have caught := known.1 rest
      refine ⟨?_, caught⟩
      by_cases hp : x.move = .ask .prepare
      · exact (step (informed caught)).1 (told hp)
      · exact Transition.slips_of_ne_prepare hp
    · rintro ⟨hslips, rest⟩
      exact ⟨fun _ => (step (informed rest)).2 hslips, known.2 rest⟩

/-- **Layout code is told of every format unless a frame slips through.** In
any run, a preparation tells of another format, and of no format that is the
same, if and only if no frame slips through it. As long as nothing is
released, what layout code was told last is the format after every
preparation if and only if no frame slips through any of them. -/
theorem format_announced_unless_slips {config : RendererConfig}
    {past : List (Transition Recorder)} {r : Renderer Recorder}
    (run : Run (.withConfig .initial config) past r) (proper : ∀ x ∈ past, x.Proper) :
    (∀ x ∈ past, x.move = .ask .prepare → (x.before.InStep x.after ↔ x.slips = false)) ∧
    ((∀ x ∈ past, x.move ≠ .ask .release) →
      ((∀ x ∈ past, x.move = .ask .prepare →
          (x.after.announced.getLast?.getD .empty).same x.after.format = true) ↔
        ∀ x ∈ past, x.slips = false)) := by
  have fresh := Renderer.core_withConfig Recorder.initial config
  refine ⟨fun x hx prepare => ?_, fun stays => (run.informed_iff fresh proper stays).1⟩
  exact ((run.did fresh proper).2 x hx).formatted prepare |>.inStep_iff

/-- The format of a pixel is told of, since a check was asked for. -/
theorem format_announced_unless_slips_pixel : ∃ past r,
    Run (.withConfig .initial .standard) past r ∧
      (∀ x ∈ past, x.Proper) ∧
      past.map Transition.move = [.ask .prepare, .ask (.present .blackPixel true)] ∧
      ∀ x ∈ past, x.move = .ask .prepare → x.before.InStep x.after ∧
        (x.after.announced.getLast?.getD .empty).same x.after.format = true := by
  have fresh := Renderer.core_withConfig Recorder.initial .standard
  generalize hs : Renderer.withConfig Recorder.initial .standard = start at fresh ⊢
  obtain ⟨-, waits, yes, r, past, hpast, run, proper, -⟩ :=
    Run.first fresh VideoFrame.made_blackPixel true
  have moves : past.map Transition.move = [.ask .prepare, .ask (.present .blackPixel true)] :=
    congrArg (List.map Transition.move) hpast
  have caught : ∀ x ∈ past, x.slips = false := by
    rw [hpast]
    simp only [List.forall_mem_cons]
    refine ⟨?_, rfl, List.forall_mem_nil _⟩
    unfold Transition.slips
    dsimp only
    rw [waits]
    rfl
  have stays : ∀ x ∈ past, x.move ≠ .ask .release := by
    rw [hpast]
    simp only [List.forall_mem_cons]
    exact ⟨nofun, nofun, List.forall_mem_nil _⟩
  subst hs
  obtain ⟨inStep, informed⟩ := format_announced_unless_slips run proper
  refine ⟨past, r, run, proper, moves, fun x hx prepare => ?_⟩
  exact ⟨(inStep x hx prepare).2 (caught x hx), (informed stays).2 caught x hx prepare⟩

/-- Two black pixels. -/
def VideoFrame.blackPixels : VideoFrame :=
  ⟨⟨.rgba, 2, 1, [⟨8, 1⟩]⟩, [⟨#[0, 0, 0, 255, 0, 0, 0, 255], 8⟩]⟩

theorem VideoFrame.made_blackPixels : blackPixels.Made := by
  have blank : VideoFrame.blank .rgba 2 1 = .ok .blackPixels := rfl
  exact .blank (by decide) blank

/-- A pixel is shown where nothing was, and told of. -/
theorem Renderer.tells_blackPixel {r : Renderer Recorder} (empty : r.format = .empty) :
    r.formatAfter .blackPixel true = VideoFrame.blackPixel.format ∧
      r.tells .blackPixel true = [VideoFrame.blackPixel.format] := by
  unfold formatAfter tells announces compares
  rw [empty]
  exact ⟨rfl, rfl⟩

/-- Two pixels are shown after one, and not told of. -/
theorem Renderer.tells_blackPixels {r : Renderer Recorder}
    (pixel : r.format = VideoFrame.blackPixel.format) :
    r.formatAfter .blackPixels false = VideoFrame.blackPixels.format ∧
      r.tells .blackPixels false = [] := by
  unfold formatAfter tells announces compares
  rw [pixel]
  exact ⟨rfl, rfl⟩

/-- **Another size slips through without a check**, and nobody is told. -/
theorem unchecked_size_slips : ∃ past r,
    Run (.withConfig .initial .standard) past r ∧ (∀ x ∈ past, x.Proper) ∧
      past.map Transition.move = [.ask .prepare, .ask (.present .blackPixels false),
        .ask .prepare, .ask (.present .blackPixel true)] ∧
      ∃ x ∈ past, x.move = .ask .prepare ∧ x.before.format.same x.after.format = false ∧
        x.after.announced = x.before.announced ∧
        (x.after.announced.getLast?.getD .empty).same x.after.format = false := by
  have made := VideoFrame.made_blackPixels
  have fresh := Renderer.core_withConfig Recorder.initial .standard
  generalize hs : Renderer.withConfig Recorder.initial .standard = start at fresh ⊢
  -- the first preparation tells of one pixel
  obtain ⟨core, waits, yes, r, past, hpast, run, proper, ⟨-, -, -, shown, told, -, lastId⟩, bare⟩ :=
    Run.first fresh VideoFrame.made_blackPixel true
  generalize start.present .blackPixel true = s at *
  obtain ⟨after, tells⟩ := Renderer.tells_blackPixel (congrArg Renderer.Core.format core)
  have silence : s.announced = [] := congrArg Renderer.Core.announced core
  have format : r.format = VideoFrame.blackPixel.format := by
    rw [shown, waits]
    exact after
  have announced : r.announced = [VideoFrame.blackPixel.format] := by
    rw [told, waits, silence]
    exact tells
  have room : r.bench.device.lastId + 10 < UInt32.size := by
    have unused : s.bench.device.lastId = 0 := congrArg (fun c => c.device.lastId) core
    rw [unused] at lastId
    exact Nat.lt_of_le_of_lt (Nat.add_le_add_right lastId 10) (by decide)
  have undrawn : canvases past = [] := by
    rw [hpast]
    rfl
  have unasked : (frames past).any Prod.snd = false := by
    rw [hpast]
    rfl
  -- the second one does not tell of two
  have core' := Renderer.core_present r .blackPixels false
  obtain ⟨waits', yes', r', past', hpast', run', proper', ⟨-, -, -, shown', told', -, -⟩, -⟩ :=
    run.take fresh proper undrawn bare room made false
  rw [unasked] at waits'
  generalize r.present .blackPixels false = s' at *
  have before : s'.format = VideoFrame.blackPixel.format :=
    (congrArg Renderer.Core.format core').trans format
  obtain ⟨after', tells'⟩ := Renderer.tells_blackPixels before
  have format' : r'.format = VideoFrame.blackPixels.format := by
    rw [shown', waits']
    exact after'
  have announced' : r'.announced = s'.announced := by
    rw [told', waits']
    exact (congrArg (s'.announced ++ ·) tells').trans (List.append_nil _)
  refine ⟨past', r', run', proper', ?_, _, hpast' ▸ List.mem_cons_self, rfl, ?_, announced', ?_⟩
  · rw [hpast', hpast]
    rfl
  · rw [before, format']
    rfl
  · have first : s'.announced = [VideoFrame.blackPixel.format] :=
      (congrArg Renderer.Core.announced core').trans announced
    rw [announced', first, format']
    rfl

end Projector
