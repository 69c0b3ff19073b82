import Projector.Device.Flaky
import Projector.Proofs.Run
import Projector.Proofs.Upload

/-!
# What a preparation takes

The mailbox is a handful of flags, counters and slots. What it stands for
is simpler: the list of frames presented, and the list of canvases drawn,
since the last preparation. `frames` and `canvases` read these lists off a
run, and a preparation takes what they say: the last frame, with a check if
any of the frames asked for one, and the last canvas.

The counters are read off the run as well. Every frame that was presented
was dropped, or taken, or is waiting. And a frame is counted as drawn when
its planes were uploaded. This is not quite the same as a preparation that
answers yes: the canvas comes after the frame, so a device that refuses the
canvas makes a preparation fail whose frame was uploaded.
-/

namespace Projector

open Step

/-! ## What a run stored -/

namespace History

variable {δ : Type}

/-- **The frames presented since the last preparation**, the latest first,
each with whether it asked for a check. -/
def frames : List (Transition δ) → List (VideoFrame × Bool)
  | [] => []
  | x :: past =>
    match x.move with
    | .ask (.present frame check) => (frame, check) :: frames past
    | .ask .prepare => []
    | _ => frames past

/-- The frame presented last of all. -/
def latest : List (Transition δ) → VideoFrame
  | [] => .empty
  | x :: past =>
    match x.move with
    | .ask (.present frame _) => frame
    | _ => latest past

/-- The canvas of bitmaps drawn for a frame. -/
def canvas? (frame : VideoFrame) (bitmaps : List SubtitleBitmap) : Option OsdImage :=
  match OsdImage.compose frame.format.width frame.format.height bitmaps with
  | .ok (canvas, _) => some canvas
  | .error _ => none

/-- **The canvases drawn since the last preparation**, the latest first. -/
def canvases : List (Transition δ) → List OsdImage
  | [] => []
  | x :: past =>
    match x.move with
    | .ask (.drawOsd bitmaps) => (canvas? (latest past) bitmaps).toList ++ canvases past
    | .ask .prepare => []
    | _ => canvases past

/-- **What waits to be taken**: the last frame with a check if any frame
asked for one, and the last canvas. -/
def pending (past : List (Transition δ)) : Option Pending :=
  if (frames past).isEmpty && (canvases past).isEmpty then none
  else some ⟨(frames past).head?.map fun f => (f.1, (frames past).any Prod.snd),
    (canvases past).head?⟩

/-- **How many preparations took a frame.** -/
def taken : List (Transition δ) → Nat
  | [] => 0
  | x :: past =>
    match x.move with
    | .ask .prepare => taken past + if (frames past).isEmpty then 0 else 1
    | _ => taken past

end History

/-! ## The mailbox mirrors the run -/

open History

variable {δ : Type}

/-- **The mailbox says what the run stored.** -/
structure Mirrors (m : Mailbox) (past : List (Transition δ)) : Prop where
  /-- The frame is the latest one. -/
  frame : m.frame = latest past
  /-- It waits if a frame was presented. -/
  framePending : m.framePending = !(frames past).isEmpty
  /-- Then it is the last one. -/
  last : m.framePending = true →
    (frames past).head?.map Prod.fst = some m.frame
  /-- And it is checked if any frame asked for it. -/
  check : m.framePending = true → m.checkFormat = (frames past).any Prod.snd
  /-- A canvas waits if one was drawn. -/
  canvasPending : m.canvasPending = !(canvases past).isEmpty
  /-- Then it is the last one. -/
  canvas : m.canvasPending = true → m.canvas = (canvases past).head?
  /-- Every frame was dropped, or taken, or is waiting. -/
  presented : m.presented = m.dropped + taken past + if m.framePending then 1 else 0

theorem mirrors_redraw {m : Mailbox} {past : List (Transition δ)} (redraw : Bool) :
    Mirrors { m with redraw } past ↔ Mirrors m past :=
  ⟨fun h => ⟨h.frame, h.framePending, h.last, h.check, h.canvasPending, h.canvas, h.presented⟩,
    fun h => ⟨h.frame, h.framePending, h.last, h.check, h.canvasPending, h.canvas, h.presented⟩⟩

theorem mirrors_core {r : Renderer δ} {past : List (Transition δ)} :
    Mirrors r.core.mailbox past ↔ Mirrors r.mailbox past := mirrors_redraw false

theorem mirrors_initial : Mirrors (δ := δ) .initial [] :=
  ⟨rfl, rfl, fun h => (nomatch h), fun h => (nomatch h), rfl, fun h => (nomatch h), rfl⟩

namespace Mirrors

variable {m : Mailbox} {past : List (Transition δ)}

/-- **What is taken is what waits.** -/
theorem take_eq (h : Mirrors m past) : m.take.1 = pending past := by
  have frame := h.framePending
  have canvas := h.canvasPending
  unfold Mailbox.take pending
  cases hf : m.framePending with
  | false =>
    rw [hf] at frame
    have hframes : frames past = [] := by simpa using frame.symm
    cases hc : m.canvasPending with
    | false =>
      rw [hc] at canvas
      have hcanvases : canvases past = [] := by simpa using canvas.symm
      simp [hframes, hcanvases]
    | true =>
      rw [hc] at canvas
      have hcanvases : (canvases past).isEmpty = false := by simpa using canvas.symm
      simp [hframes, hcanvases, h.canvas hc]
  | true =>
    rw [hf] at frame
    have hframes : (frames past).isEmpty = false := by simpa using frame.symm
    obtain ⟨x, hx, hxm⟩ := Option.map_eq_some_iff.1 (h.last hf)
    cases hc : m.canvasPending with
    | false =>
      rw [hc] at canvas
      have hcanvases : canvases past = [] := by simpa using canvas.symm
      simp [hframes, hcanvases, hx, hxm, h.check hf]
    | true => simp [hframes, hx, hxm, h.check hf, h.canvas hc]

/-- A frame is stored. -/
theorem storeFrame (h : Mirrors m past) {x : Transition δ} {frame : VideoFrame} {check : Bool}
    (hx : x.move = .ask (.present frame check)) :
    Mirrors (m.storeFrame frame check) (x :: past) := by
  have hframes : frames (x :: past) = (frame, check) :: frames past := by rw [frames, hx]
  have hcanvases : canvases (x :: past) = canvases past := by rw [canvases, hx]
  have htaken : taken (x :: past) = taken past := by rw [taken, hx]
  have presented := h.presented
  refine ⟨by rw [latest, hx]; rfl, by rw [hframes]; rfl, fun _ => by rw [hframes]; rfl, fun _ => ?_,
    hcanvases ▸ h.canvasPending, hcanvases ▸ h.canvas, ?_⟩
  · rw [hframes, List.any_cons]
    show (check || (m.framePending && m.checkFormat)) = _
    cases hf : m.framePending with
    | false =>
      have hnone : frames past = [] := by simpa [hf] using h.framePending.symm
      rw [hnone, Bool.false_and, List.any_nil]
    | true => rw [Bool.true_and, h.check hf]
  · show m.presented + 1 = (if m.framePending then m.dropped + 1 else m.dropped) + _ + 1
    rw [htaken, presented]
    cases m.framePending with
    | false => rfl
    | true =>
      -- the frame that was waiting is dropped now
      show m.dropped + taken past + 1 + 1 = m.dropped + 1 + taken past + 1
      omega

/-- A canvas is stored. -/
theorem storeCanvas (h : Mirrors m past) {x : Transition δ} {bitmaps : List SubtitleBitmap}
    {canvas : OsdImage} {skipped : List LogEvent} (hx : x.move = .ask (.drawOsd bitmaps))
    (e : OsdImage.compose m.frame.format.width m.frame.format.height bitmaps =
      .ok (canvas, skipped)) :
    Mirrors (m.storeCanvas canvas) (x :: past) := by
  have hframes : frames (x :: past) = frames past := by rw [frames, hx]
  have htaken : taken (x :: past) = taken past := by rw [taken, hx]
  have hcanvases : canvases (x :: past) = canvas :: canvases past := by
    rw [canvases, hx]
    dsimp only
    rw [canvas?, ← h.frame, e]
    rfl
  refine ⟨?_, hframes ▸ h.framePending, hframes ▸ h.last, hframes ▸ h.check, by rw [hcanvases]; rfl,
    fun _ => by rw [hcanvases]; rfl, htaken ▸ h.presented⟩
  rw [latest, hx]
  exact h.frame

/-- What waits is taken. -/
theorem take (h : Mirrors m past) {x : Transition δ} (hx : x.move = .ask .prepare) :
    Mirrors m.take.2 (x :: past) := by
  have hframes : frames (x :: past) = [] := by rw [frames, hx]
  have hcanvases : canvases (x :: past) = [] := by rw [canvases, hx]
  have hlatest : latest (x :: past) = latest past := by rw [latest, hx]
  have htaken : taken (x :: past) = taken past + if (frames past).isEmpty then 0 else 1 := by
    rw [taken, hx]
  have frame := h.framePending
  have presented := h.presented
  unfold Mailbox.take
  split
  · refine ⟨hlatest ▸ h.frame, by rw [hframes]; rfl, fun h => (nomatch h), fun h => (nomatch h),
      by rw [hcanvases]; rfl, fun h => (nomatch h), ?_⟩
    show m.presented = m.dropped + taken (x :: past) + 0
    rw [htaken, presented, frame]
    cases (frames past).isEmpty with
    | true => rfl
    | false => exact Nat.add_assoc m.dropped (taken past) 1
  · next hnone =>
    rw [Bool.or_eq_true, not_or, Bool.not_eq_true, Bool.not_eq_true] at hnone
    obtain ⟨hf, hc⟩ := hnone
    refine ⟨hlatest ▸ h.frame, by rw [hframes, hf]; rfl, fun e => ?_, fun e => ?_,
      by rw [hcanvases, hc]; rfl, fun e => ?_, ?_⟩
    · rw [hf] at e
      cases e
    · rw [hf] at e
      cases e
    · rw [hc] at e
      cases e
    · have hempty : (frames past).isEmpty = true := by simpa [hf] using frame.symm
      rw [htaken, hempty, presented]
      rfl

/-- Any other move stores nothing. -/
theorem other (h : Mirrors m past) {x : Transition δ}
    (hframes : frames (x :: past) = frames past) (hcanvases : canvases (x :: past) = canvases past)
    (hlatest : latest (x :: past) = latest past) (htaken : taken (x :: past) = taken past) :
    Mirrors m (x :: past) :=
  ⟨hlatest ▸ h.frame, hframes ▸ h.framePending, hframes ▸ h.last, hframes ▸ h.check,
    hcanvases ▸ h.canvasPending, hcanvases ▸ h.canvas, htaken ▸ h.presented⟩

end Mirrors

/-! ## What steps do to the mailbox and to the count of drawn frames -/

namespace UploadEngine

variable [Device δ]

theorem ensureSlot_keeps_drawnFrames (format : VideoFormat) (i : Fin 3) :
    (ensureSlot (δ := δ) format i).Keeps fun s => s.1.drawnFrames := by
  have drop : (dropSlot (δ := δ) i).Keeps fun s => s.1.drawnFrames := by
    refine keeps_get.bind fun s => ?_
    split
    · refine Keeps.bind ?_ fun _ => ?_
      · exact Bench.keeps_change _ fun _ => rfl
      · exact Bench.keeps_tell _ _
    · exact keeps_pure _
  have make (wanted) : (makeSlot (δ := δ) i wanted).Keeps fun s => s.1.drawnFrames := by
    unfold makeSlot
    split
    · refine Keeps.bind (Bench.keeps_call _ _) fun _ => Keeps.bind ?_ fun _ => ?_
      · exact Bench.keeps_note _ _
      · exact Bench.keeps_change _ fun _ => rfl
    · exact keeps_pure _
  refine keeps_get.bind fun s => ?_
  split
  · exact keeps_pure _
  · exact drop.bind fun _ => (make _).bind fun _ => keeps_pure _

theorem ensureAllocated_keeps_drawnFrames (format : VideoFormat) :
    (ensureAllocated (δ := δ) format).Keeps fun s => s.1.drawnFrames := by
  have slot := ensureSlot_keeps_drawnFrames (δ := δ) format
  refine (slot 0).bind fun _ => (slot 1).bind fun _ => (slot 2).bind fun _ => ?_
  refine Keeps.bind ?_ fun _ => keeps_pure _
  exact Bench.keeps_change _ fun _ => rfl

end UploadEngine

namespace Renderer

/-- The mailbox and the count of drawn frames. -/
def accounts (r : Renderer δ) : Mailbox × Nat := (r.mailbox, r.textures.drawnFrames)

theorem accounts_updateGeometry (r : Renderer δ) : r.updateGeometry.accounts = r.accounts := by
  unfold updateGeometry
  dsimp only
  split <;> rfl

theorem onOverlay_keeps_accounts {α : Type} (m : Step (OsdLayer × Bench δ) α) :
    (onOverlay m).Keeps accounts :=
  keeps_onOverlay (fun _ _ _ => rfl) m

variable [Device δ]

theorem accounts_dropProgram (r : Renderer δ) : r.dropProgram.accounts = r.accounts := by
  unfold dropProgram
  split <;> rfl

theorem ensureProgram_keeps_accounts : (ensureProgram (δ := δ)).Keeps accounts :=
  keeps_ensureProgram fun _ _ _ _ => rfl

theorem resetFormat_keeps_accounts (format : VideoFormat) (notify : Bool) :
    (resetFormat (δ := δ) format notify).Keeps accounts := by
  have textures : (onTextures (δ := δ) (UploadEngine.ensureAllocated format)).Keeps accounts := by
    intro r
    rw [onTextures, ends_zoom]
    have keeps := UploadEngine.ensureAllocated_keeps_drawnFrames format (r.textures, r.bench)
    exact keeps.mono (fun _ t ht => congrArg (Prod.mk r.mailbox) ht)
      (fun _ t ht => congrArg (Prod.mk r.mailbox) ht) fun _ => id
  unfold resetFormat
  refine Keeps.bind (keeps_modify fun _ => rfl) fun _ => ?_
  refine (onOverlay_keeps_accounts _).bind fun _ => textures.bind fun _ => ?_
  refine (keeps_modify accounts_updateGeometry).bind fun _ => ?_
  split
  · exact keeps_modify fun _ => rfl
  · exact keeps_pure _

theorem render_keeps_accounts : (render (δ := δ)).Keeps accounts :=
  keeps_render fun _ _ _ _ _ _ _ => rfl

theorem accounts_release (r : Renderer δ) : r.release.accounts = r.accounts := by
  unfold release
  exact accounts_dropProgram _

/-! ## Preparing -/

/-- **A step counts what it uploads**: one frame more with the answer yes,
and none with the answer no or an error. -/
def Counts (m : Step (Renderer δ) Bool) : Prop :=
  ∀ r, m.Ends r
    (fun uploaded t => t.accounts =
      (r.mailbox, r.textures.drawnFrames + uploaded.toNat))
    (fun _ t => t.accounts = r.accounts) fun _ => True

omit [Device δ] in
theorem Counts.after {α : Type} {m : Step (Renderer δ) α} {f : α → Step (Renderer δ) Bool}
    (h : m.Keeps accounts) (hf : ∀ a, Counts (f a)) : Counts (m >>= f) := by
  intro r
  rw [ends_bind]
  refine (h r).mono (fun a t ht => ?_) (fun _ _ => id) fun _ => id
  have mailbox : t.mailbox = r.mailbox := congrArg Prod.fst ht
  have drawn : t.textures.drawnFrames = r.textures.drawnFrames := congrArg Prod.snd ht
  have counts := hf a t
  rw [mailbox, drawn, ht] at counts
  exact counts

/-- **A frame is counted when it was uploaded**, and not when it was refused. -/
theorem upload_counts (frame : VideoFrame) :
    Counts (δ := δ) (onTextures (UploadEngine.upload frame)) := by
  intro r
  rw [onTextures, ends_zoom]
  have accounts {e : UploadEngine} {n : Nat} (h : e.drawnFrames = n) :
      (r.mailbox, e.drawnFrames) = (r.mailbox, n) := congrArg (Prod.mk r.mailbox) h
  refine (UploadEngine.upload_engine frame (r.textures, r.bench)).mono ?_ ?_ fun _ => id
  · exact fun _ _ engine => accounts (congrArg UploadEngine.drawnFrames engine)
  · exact fun _ _ engine => accounts (congrArg UploadEngine.drawnFrames engine)

theorem uploadFrame_counts (frame : VideoFrame) : Counts (δ := δ) (uploadFrame frame) := by
  have again (slot expected got) : Counts (δ := δ) (do
      modify (report (.texturesMismatched slot expected got))
      resetFormat frame.format false
      ensureProgram
      onTextures (UploadEngine.upload frame)) := by
    refine Counts.after (keeps_modify fun _ => rfl) fun _ => ?_
    refine Counts.after (resetFormat_keeps_accounts _ _) fun _ => ?_
    exact Counts.after ensureProgram_keeps_accounts fun _ => upload_counts frame
  intro r
  unfold uploadFrame
  rw [ends_bind, ends_attempt]
  refine (upload_counts frame r).mono (fun _ _ => id) (fun e t ht => ?_) fun _ => id
  -- an error left the accounts as they were, so what comes now counts from there
  have mailbox : t.mailbox = r.mailbox := congrArg Prod.fst ht
  have drawn : t.textures.drawnFrames = r.textures.drawnFrames := congrArg Prod.snd ht
  split
  · next h => cases h
  · next slot expected got h =>
    have counts := again slot expected got t
    rw [mailbox, drawn, ht] at counts
    exact counts
  · next h =>
    cases h
    exact ht

theorem takeFrame_counts (frame : VideoFrame) (check : Bool) :
    Counts (δ := δ) (takeFrame frame check) := by
  have rest : Counts (δ := δ) (fill frame) := by
    refine Counts.after ensureProgram_keeps_accounts fun _ r => ?_
    rw [ends_bind]
    exact uploadFrame_counts frame r
  intro r
  refine takeFrame_ends_of (fun _ => ?_) fun _ => rest r
  exact Counts.after (resetFormat_keeps_accounts _ _) (fun _ => rest) r

theorem takePending_counts (pending : Pending) : Counts (δ := δ) (takePending pending) := by
  unfold takePending
  split
  · exact takeFrame_counts _ _
  · exact fun r => rfl

theorem takeCanvas_keeps_accounts (pending : Pending) :
    (takeCanvas (δ := δ) pending).Keeps accounts := by
  unfold takeCanvas
  split
  · exact Keeps.bind (keeps_modify fun _ => rfl) fun _ => onOverlay_keeps_accounts _
  · exact onOverlay_keeps_accounts _

/-- Whether a step answers yes. -/
def yields {σ : Type} : Checked (Except Error Bool × σ) → Bool
  | .ok (.ok yes, _) => yes
  | _ => false

/-- **Whether a preparation would upload the frame that waits**, whatever
becomes of the canvas. -/
def uploads (r : Renderer δ) : Bool :=
  match r.mailbox.take with
  | (none, _) => false
  | (some pending, mailbox) => yields ((takePending pending).outcome { r with mailbox })

/-- **A preparation works on what was taken.** -/
theorem prepare_outcome (r : Renderer δ) :
    prepare.outcome r =
      match r.mailbox.take with
      | (none, mailbox) => .ok (.ok false, { r with mailbox })
      | (some pending, mailbox) => (consume pending).outcome { r with mailbox } := by
  refine outcome_eq_of_ends (prepare_ends_of (fun mailbox taken => ?_) ?_)
  · rw [taken]
  · intro pending mailbox taken
    rw [taken]
    exact ends_outcome _ _

/-- **A preparation counts the frame that it uploads**, also where the
canvas is refused. -/
theorem prepare_counts (r : Renderer δ) :
    prepare.Ends r
      (fun uploaded t => uploaded = r.uploads ∧ t.accounts =
        (r.mailbox.take.2, r.textures.drawnFrames + r.uploads.toNat))
      (fun _ t => t.accounts =
        (r.mailbox.take.2, r.textures.drawnFrames + r.uploads.toNat))
      fun _ => True := by
  refine prepare_ends_of (fun mailbox htake => ?_) fun pending mailbox htake => ?_
  · have no : r.uploads = false := by
      unfold uploads
      rw [htake]
    rw [no, htake]
    exact ⟨rfl, rfl⟩
  · rw [htake]
    unfold consume
    rw [ends_bind]
    -- what the frame's upload answered is what the count goes by
    refine ((takePending_counts pending _).and (ends_outcome _ _)).mono ?_ ?_ fun _ _ => trivial
    · rintro uploaded t ⟨ht, e⟩
      have yes : r.uploads = uploaded := by
        unfold uploads
        rw [htake]
        dsimp only
        rw [e, yields]
      rw [yes, ends_bind]
      exact (takeCanvas_keeps_accounts pending t).mono (fun _ u hu => ⟨rfl, hu.trans ht⟩)
        (fun _ u hu => hu.trans ht) fun _ => id
    · rintro x t ⟨ht, e⟩
      have no : r.uploads = false := by
        unfold uploads
        rw [htake]
        dsimp only
        rw [e]
        rfl
      rw [no]
      exact ht

end Renderer

/-! ## Runs -/

namespace Transition

/-- Whether a preparation answered that a frame was uploaded. -/
def uploaded (x : Transition δ) : Bool :=
  match x.move, x.answer with
  | .ask .prepare, .flag yes => yes
  | _, _ => false

/-- **Whether a preparation failed after it had uploaded its frame.** -/
def cutShort [Device δ] (x : Transition δ) : Bool :=
  match x.move, x.answer with
  | .ask .prepare, .failed _ => x.before.uploads
  | _, _ => false

/-- Only a preparation that failed was cut short. -/
theorem cutShort_eq_false [Device δ] {x : Transition δ}
    (h : x.move = .ask .prepare → ∀ error, x.answer ≠ .failed error) : x.cutShort = false := by
  unfold cutShort
  split
  · next hx ha => exact (h hx _ ha).elim
  · rfl

/-- How many frames were uploaded by the preparations of a run: by those that
said so, and by those that failed afterwards. -/
def uploads [Device δ] (past : List (Transition δ)) : Nat :=
  past.countP uploaded + past.countP cutShort

theorem uploads_cons [Device δ] (x : Transition δ) (past : List (Transition δ)) :
    uploads (x :: past) = uploads past + x.uploaded.toNat + x.cutShort.toNat := by
  unfold uploads
  rw [List.countP_cons, List.countP_cons]
  generalize x.uploaded = yes
  generalize x.cutShort = cut
  cases yes <;> cases cut <;> simp <;> omega

/-- Only a preparation uploads. -/
theorem uploads_cons_of_ne [Device δ] {x : Transition δ} (past : List (Transition δ))
    (h : ∀ request, x.move = .ask request → request ≠ .prepare) :
    uploads (x :: past) = uploads past := by
  have no : x.uploaded = false := by
    unfold uploaded
    split
    · next hx _ => exact (h _ hx rfl).elim
    · rfl
  have no' : x.cutShort = false := cutShort_eq_false fun hx => (h _ hx rfl).elim
  rw [uploads_cons, no, no']
  rfl

end Transition

theorem Mirrors.setting {m : Mailbox} {past : List (Transition δ)} (h : Mirrors m past)
    {x : Transition δ} {request : Request} (hx : x.move = .ask request)
    (setting : request.isSetting = true) : Mirrors m (x :: past) := by
  cases request with
  | present | drawOsd | prepare | render | release => cases setting
  | _ =>
    exact h.other (by rw [frames, hx]) (by rw [canvases, hx]) (by rw [latest, hx])
      (by rw [taken, hx])

namespace Run

variable [Device δ] {start r : Renderer δ} {device : δ} {past : List (Transition δ)}

/-- **The mailbox and the count of drawn frames are read off the run.** -/
theorem accounts (fresh : start.core = .initial device) (run : Run start past r) :
    Mirrors r.mailbox past ∧ r.textures.drawnFrames = Transition.uploads past := by
  induction run with
  | start =>
    have textures : start.textures = .initial := congrArg Renderer.Core.textures fresh
    refine ⟨mirrors_core.1 ?_, congrArg UploadEngine.drawnFrames textures⟩
    rw [fresh]
    exact mirrors_initial
  | adjust run change ih =>
    refine ⟨ih.1.other rfl rfl rfl rfl, ih.2.trans (Transition.uploads_cons_of_ne _ ?_).symm⟩
    exact fun request h => nomatch h
  | @ask past r request answer r' run e ih =>
    obtain ⟨mirrors, drawn⟩ := ih
    have other (h : request ≠ .prepare) (ht : r'.textures.drawnFrames = r.textures.drawnFrames) :
        r'.textures.drawnFrames =
          Transition.uploads (⟨r, .ask request, answer, r'⟩ :: past) := by
      rw [ht, drawn, Transition.uploads_cons_of_ne]
      rintro request' ⟨⟩
      exact h
    -- a setting leaves the core, and five requests are left
    by_cases setting : request.isSetting = true
    · have core := Renderer.core_perform_setting setting e
      have textures : r'.textures = r.textures := congrArg Renderer.Core.textures core
      refine ⟨?_, other ?_ (congrArg UploadEngine.drawnFrames textures)⟩
      · rw [← mirrors_core, core, mirrors_core]
        exact mirrors.setting rfl setting
      · rintro rfl
        cases setting
    cases request with
    | present frame check =>
      cases e
      have core := Renderer.core_present r frame check
      have textures : (r.present frame check).textures = r.textures :=
        congrArg Renderer.Core.textures core
      refine ⟨?_, other (fun h => nomatch h) (congrArg UploadEngine.drawnFrames textures)⟩
      rw [← mirrors_core, core]
      exact (mirrors_core.2 mirrors).storeFrame rfl
    | drawOsd bitmaps =>
      obtain ⟨r', hr, e⟩ := Checked.bind_eq_ok.1 e
      cases e
      obtain ⟨canvas, skipped, hcompose, core⟩ := Renderer.core_drawOsd hr
      have textures : r'.textures = r.textures := congrArg Renderer.Core.textures core
      refine ⟨?_, other (fun h => nomatch h) (congrArg UploadEngine.drawnFrames textures)⟩
      rw [← mirrors_core, core]
      exact (mirrors_core.2 mirrors).storeCanvas rfl hcompose
    | prepare =>
      have counts := Renderer.prepare_counts r
      obtain ⟨uploaded, hm, rfl⟩ | ⟨x, hm, rfl⟩ := Renderer.answered_eq_ok e
      · obtain ⟨rfl, ht⟩ := counts.of_ok hm
        have mailbox : r'.mailbox = r.mailbox.take.2 := congrArg Prod.fst ht
        have count : r'.textures.drawnFrames = _ := congrArg Prod.snd ht
        refine ⟨mailbox ▸ mirrors.take rfl, ?_⟩
        rw [count, drawn, Transition.uploads_cons]
        rfl
      · have ht := counts.of_error hm
        have mailbox : r'.mailbox = r.mailbox.take.2 := congrArg Prod.fst ht
        have count : r'.textures.drawnFrames = _ := congrArg Prod.snd ht
        refine ⟨mailbox ▸ mirrors.take rfl, ?_⟩
        rw [count, drawn, Transition.uploads_cons]
        rfl
    | render =>
      have ht : r'.accounts = r.accounts := by
        obtain ⟨a, hm, -⟩ | ⟨x, hm, -⟩ := Renderer.answered_eq_ok e
        · exact (Renderer.render_keeps_accounts r).of_ok hm
        · exact (Renderer.render_keeps_accounts r).of_error hm
      have mailbox : r'.mailbox = r.mailbox := congrArg Prod.fst ht
      refine ⟨?_, other (fun h => nomatch h) (congrArg Prod.snd ht)⟩
      rw [mailbox]
      exact mirrors.other rfl rfl rfl rfl
    | release =>
      cases e
      have ht := Renderer.accounts_release r
      have mailbox : r.release.mailbox = r.mailbox := congrArg Prod.fst ht
      refine ⟨?_, other (fun h => nomatch h) (congrArg Prod.snd ht)⟩
      rw [mailbox]
      exact mirrors.other rfl rfl rfl rfl
    | _ => exact (setting rfl).elim

end Run

/-- **The mailbox is the list of what was stored since the last preparation.**
After any run of a renderer on any device, refused calls and changes of the
device included, a preparation does nothing if nothing was stored since the
last one, and otherwise takes the last frame, with a check if any frame
since then asked for one, and the last canvas.

Every frame that was presented was dropped, was taken by a preparation, or
waits. The frames counted as drawn are those of the preparations that
answered yes, and of those that failed after they had uploaded their
frame. -/
theorem prepare_takes_pending [Device δ] {device : δ} {config : RendererConfig}
    {past : List (Transition δ)} {r : Renderer δ}
    (run : Run (.withConfig device config) past r) :
    (Renderer.prepare.outcome r =
      match pending past with
      | none => .ok (.ok false, r)
      | some waiting => (Renderer.consume waiting).outcome { r with
          mailbox := { r.mailbox with framePending := false, canvasPending := false } }) ∧
    (r.mailbox.framePending = true ↔ frames past ≠ []) ∧
    r.mailbox.presented =
      r.mailbox.dropped + taken past + (if r.mailbox.framePending then 1 else 0) ∧
    r.textures.drawnFrames =
      past.countP Transition.uploaded + past.countP Transition.cutShort := by
  obtain ⟨mirrors, drawn⟩ := run.accounts (Renderer.core_withConfig device config)
  refine ⟨?_, ?_, mirrors.presented, drawn⟩
  · rw [Renderer.prepare_outcome, ← mirrors.take_eq]
    unfold Mailbox.take
    by_cases waits : (r.mailbox.framePending || r.mailbox.canvasPending) = true
    · rw [if_pos waits]
    · rw [if_neg waits]
  · rw [mirrors.framePending]
    simp

/-- A black pixel. -/
def VideoFrame.blackPixel : VideoFrame := ⟨⟨.rgba, 1, 1, [⟨4, 1⟩]⟩, [⟨#[0, 0, 0, 255], 4⟩]⟩

/-- Of two frames the second one is taken, and it is checked because the
first one was to be. -/
theorem prepare_takes_pending_overwritten :
    let start : Renderer Recorder := .withConfig .initial .standard
    let second : VideoFrame := ⟨⟨.rgba, 1, 1, [⟨4, 1⟩]⟩, [⟨#[255, 255, 255, 255], 4⟩]⟩
    let r := (start.present .blackPixel true).present second false
    ∃ past, Run start past r ∧
      Renderer.prepare.outcome r = (Renderer.consume ⟨some (second, true), none⟩).outcome { r with
        mailbox := { r.mailbox with framePending := false, canvasPending := false } } ∧
      r.mailbox.presented = r.mailbox.dropped + 1 ∧ r.textures.drawnFrames = 0 := by
  intro start second r
  have e₁ : start.perform (.present .blackPixel true) =
      .ok (.done, start.present .blackPixel true) := rfl
  have e₂ : (start.present .blackPixel true).perform (.present second false) = .ok (.done, r) := rfl
  have run := (Run.start.ask e₁).ask e₂
  clear_value r
  obtain ⟨outcome, waits, presented, drawn⟩ := prepare_takes_pending run
  rw [if_pos (waits.2 fun h => nomatch h)] at presented
  exact ⟨_, run, outcome, presented, drawn⟩

/-! ## A canvas that is refused

A pixel and a canvas of its size are stored, on a device that refuses the
second write. The first write is the one of the pixel, so the preparation
fails with the frame uploaded. -/

namespace Flaky

/-- A device that refuses the second write. -/
def secondWriteRefused : Flaky Recorder := (reliable .initial).plan .writeTexture ⟨1, 1⟩

/-- The device with the texture of the overlay of a pixel. -/
def overlayMade : Flaky Recorder :=
  { secondWriteRefused with device := Recorder.initial.added ⟨"osd", 1, 1, .rgba8⟩ }

/-- The device with the texture of the pixel, too. -/
def pixelMade : Flaky Recorder :=
  { overlayMade with device := overlayMade.device.added ⟨"video slot 0", 1, 1, .rgba8⟩ }

/-- A device that takes a pixel, and then no write. -/
structure PixelReady (f : Flaky Recorder) : Prop where
  /-- The textures are there. -/
  textures : f.device.textures = pixelMade.device.textures
  /-- No write was counted yet. -/
  plans : f.plans = secondWriteRefused.plans

end Flaky

/-- A white bitmap of one pixel. -/
def SubtitleBitmap.whitePixel : SubtitleBitmap := .tight 0 0 1 1 #[255, 255, 255, 255]

/-- The textures made for a pixel. -/
def UploadEngine.onePixel : UploadEngine where
  slots := #v[some ⟨⟨2⟩, 1, 1, .rgba8⟩, none, none]
  format := VideoFrame.blackPixel.format
  correction := VideoFrame.blackPixel.format.strideCorrection
  drawnFrames := 0

namespace Renderer

open Flaky VideoFrame

theorem overlay_pixel {s : OsdLayer × Bench (Flaky Recorder)} {enabled : Bool}
    (layer : s.1 = .initial enabled) (device : s.2.device = secondWriteRefused) :
    (OsdLayer.setFrameSize blackPixel.format.size).Ends s
      (fun _ t => t.1 = ⟨enabled, (1, 1), none, some ⟨1⟩, none, false⟩ ∧ t.2.device = overlayMade)
      (fun _ _ => False) fun _ => False := by
  obtain ⟨_, _, log⟩ := s
  cases layer
  cases device
  exact And.intro rfl rfl

theorem slots_pixel {s : UploadEngine × Bench (Flaky Recorder)} (engine : s.1 = .initial)
    (device : s.2.device = overlayMade) :
    (UploadEngine.ensureAllocated blackPixel.format).Ends s
      (fun _ t => t.1 = .onePixel ∧ t.2.device = pixelMade)
      (fun _ _ => False) fun _ => False := by
  obtain ⟨_, _, log⟩ := s
  cases engine
  cases device
  exact And.intro rfl rfl

theorem program_pixel (source : String) :
    (Device.createProgram ⟨"video", source, false⟩).Ends pixelMade (fun _ f => f.PixelReady)
      (fun _ _ => False) fun _ => False :=
  PixelReady.mk rfl rfl

theorem upload_pixel {s : UploadEngine × Bench (Flaky Recorder)} (engine : s.1 = .onePixel)
    (device : s.2.device.PixelReady) :
    (UploadEngine.upload blackPixel).Ends s
      (fun yes t => yes = true ∧ t.1.drawnFrames = 1 ∧
        t.2.device.plans.get? .writeTexture = some ⟨0, 1⟩)
      (fun _ _ => False) fun _ => False := by
  obtain ⟨_, ⟨⟨_, _, _, _, _, _, _, _⟩, _⟩, log⟩ := s
  obtain ⟨textures, plans⟩ := device
  cases engine
  cases textures
  cases plans
  exact And.intro rfl (And.intro rfl rfl)

theorem resetFormat_pixel {r : Renderer (Flaky Recorder)} {enabled : Bool}
    (device : r.bench.device = secondWriteRefused) (textures : r.textures = .initial)
    (overlay : r.overlay = .initial enabled) :
    (resetFormat blackPixel.format true).Ends r
      (fun _ t => t.core.device = pixelMade ∧ t.core.textures = .onePixel ∧
        t.core.overlay = ⟨false, (1, 1), none, some ⟨1⟩, none, false⟩ ∧
        t.core.format = blackPixel.format ∧ t.core.program = r.program ∧
        t.core.programKey = r.programKey)
      (fun _ _ => False) fun _ => False := by
  unfold resetFormat
  simp only [ends_bind, ends_modify, ends_onOverlay, ends_onTextures]
  refine (overlay_pixel overlay device).mono ?_ (fun _ _ => id) fun _ => id
  rintro - ⟨o, b⟩ ⟨rfl, hd⟩
  refine (slots_pixel textures hd).mono ?_ (fun _ _ => id) fun _ => id
  rintro - ⟨e, b⟩ ⟨rfl, hd⟩
  rw [if_pos trivial, ends_modify]
  have same {u : Renderer (Flaky Recorder)} := core_updateGeometry u
  exact ⟨(congrArg Core.device same).trans hd, congrArg Core.textures same,
    congrArg Core.overlay same, congrArg Core.format same, congrArg Core.program same,
    congrArg Core.programKey same⟩

theorem ensureProgram_pixel {r : Renderer (Flaky Recorder)} (device : r.bench.device = pixelMade)
    (program : r.program = none) (key : r.programKey = none) :
    ensureProgram.Ends r
      (fun _ t => t.bench.device.PixelReady ∧ t.textures = r.textures ∧ t.overlay = r.overlay)
      (fun _ _ => False) fun _ => False := by
  unfold ensureProgram
  rw [ends_bind, ends_get]
  dsimp only
  have unasked : ¬ r.programKey = some (r.shader.programKey r.format.pixelType) := by
    rw [key]
    exact fun h => nomatch h
  rw [if_neg unasked]
  simp only [ends_bind, ends_modify]
  unfold dropProgram
  rw [program]
  dsimp only
  split
  · refine ⟨⟨?_, ?_⟩, rfl, rfl⟩
    · exact congrArg (fun f => f.device.textures) device
    · exact (congrArg Flaky.plans device).trans rfl
  · next source _ =>
    simp only [ends_bind, ends_attempt, ends_onDevice, ends_modify]
    rw [device]
    refine (program_pixel source).mono ?_ (fun _ _ => False.elim) fun _ => id
    exact fun _ f ready => ⟨ready, rfl, rfl⟩

theorem takePending_pixel {r : Renderer (Flaky Recorder)} {canvas : Option OsdImage}
    {enabled : Bool} (device : r.bench.device = secondWriteRefused) (format : r.format = .empty)
    (textures : r.textures = .initial) (overlay : r.overlay = .initial enabled)
    (program : r.program = none) (key : r.programKey = none) :
    (takePending ⟨some (blackPixel, true), canvas⟩).Ends r
      (fun yes t => yes = true ∧
        t.core.overlay = ⟨false, (1, 1), none, some ⟨1⟩, none, false⟩ ∧
        t.textures.drawnFrames = 1 ∧ t.bench.device.plans.get? .writeTexture = some ⟨0, 1⟩)
      (fun _ _ => False) fun _ => False := by
  unfold takePending
  have differs : (r.compares blackPixel true && !r.format.same blackPixel.format) = true := by
    rw [format]
    rfl
  refine takeFrame_ends_of (fun _ => ?_) fun same => (same differs).elim
  rw [ends_bind]
  refine (resetFormat_pixel device textures overlay).mono ?_ (fun _ _ => id) fun _ => id
  rintro - t ⟨hd, ht, ho, -, hp, hk⟩
  rw [ends_fill]
  refine (ensureProgram_pixel hd (hp.trans program) (hk.trans key)).mono ?_ (fun _ _ => id)
    fun _ => id
  rintro - u ⟨ready, ht', ho'⟩
  unfold uploadFrame
  simp only [ends_bind, ends_attempt, ends_onTextures]
  refine (upload_pixel (ht'.trans ht) ready).mono ?_ (fun _ _ => False.elim) fun _ => id
  rintro - ⟨e, b⟩ ⟨rfl, hd', hplan⟩
  refine ⟨rfl, ?_, hd', hplan⟩
  show { u.overlay with enabled := false } = _
  rw [ho']
  exact ho

theorem canvas_pixel {s : OsdLayer × Bench (Flaky Recorder)} {enabled : Bool} {canvas : OsdImage}
    (layer : s.1 = ⟨enabled, (1, 1), some canvas, some ⟨1⟩, none, false⟩)
    (width : canvas.width = 1) (height : canvas.height = 1) (seen : canvas.blank = false)
    (plans : s.2.device.plans.get? .writeTexture = some ⟨0, 1⟩) :
    OsdLayer.upload.Ends s (fun _ _ => False) (fun _ _ => True) fun _ => False := by
  obtain ⟨_, ⟨f, log⟩⟩ := s
  cases layer
  have size : ¬ (canvas.width, canvas.height) ≠ (1, 1) := by
    rw [width, height]
    exact fun h => h rfl
  have written : (!canvas.blank) = true := by rw [seen]; rfl
  unfold OsdLayer.upload
  rw [ends_bind, ends_get]
  dsimp only
  rw [if_neg (by decide), if_neg size, if_pos written]
  simp only [ends_bind, ends_ofChecked, Bench.ends_call, Checked.fit32_eq_ok]
  constructor
  · rintro - ⟨-, rfl⟩
    show (Flaky.guarded _ _).Ends _ _ _ _
    unfold Flaky.guarded
    rw [ends_bind, ends_get, plans]
    exact trivial
  · intro e he
    rw [width] at he
    cases he

theorem prepare_pixel {r : Renderer (Flaky Recorder)} {canvas : OsdImage}
    (fresh : r.core = { Core.initial secondWriteRefused with
      mailbox := (Mailbox.initial.storeFrame blackPixel true).storeCanvas canvas })
    (width : canvas.width = 1) (height : canvas.height = 1) (seen : canvas.blank = false) :
    prepare.Ends r (fun _ _ => False) (fun _ t => t.textures.drawnFrames = 1)
      fun _ => False := by
  have taken : r.mailbox.take.1 = some ⟨some (blackPixel, true), some canvas⟩ := by
    have framePending : r.mailbox.framePending = true := congrArg (·.mailbox.framePending) fresh
    have canvasPending : r.mailbox.canvasPending = true := congrArg (·.mailbox.canvasPending) fresh
    have frame : r.mailbox.frame = blackPixel := congrArg (·.mailbox.frame) fresh
    have check : r.mailbox.checkFormat = true := congrArg (·.mailbox.checkFormat) fresh
    have drawn : r.mailbox.canvas = some canvas := congrArg (·.mailbox.canvas) fresh
    unfold Mailbox.take
    rw [framePending, canvasPending, frame, check, drawn]
    rfl
  have layer : { r.overlay with enabled := false } = OsdLayer.initial false :=
    congrArg Core.overlay fresh
  have overlay : r.overlay = .initial r.overlay.enabled :=
    congrArg (fun o : OsdLayer => { o with enabled := r.overlay.enabled }) layer
  refine prepare_ends_of (fun mailbox idle => ?_) fun pending mailbox busy => ?_
  · rw [idle] at taken
    cases taken
  rw [busy] at taken
  cases taken
  unfold consume
  rw [ends_bind]
  refine (takePending_pixel (r := { r with mailbox }) (congrArg Core.device fresh)
    (congrArg Core.format fresh) (congrArg Core.textures fresh) overlay
    (congrArg Core.program fresh) (congrArg Core.programKey fresh)).mono ?_
    (fun _ _ => False.elim) fun _ => id
  rintro - t ⟨rfl, ho, drawn, plans⟩
  rw [ends_bind]
  have refused : (takeCanvas ⟨some (blackPixel, true), some canvas⟩).Ends t (fun _ _ => False)
      (fun _ _ => True) fun _ => False := by
    unfold takeCanvas
    simp only [ends_bind, ends_modify, ends_onOverlay]
    have layer' : t.overlay.setImage canvas =
        ⟨t.overlay.enabled, (1, 1), some canvas, some ⟨1⟩, none, false⟩ :=
      congrArg (fun o : OsdLayer =>
        { o with enabled := t.overlay.enabled, image := some canvas, uploaded := false }) ho
    exact canvas_pixel layer' width height seen plans
  refine (refused.and (takeCanvas_keeps_accounts _ t)).mono (fun _ _ h => h.1.elim) ?_
    fun _ h => h.1
  rintro - u ⟨-, hu⟩
  exact (congrArg Prod.snd hu).trans drawn

end Renderer

/-- **A frame is counted although no preparation answered yes.** -/
theorem refused_canvas_leaves_frame_counted : ∃ past r,
    Run (.withConfig Flaky.secondWriteRefused .standard) past r ∧
      past.map Transition.move =
        [.ask .prepare, .ask (.drawOsd [.whitePixel]), .ask (.present .blackPixel true)] ∧
      r.textures.drawnFrames = 1 ∧ past.countP Transition.uploaded = 0 := by
  have fresh := Renderer.core_withConfig Flaky.secondWriteRefused .standard
  generalize Renderer.withConfig Flaky.secondWriteRefused .standard = start at *
  have first := Renderer.core_present start .blackPixel true
  rw [fresh] at first
  generalize hr₁ : start.present .blackPixel true = r₁ at first
  have frame : r₁.mailbox.frame = .blackPixel := congrArg (·.mailbox.frame) first
  obtain ⟨canvas, composed, width, height, seen⟩ : ∃ canvas,
      OsdImage.compose 1 1 [.whitePixel] = .ok (canvas, []) ∧ canvas.width = 1 ∧
        canvas.height = 1 ∧ canvas.blank = false := ⟨_, rfl, rfl, rfl, rfl⟩
  obtain ⟨r₂, drawn⟩ : ∃ r₂, r₁.drawOsd [.whitePixel] = .ok r₂ := by
    unfold Renderer.drawOsd
    rw [frame]
    exact ⟨_, rfl⟩
  obtain ⟨canvas', _, composed', second⟩ := Renderer.core_drawOsd drawn
  rw [frame] at composed'
  cases composed.symm.trans composed'
  rw [first] at second
  obtain ⟨e, r₃, refused, counted⟩ := (Renderer.prepare_pixel second width height seen).exists_error
  have e₁ : start.perform (.present .blackPixel true) = .ok (.done, r₁) := by
    rw [← hr₁]
    rfl
  have e₂ : r₁.perform (.drawOsd [.whitePixel]) = .ok (.done, r₂) := by
    show Except.bind _ _ = _
    rw [drawn]
    rfl
  have e₃ : r₂.perform .prepare = .ok (.failed e, r₃) := by
    show Except.bind _ _ = _
    rw [refused]
    rfl
  exact ⟨_, r₃, ((Run.start.ask e₁).ask e₂).ask e₃, rfl, counted, rfl⟩

end Projector
