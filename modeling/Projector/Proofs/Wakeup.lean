import Mathlib.Logic.Relation
import Projector.Proofs.Mailbox
import Projector.Proofs.Redraw

/-!
# No wake-up is lost

Whoever decodes and whoever draws run side by side. What keeps them apart is
small: a sender stores a frame or a canvas under a lock and then, as a step of
its own, asks for a redraw; a host receives a request and then, as a step of its
own, takes what was stored. Requests coalesce, so a sender's request is dropped
where one is outstanding, and between any two steps everybody else may run.

`Exchange` is the mailbox with any number of senders and a host, and
`Exchange.Next` has one constructor for each locked section and for each action
on the channel. The invariant is that what waits is never forgotten: a sender is
about to ask, or a request is outstanding, or the host has received one and is
about to take (`Exchange.Awake`).

What a renderer does to its mailbox, one request after the other, is one of the
interleavings (`Run.interleaved`).
-/

namespace Projector

open Relation

/-- Whether a frame or a canvas waits to be taken. -/
def Mailbox.waits (m : Mailbox) : Bool := m.framePending || m.canvasPending

/-- **Nothing waits once it was taken.** -/
theorem Mailbox.waits_take (m : Mailbox) : m.take.2.waits = false := by
  unfold take waits
  split
  · rfl
  · next none => exact (Bool.not_eq_true _).mp none

/-! ## Senders and a host -/

/-- **Where a sender is** in its call. -/
inductive Sender where
  /-- It makes no call. -/
  | idle
  /-- It has read the size of the latest frame and composes a canvas. -/
  | composing (size : Nat × Nat) (bitmaps : List SubtitleBitmap)
  /-- It has stored a frame or a canvas and has not asked for a redraw yet. -/
  | stored

/-- **A mailbox, its senders and a host.** -/
structure Exchange (ι : Type) where
  /-- The slots, and whether a redraw request is outstanding. -/
  mailbox : Mailbox
  /-- Where each sender is. -/
  senders : ι → Sender
  /-- Whether the host has received a request and has not prepared since. -/
  notified : Bool
  /-- How many requests went into the channel. -/
  accepted : Nat
  /-- How many requests were received from it. -/
  received : Nat

namespace Exchange

variable {ι : Type}

/-- Nothing happened yet. -/
def initial : Exchange ι := ⟨.initial, fun _ => .idle, false, 0, 0⟩

/-- **How many requests the channel holds.** -/
def held (x : Exchange ι) : Nat := x.accepted - x.received

/-- Somebody asks for a redraw. A request that the channel does not take is
dropped. -/
def post (x : Exchange ι) : Exchange ι :=
  let (posted, mailbox) := x.mailbox.requestRedraw
  { x with mailbox, accepted := x.accepted + posted.toNat }

/-- The host looks for a request. -/
def receive (x : Exchange ι) : Exchange ι :=
  let (received, mailbox) := x.mailbox.receiveRedraw
  { x with mailbox, received := x.received + received.toNat, notified := x.notified || received }

/-- The host takes what waits. -/
def prepare (x : Exchange ι) : Exchange ι := { x with mailbox := x.mailbox.take.2, notified := false }

variable [DecidableEq ι]

/-- A sender goes on. -/
def move (x : Exchange ι) (i : ι) (sender : Sender) : Exchange ι :=
  { x with senders := Function.update x.senders i sender }

/-- **One step of anybody**: a locked section, or an action on the channel. -/
inductive Next : Exchange ι → Exchange ι → Prop
  /-- A sender stores a frame. -/
  | storeFrame {x i} (idle : x.senders i = .idle) (frame : VideoFrame) (check : Bool) :
    Next x { x.move i .stored with mailbox := x.mailbox.storeFrame frame check }
  /-- A sender reads the size of the latest frame, for a canvas. -/
  | measure {x i} (idle : x.senders i = .idle) (bitmaps : List SubtitleBitmap) :
    Next x (x.move i (.composing x.mailbox.frame.format.size bitmaps))
  /-- A sender stores the canvas that it has composed. -/
  | storeCanvas {x i size bitmaps canvas skipped} (composing : x.senders i = .composing size bitmaps)
    (composed : OsdImage.compose size.1 size.2 bitmaps = .ok (canvas, skipped)) :
    Next x { x.move i .stored with mailbox := x.mailbox.storeCanvas canvas }
  /-- A sender breaks while it composes a canvas. -/
  | abandon {x i size bitmaps fault} (composing : x.senders i = .composing size bitmaps)
    (broken : OsdImage.compose size.1 size.2 bitmaps = .error fault) : Next x (x.move i .idle)
  /-- A sender that has stored something asks for a redraw. -/
  | ask {x i} (stored : x.senders i = .stored) : Next x (x.post.move i .idle)
  /-- A setter asks for a redraw. -/
  | set {x} : Next x x.post
  /-- The host looks for a request. -/
  | receive {x} : Next x x.receive
  /-- The host prepares. -/
  | prepare {x} : Next x x.prepare

/-- **What anybody can bring about**, in any order of the steps. -/
def Reachable (x : Exchange ι) : Prop := ReflTransGen Next initial x

/-! ## What every step keeps -/

omit [DecidableEq ι] in
/-- **Nothing that waits is forgotten.** -/
structure Awake (x : Exchange ι) : Prop where
  /-- The channel holds a request exactly if one is outstanding. -/
  counted : x.accepted = x.received + x.mailbox.redraw.toNat
  /-- If something waits, a sender is about to ask, or a request is outstanding,
  or the host is about to prepare. -/
  woken : x.mailbox.waits = true →
    (∃ i, x.senders i = .stored) ∨ x.mailbox.redraw = true ∨ x.notified = true

namespace Awake

variable {x y : Exchange ι} {i : ι}

omit [DecidableEq ι] in
/-- Asking leaves a request. -/
theorem post (h : Awake x) : Awake x.post := by
  refine ⟨?_, fun _ => .inr (.inl rfl)⟩
  show x.accepted + (!x.mailbox.redraw).toNat = x.received + 1
  rw [h.counted]
  cases x.mailbox.redraw <;> rfl

omit [DecidableEq ι] in
/-- What is received is not forgotten. -/
theorem receive (h : Awake x) : Awake x.receive := by
  refine ⟨?_, fun waits => ?_⟩
  · exact h.counted.trans rfl
  · obtain stored | outstanding | notified := h.woken waits
    · exact .inl stored
    · refine .inr (.inr ?_)
      show (x.notified || x.mailbox.redraw) = true
      rw [outstanding, Bool.or_true]
    · refine .inr (.inr ?_)
      show (x.notified || x.mailbox.redraw) = true
      rw [notified, Bool.true_or]

omit [DecidableEq ι] in
/-- Nothing waits after a preparation. -/
theorem prepare (h : Awake x) : Awake x.prepare := by
  refine ⟨?_, fun waits => ?_⟩
  · have redraw : x.mailbox.take.2.redraw = x.mailbox.redraw := by
      unfold Mailbox.take
      split <;> rfl
    show x.accepted = x.received + x.mailbox.take.2.redraw.toNat
    rw [redraw]
    exact h.counted
  · cases (x.mailbox.waits_take).symm.trans waits

/-- A sender that has stored something is about to ask, whatever it stored. -/
theorem store (h : Awake x) {mailbox : Mailbox} (redraw : mailbox.redraw = x.mailbox.redraw) :
    Awake { x.move i .stored with mailbox } :=
  ⟨h.counted.trans (congrArg (fun b => x.received + b.toNat) redraw.symm), fun _ =>
    .inl ⟨i, Function.update_self ..⟩⟩

/-- A sender that has nothing stored is not needed. -/
theorem move (h : Awake x) (other : x.senders i ≠ .stored) (sender : Sender) :
    Awake (x.move i sender) := by
  refine ⟨h.counted, fun waits => ?_⟩
  obtain ⟨j, stored⟩ | rest := h.woken waits
  · refine .inl ⟨j, ?_⟩
    have apart : j ≠ i := by
      rintro rfl
      exact other stored
    exact (Function.update_of_ne apart ..).trans stored
  · exact .inr rest

/-- A sender that has asked is not needed: its request is there. -/
theorem ask (h : Awake x) (sender : Sender) : Awake (x.post.move i sender) :=
  ⟨h.post.counted, fun _ => .inr (.inl rfl)⟩

/-- **Every step keeps it.** -/
theorem next (h : Awake x) (step : Next x y) : Awake y := by
  cases step with
  | storeFrame => exact h.store rfl
  | measure idle => exact h.move (fun stored => nomatch idle.symm.trans stored) _
  | storeCanvas => exact h.store rfl
  | abandon composing => exact h.move (fun stored => nomatch composing.symm.trans stored) _
  | ask => exact h.ask _
  | set => exact h.post
  | receive => exact h.receive
  | prepare => exact h.prepare

/-- **And so it holds whatever happens.** -/
theorem of_reachable (reachable : Reachable x) : Awake x := by
  induction reachable with
  | refl => exact ⟨rfl, fun waits => nomatch waits⟩
  | tail _ step ih => exact ih.next step

end Awake

/-- **What waits can be taken by a host that prepares only when it was told**: a
few steps lead to a host that has received a request, and it still waits. -/
theorem exists_notified {x : Exchange ι} (reachable : x.Reachable)
    (waits : x.mailbox.waits = true) :
    ∃ y, ReflTransGen Next x y ∧ y.notified = true ∧ y.mailbox.waits = true := by
  -- a request that is outstanding is received
  have received {z : Exchange ι} (outstanding : z.mailbox.redraw = true) :
      z.receive.notified = true := by
    show (z.notified || z.mailbox.redraw) = true
    rw [outstanding, Bool.or_true]
  obtain ⟨i, stored⟩ | outstanding | notified := (Awake.of_reachable reachable).woken waits
  · exact ⟨_, .tail (.single (.ask stored)) .receive, received rfl, waits⟩
  · exact ⟨_, .single .receive, received outstanding, waits⟩
  · exact ⟨x, .refl, notified, waits⟩

/-! ## Whole calls -/

/-- **One whole call of a sender**, from a state in which every sender is idle to
another one. -/
structure Called (x : Exchange ι) (mailbox : Mailbox) (y : Exchange ι) : Prop where
  /-- The steps were made. -/
  steps : ReflTransGen Next x y
  /-- What was stored is there, and a redraw is asked for. -/
  mailbox : y.mailbox = mailbox.requestRedraw.2
  /-- Every sender is idle. -/
  idle : ∀ i, y.senders i = .idle
  /-- The host knows what it knew. -/
  notified : y.notified = x.notified

/-- A call is carried through once the only sender in a call has stored
something. -/
theorem exists_called {x z : Exchange ι} {i : ι} (steps : ReflTransGen Next x z)
    (stored : z.senders i = .stored) (others : ∀ j, j ≠ i → z.senders j = .idle)
    (notified : z.notified = x.notified) : ∃ y, Called x z.mailbox y := by
  refine ⟨_, steps.tail (.ask stored), rfl, fun j => ?_, notified⟩
  by_cases same : j = i
  · rw [same]
    exact Function.update_self ..
  · exact (Function.update_of_ne same ..).trans (others j same)

/-- **A frame is presented.** -/
theorem exists_presented {x : Exchange ι} (idle : ∀ i, x.senders i = .idle) (i : ι)
    (frame : VideoFrame) (check : Bool) : ∃ y, Called x (x.mailbox.storeFrame frame check) y := by
  have stored := ReflTransGen.single (Next.storeFrame (idle i) frame check)
  exact exists_called stored (Function.update_self ..)
    (fun j apart => (Function.update_of_ne apart ..).trans (idle j)) rfl

/-- **Subtitles are drawn**: the size is read, and then the canvas is stored. -/
theorem exists_drawn {x : Exchange ι} (idle : ∀ i, x.senders i = .idle) (i : ι)
    {bitmaps : List SubtitleBitmap} {canvas : OsdImage} {skipped : List LogEvent}
    (composed : OsdImage.compose x.mailbox.frame.format.width x.mailbox.frame.format.height
      bitmaps = .ok (canvas, skipped)) :
    ∃ y, Called x (x.mailbox.storeCanvas canvas) y := by
  have measured := Next.measure (idle i) bitmaps
  generalize hz : x.move i (.composing x.mailbox.frame.format.size bitmaps) = z at measured
  have composing : z.senders i = .composing x.mailbox.frame.format.size bitmaps :=
    hz ▸ Function.update_self ..
  have others (j) (apart : j ≠ i) : z.senders j = .idle :=
    hz ▸ (Function.update_of_ne apart ..).trans (idle j)
  have mailbox : z.mailbox = x.mailbox := hz ▸ rfl
  have stored := (ReflTransGen.single measured).tail (.storeCanvas composing composed)
  rw [← mailbox]
  exact exists_called stored (Function.update_self ..)
    (fun j apart => (Function.update_of_ne apart ..).trans (others j apart)) (hz ▸ rfl)

end Exchange

/-- **No wake-up is lost.** Take a mailbox, any number of senders and a host, and
any order of their steps. The channel never holds more than one request. And if
a frame or a canvas waits, and no sender is between storing and asking, then the
channel holds a request, or the host has received one and has not prepared
since. -/
theorem no_wakeup_lost {ι : Type} [DecidableEq ι] {x : Exchange ι} (reachable : x.Reachable) :
    x.received ≤ x.accepted ∧ x.held ≤ 1 ∧
      (x.mailbox.waits = true → (∀ i, x.senders i ≠ .stored) →
        x.held = 1 ∨ x.notified = true) := by
  have awake := Exchange.Awake.of_reachable reachable
  have counted := awake.counted
  have held : x.held = x.mailbox.redraw.toNat := by
    unfold Exchange.held
    omega
  refine ⟨by omega, held ▸ Bool.toNat_le _, fun waits none => ?_⟩
  obtain ⟨i, stored⟩ | outstanding | notified := awake.woken waits
  · exact (none i stored).elim
  · exact .inl (held.trans (congrArg Bool.toNat outstanding))
  · exact .inr notified

/-- One sender presents a pixel. -/
theorem no_wakeup_lost_pixel : ∃ x : Exchange Unit, x.Reachable ∧ x.mailbox.waits = true ∧
    (∀ i, x.senders i ≠ .stored) ∧ x.notified = false ∧ x.held = 1 := by
  have stored := ReflTransGen.single (Exchange.Next.storeFrame (x := Exchange.initial)
    (i := ()) rfl .blackPixel true)
  have asked := stored.tail (.ask (i := ()) rfl)
  have quiet (i : Unit) (other : Sender.idle = .stored) : False := nomatch other
  exact ⟨_, asked, rfl, quiet, rfl, ((no_wakeup_lost asked).2.2 rfl quiet).resolve_right nofun⟩

/-! ## What a renderer does -/

namespace Renderer

variable {δ : Type}

theorem mailbox_requestRedraw (r : Renderer δ) :
    r.requestRedraw.mailbox = r.mailbox.requestRedraw.2 := by
  unfold requestRedraw
  dsimp only
  split <;> rfl

theorem mailbox_present (r : Renderer δ) (frame : VideoFrame) (check : Bool) :
    (r.present frame check).mailbox = (r.mailbox.storeFrame frame check).requestRedraw.2 :=
  mailbox_requestRedraw _

theorem mailbox_drawOsd {r t : Renderer δ} {bitmaps : List SubtitleBitmap}
    (e : r.drawOsd bitmaps = .ok t) : ∃ canvas skipped,
      OsdImage.compose r.mailbox.frame.format.width r.mailbox.frame.format.height bitmaps =
        .ok (canvas, skipped) ∧
      t.mailbox = (r.mailbox.storeCanvas canvas).requestRedraw.2 := by
  unfold drawOsd at e
  obtain ⟨⟨canvas, skipped⟩, composed, e⟩ := Checked.bind_eq_ok.1 e
  cases e
  exact ⟨canvas, skipped, composed, mailbox_requestRedraw _⟩

/-- A preparation takes what waits, whatever is answered. -/
theorem mailbox_prepare [Device δ] {r t : Renderer δ} {answer : Answer}
    (e : r.perform .prepare = .ok (answer, t)) : t.mailbox = r.mailbox.take.2 := by
  obtain ⟨uploaded, hm, -⟩ | ⟨x, hm, -⟩ := answered_eq_ok e
  · exact congrArg Prod.fst ((prepare_counts r).of_ok hm).2
  · exact congrArg Prod.fst ((prepare_counts r).of_error hm)

/-- A pass leaves the mailbox, whatever is answered. -/
theorem mailbox_render [Device δ] {r t : Renderer δ} {answer : Answer}
    (e : r.perform .render = .ok (answer, t)) : t.mailbox = r.mailbox := by
  obtain ⟨a, hm, -⟩ | ⟨x, hm, -⟩ := answered_eq_ok e
  · exact congrArg Prod.fst ((render_keeps_accounts r).of_ok hm)
  · exact congrArg Prod.fst ((render_keeps_accounts r).of_error hm)

/-- **A mutation leaves the mailbox or asks for a redraw.** -/
theorem mailbox_mutation [Device δ] {r t : Renderer δ} {request : Request} {answer : Answer}
    (mutation : request.isMutation = true) (e : r.perform request = .ok (answer, t)) :
    t.mailbox = r.mailbox ∨ t.mailbox = r.mailbox.requestRedraw.2 := by
  obtain ⟨answer', t', e', loud, silent⟩ := r.perform_mutation mutation
  cases e.symm.trans e'
  cases h : r.isSilent request with
  | true => exact .inl (silent h).1
  | false =>
    obtain rfl | asked := loud h
    · exact .inl rfl
    · have setting : request.isSetting = true := by
        cases request with
        | receiveRedraw => cases mutation
        | _ => exact mutation
      have same : { t.mailbox with redraw := false } = { r.mailbox with redraw := false } :=
        congrArg Core.mailbox (core_perform_setting setting e)
      refine .inr ?_
      calc t.mailbox = { t.mailbox with redraw := true } := by rw [← asked]
        _ = { r.mailbox with redraw := true } := congrArg (fun m => { m with redraw := true }) same

end Renderer

/-- **Whether a host has received a request** and has not prepared since. -/
def History.notified {δ : Type} : List (Transition δ) → Bool
  | [] => false
  | x :: past =>
    match x.move, x.answer with
    | .ask .prepare, _ => false
    | .ask .receiveRedraw, .flag true => true
    | _, _ => notified past

/-- **An exchange between two requests of a run.** -/
structure Exchange.Agrees {δ ι : Type} (x : Exchange ι) (r : Renderer δ)
    (past : List (Transition δ)) : Prop where
  /-- The mailbox is the renderer's. -/
  mailbox : x.mailbox = r.mailbox
  /-- No sender is in a call. -/
  idle : ∀ i, x.senders i = .idle
  /-- The host has received what the run received. -/
  notified : x.notified = History.notified past

/-- **What is asked of a renderer is some steps of an exchange**: a sender's whole
call, a preparation, a request that is received, a setter that asks, or nothing
at all. -/
theorem Renderer.perform_interleaved {δ ι : Type} [Device δ] [DecidableEq ι] (i : ι)
    {r t : Renderer δ} {past : List (Transition δ)} {request : Request} {answer : Answer}
    (e : r.perform request = .ok (answer, t)) {x : Exchange ι} (h : x.Agrees r past) :
    ∃ y : Exchange ι, ReflTransGen Exchange.Next x y ∧
      y.Agrees t (⟨r, .ask request, answer, t⟩ :: past) := by
  by_cases mutation : request.isMutation = true
  · have known : History.notified (⟨r, .ask request, answer, t⟩ :: past) =
        History.notified past := by
      cases request with
      | prepare | receiveRedraw => cases mutation
      | _ => rfl
    obtain mailbox | mailbox := mailbox_mutation mutation e
    · exact ⟨x, .refl, h.mailbox.trans mailbox.symm, h.idle, h.notified.trans known.symm⟩
    · exact ⟨_, .single .set, (congrArg (·.requestRedraw.2) h.mailbox).trans mailbox.symm, h.idle,
        h.notified.trans known.symm⟩
  cases request with
  | present frame check =>
    cases e
    obtain ⟨y, called⟩ := Exchange.exists_presented h.idle i frame check
    refine ⟨y, called.steps, called.mailbox.trans ?_, called.idle,
      called.notified.trans h.notified⟩
    rw [mailbox_present, h.mailbox]
  | drawOsd bitmaps =>
    obtain ⟨t, drawn, e⟩ := Checked.bind_eq_ok.1 e
    cases e
    obtain ⟨canvas, skipped, composed, mailbox⟩ := mailbox_drawOsd drawn
    rw [← h.mailbox] at composed mailbox
    obtain ⟨y, called⟩ := Exchange.exists_drawn h.idle i composed
    exact ⟨y, called.steps, called.mailbox.trans mailbox.symm, called.idle,
      called.notified.trans h.notified⟩
  | prepare =>
    exact ⟨_, .single .prepare, (congrArg (·.take.2) h.mailbox).trans (mailbox_prepare e).symm,
      h.idle, rfl⟩
  | render => exact ⟨x, .refl, h.mailbox.trans (mailbox_render e).symm, h.idle, h.notified⟩
  | release =>
    cases e
    exact ⟨x, .refl, h.mailbox.trans (congrArg Prod.fst (accounts_release r)).symm, h.idle,
      h.notified⟩
  | receiveRedraw =>
    cases e
    refine ⟨_, .single .receive, congrArg (·.receiveRedraw.2) h.mailbox, h.idle, ?_⟩
    show (x.notified || x.mailbox.redraw) = _
    rw [h.mailbox, h.notified]
    unfold receiveRedraw Mailbox.receiveRedraw
    cases r.mailbox.redraw with
    | true => exact Bool.or_true _
    | false => exact Bool.or_false _
  | _ => exact (mutation rfl).elim

namespace Run

variable {δ : Type} [Device δ] {device : δ} {start r : Renderer δ} {past : List (Transition δ)}

/-- **A run of a renderer is an exchange**, in which one sender makes every call
and is idle between two requests. -/
theorem interleaved {ι : Type} [DecidableEq ι] (i : ι) (fresh : start.core = .initial device)
    (run : Run start past r) : ∃ x : Exchange ι, x.Reachable ∧ x.Agrees r past := by
  induction run with
  | start =>
    have empty : { start.mailbox with redraw := false } = Mailbox.initial :=
      congrArg Renderer.Core.mailbox fresh
    have mailbox : { Mailbox.initial with redraw := start.mailbox.redraw } = start.mailbox := by
      rw [← empty]
    -- settings were taken before the run, and may have asked
    cases redraw : start.mailbox.redraw with
    | false =>
      rw [redraw] at mailbox
      exact ⟨.initial, .refl, mailbox, fun _ => rfl, rfl⟩
    | true =>
      rw [redraw] at mailbox
      exact ⟨_, .single .set, mailbox, fun _ => rfl, rfl⟩
  | adjust run change ih =>
    obtain ⟨x, reachable, agrees⟩ := ih
    exact ⟨x, reachable, agrees.mailbox, agrees.idle, agrees.notified⟩
  | ask run e ih =>
    obtain ⟨x, reachable, agrees⟩ := ih
    obtain ⟨y, steps, agrees⟩ := Renderer.perform_interleaved i e agrees
    exact ⟨y, reachable.trans steps, agrees⟩

/-- **What waits after a run is known of**: a redraw request is outstanding, or
one was received since the last preparation. -/
theorem woken (fresh : start.core = .initial device) (run : Run start past r)
    (waits : r.mailbox.waits = true) :
    r.mailbox.redraw = true ∨ History.notified past = true := by
  obtain ⟨x, reachable, agrees⟩ := run.interleaved () fresh
  obtain ⟨i, stored⟩ | known := (Exchange.Awake.of_reachable reachable).woken
    (agrees.mailbox ▸ waits)
  · cases (agrees.idle i).symm.trans stored
  · rwa [agrees.mailbox, agrees.notified] at known

end Run

end Projector
