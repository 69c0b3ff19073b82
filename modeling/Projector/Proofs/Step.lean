import Projector.Device.Bench

/-!
# What a step ends in

A step has three ways to end: with an answer, with an error, and with a
fault. The first two come with a state and the third does not. A statement
about a step says something about each of them, so `Step.Ends` takes three
conditions, and a condition that is false says that the step does not end
that way.

The rules below are equivalences, one for each way to build a step: the
conditions travel from the end of a program to its beginning, and what
remains at the beginning is a statement about the first state. A part that
has a specification of its own is not opened. It is entered with
`Step.Ends.mono`, and the conditions of the specification take its place.
-/

namespace Projector

namespace Step

variable {σ τ α β : Type}

/-- The second of two steps is taken unless the first one is refused or breaks. -/
theorem outcome_bind (m : Step σ β) (f : β → Step σ α) (s : σ) :
    (m >>= f).outcome s = (m.outcome s).bind fun p =>
      match p.1 with
      | .ok b => (f b).outcome p.2
      | .error e => .ok (.error e, p.2) := by
  show (m s).bind _ = (m s).bind _
  congr 1
  funext p
  obtain ⟨b | e, t⟩ := p <;> rfl

/-- A step on a part is the step, and then the part is put back. -/
theorem outcome_zoom (part : σ → τ) (put : τ → σ → σ) (m : Step τ α) (s : σ) :
    (zoom part put m).outcome s = (m.outcome (part s)).map fun p => (p.1, put p.2 s) := by
  show (m.outcome (part s)).bind _ = _
  cases m.outcome (part s) <;> rfl

/-- **What a step ends in**, from a state: an answer and a state that are
`good`, an error and a state that are `refused`, or a fault that is
`broken`. -/
def Ends (m : Step σ α) (s : σ) (good : α → σ → Prop) (refused : Error → σ → Prop)
    (broken : Fault → Prop) : Prop :=
  match m.outcome s with
  | .ok (.ok a, t) => good a t
  | .ok (.error e, t) => refused e t
  | .error f => broken f

section Rules

variable {s : σ} {good : α → σ → Prop} {refused : Error → σ → Prop} {broken : Fault → Prop}

/-! ## From conditions to outcomes -/

theorem Ends.of_ok {m : Step σ α} (h : m.Ends s good refused broken) {a : α} {t : σ}
    (e : m.outcome s = .ok (.ok a, t)) : good a t := by
  unfold Ends at h
  rw [e] at h
  exact h

theorem Ends.of_error {m : Step σ α} (h : m.Ends s good refused broken) {x : Error} {t : σ}
    (e : m.outcome s = .ok (.error x, t)) : refused x t := by
  unfold Ends at h
  rw [e] at h
  exact h

theorem Ends.of_fault {m : Step σ α} (h : m.Ends s good refused broken) {f : Fault}
    (e : m.outcome s = .error f) : broken f := by
  unfold Ends at h
  rw [e] at h
  exact h

/-- What holds after an answer and after an error holds after the step. -/
theorem Ends.keeps {m : Step σ α} {kept : σ → Prop}
    (h : m.Ends s (fun _ => kept) (fun _ => kept) broken) {answer : Except Error α} {t : σ}
    (e : m.outcome s = .ok (answer, t)) : kept t := by
  cases answer with
  | ok a => exact h.of_ok e
  | error x => exact h.of_error e

/-- **A step that neither refuses nor breaks has an answer.** -/
theorem Ends.exists_ok {m : Step σ α} (h : m.Ends s good (fun _ _ => False) fun _ => False) :
    ∃ a t, m.outcome s = .ok (.ok a, t) ∧ good a t := by
  unfold Ends at h
  split at h
  next a t e => exact ⟨a, t, e, h⟩
  next => exact h.elim
  next => exact h.elim

/-- A step that neither answers nor breaks is refused. -/
theorem Ends.exists_error {m : Step σ α} (h : m.Ends s (fun _ _ => False) refused fun _ => False) :
    ∃ e t, m.outcome s = .ok (.error e, t) ∧ refused e t := by
  unfold Ends at h
  split at h
  next => exact h.elim
  next e t he => exact ⟨e, t, he, h⟩
  next => exact h.elim

/-- Every step ends in its own outcome. -/
theorem ends_outcome (m : Step σ α) (s : σ) :
    m.Ends s (fun a t => m.outcome s = .ok (.ok a, t)) (fun e t => m.outcome s = .ok (.error e, t))
      fun f => m.outcome s = .error f := by
  unfold Ends
  split <;> assumption

/-- **A step has an outcome if it ends in it.** -/
theorem outcome_eq_of_ends {m : Step σ α} {outcome : Checked (Except Error α × σ)}
    (h : m.Ends s (fun a t => outcome = .ok (.ok a, t)) (fun e t => outcome = .ok (.error e, t))
      fun f => outcome = .error f) : m.outcome s = outcome := by
  unfold Ends at h
  split at h
  next e => exact e.trans h.symm
  next e => exact e.trans h.symm
  next e => exact e.trans h.symm

/-- Weaker conditions hold as well. -/
theorem Ends.mono {good' : α → σ → Prop} {refused' : Error → σ → Prop} {broken' : Fault → Prop}
    {m : Step σ α} (h : m.Ends s good refused broken) (hgood : ∀ a t, good a t → good' a t)
    (hrefused : ∀ e t, refused e t → refused' e t) (hbroken : ∀ f, broken f → broken' f) :
    m.Ends s good' refused' broken' := by
  unfold Ends at h ⊢
  split at h
  next => exact hgood _ _ h
  next => exact hrefused _ _ h
  next => exact hbroken _ h

/-- Two statements about one step are one statement about it. -/
theorem Ends.and {good' : α → σ → Prop} {refused' : Error → σ → Prop} {broken' : Fault → Prop}
    {m : Step σ α} (h : m.Ends s good refused broken) (h' : m.Ends s good' refused' broken') :
    m.Ends s (fun a t => good a t ∧ good' a t) (fun e t => refused e t ∧ refused' e t)
      fun f => broken f ∧ broken' f := by
  unfold Ends at h h' ⊢
  cases e : m.outcome s with
  | error f =>
    rw [e] at h h'
    exact ⟨h, h'⟩
  | ok p =>
    rw [e] at h h'
    obtain ⟨a | x, t⟩ := p <;> exact ⟨h, h'⟩

/-! ## One rule for each way to build a step -/

@[simp] theorem ends_pure (a : α) : Ends (pure a) s good refused broken ↔ good a s := Iff.rfl

@[simp] theorem ends_throw (e : Error) :
    Ends (throw e : Step σ α) s good refused broken ↔ refused e s := Iff.rfl

/-- **One step after another**: what the second one needs is what the first
one has to give. -/
@[simp] theorem ends_bind (m : Step σ β) (f : β → Step σ α) :
    Ends (m >>= f) s good refused broken ↔
      m.Ends s (fun b t => (f b).Ends t good refused broken) refused broken := by
  unfold Ends
  rw [outcome_bind]
  cases m.outcome s with
  | error f => rfl
  | ok p => obtain ⟨b | e, t⟩ := p <;> rfl

@[simp] theorem ends_map (f : β → α) (m : Step σ β) :
    Ends (f <$> m) s good refused broken ↔ m.Ends s (fun b => good (f b)) refused broken := by
  rw [← bind_pure_comp, ends_bind]
  rfl

@[simp] theorem ends_get {good : σ → σ → Prop} :
    Ends (get : Step σ σ) s good refused broken ↔ good s s := Iff.rfl

@[simp] theorem ends_set {good : PUnit → σ → Prop} (t : σ) :
    Ends (set t : Step σ PUnit) s good refused broken ↔ good ⟨⟩ t := Iff.rfl

@[simp] theorem ends_modify {good : PUnit → σ → Prop} (f : σ → σ) :
    Ends (modify f : Step σ PUnit) s good refused broken ↔ good ⟨⟩ (f s) := Iff.rfl

/-- A checked value is an answer or a fault. -/
theorem ends_ofChecked (c : Checked α) :
    Ends (ofChecked c) s good refused broken ↔
      (∀ a, c = .ok a → good a s) ∧ ∀ f, c = .error f → broken f := by
  unfold Ends
  show (match c.map fun a => ((.ok a : Except Error α), s) with
    | .ok (.ok a, t) => good a t
    | .ok (.error e, t) => refused e t
    | .error f => broken f) ↔ _
  cases c with
  | error f => simp [Except.map]
  | ok a => simp [Except.map]

@[simp] theorem ends_ofExcept (e : Except Error α) :
    Ends (ofExcept e) s good refused broken ↔
      match e with
      | .ok a => good a s
      | .error x => refused x s := by
  cases e <;> rfl

/-- **A step on a part of the state** is the step, and then the part is put
back. -/
@[simp] theorem ends_zoom (part : σ → τ) (put : τ → σ → σ) (m : Step τ α) :
    Ends (zoom part put m) s good refused broken ↔
      m.Ends (part s) (fun a t => good a (put t s)) (fun e t => refused e (put t s)) broken := by
  unfold Ends
  rw [outcome_zoom]
  cases m.outcome (part s) with
  | error f => rfl
  | ok p => obtain ⟨b | e, t⟩ := p <;> rfl

/-- **An attempt** turns an error into an answer. -/
@[simp] theorem ends_attempt {m : Step σ α} {good : Except Error α → σ → Prop} :
    Ends (attempt m) s good refused broken ↔
      m.Ends s (fun a t => good (.ok a) t) (fun e t => good (.error e) t) broken := by
  unfold Ends
  rw [outcome_attempt]
  cases m.outcome s with
  | error f => rfl
  | ok p => obtain ⟨b | e, t⟩ := p <;> rfl

/-- Every step ends somehow. -/
theorem ends_somehow (m : Step σ α) (s : σ) :
    m.Ends s (fun _ _ => True) (fun _ _ => True) fun _ => True :=
  (ends_outcome m s).mono (fun _ _ _ => trivial) (fun _ _ _ => trivial) fun _ _ => trivial

end Rules

/-! ## What a step keeps -/

/-- **A step keeps a part of the state**, with an answer and with an
error. -/
def Keeps (m : Step σ α) (p : σ → τ) : Prop :=
  ∀ s, m.Ends s (fun _ t => p t = p s) (fun _ t => p t = p s) fun _ => True

section Keeps

variable {p : σ → τ}

theorem keeps_pure (a : α) : (pure a : Step σ α).Keeps p := fun _ => rfl

theorem keeps_get : (get : Step σ σ).Keeps p := fun _ => rfl

theorem keeps_modify {f : σ → σ} (h : ∀ s, p (f s) = p s) :
    (modify f : Step σ PUnit).Keeps p := h

theorem keeps_ofExcept (e : Except Error α) : (ofExcept e : Step σ α).Keeps p := by
  intro s
  rw [ends_ofExcept]
  split <;> rfl

theorem keeps_ofChecked (c : Checked α) : (ofChecked c : Step σ α).Keeps p := by
  intro s
  rw [ends_ofChecked]
  exact ⟨fun _ _ => rfl, fun _ _ => trivial⟩

theorem Keeps.bind {m : Step σ β} {f : β → Step σ α} (h : m.Keeps p) (hf : ∀ b, (f b).Keeps p) :
    (m >>= f).Keeps p := by
  intro s
  rw [ends_bind]
  refine (h s).mono (fun b t ht => ?_) (fun _ _ => id) fun _ => id
  rw [← ht]
  exact hf b t

theorem Keeps.attempt {m : Step σ α} (h : m.Keeps p) : (attempt m).Keeps p := by
  intro s
  rw [ends_attempt]
  exact h s

/-- A step on one part keeps what the part is no part of. -/
theorem keeps_zoom {υ : Type} {part : σ → υ} {put : υ → σ → σ} (m : Step υ α)
    (h : ∀ u s, p (put u s) = p s) : (zoom part put m).Keeps p := by
  intro s
  rw [ends_zoom]
  exact (ends_somehow m _).mono (fun _ u _ => h u s) (fun _ u _ => h u s) fun _ => id

end Keeps

end Step

/-! ## Steps of a part with its bench -/

namespace Bench

open Step

variable {κ δ α : Type} {s : κ × Bench δ} {refused : Error → κ × Bench δ → Prop}
  {broken : Fault → Prop}

@[simp] theorem ends_call (m : Step δ α) {good : α → κ × Bench δ → Prop} :
    Ends (call m) s good refused broken ↔
      m.Ends s.2.device (fun a d => good a (s.1, { s.2 with device := d }))
        (fun e d => refused e (s.1, { s.2 with device := d })) broken :=
  ends_zoom _ _ m

@[simp] theorem ends_tell (f : δ → δ) {good : PUnit → κ × Bench δ → Prop} :
    Ends (tell f) s good refused broken ↔ good ⟨⟩ (s.1, s.2.onDevice f) := Iff.rfl

@[simp] theorem ends_note (e : LogEvent) {good : PUnit → κ × Bench δ → Prop} :
    Ends (note e) s good refused broken ↔ good ⟨⟩ (s.1, s.2.report e) := Iff.rfl

@[simp] theorem ends_change (f : κ → κ) {good : PUnit → κ × Bench δ → Prop} :
    Ends (change f) s good refused broken ↔ good ⟨⟩ (f s.1, s.2) := Iff.rfl

section Keeps

variable {τ : Type} (q : κ → τ)

theorem keeps_call (m : Step δ α) : (call m : Step (κ × Bench δ) α).Keeps fun s => q s.1 :=
  keeps_zoom m fun _ _ => rfl

theorem keeps_tell (f : δ → δ) : (tell f : Step (κ × Bench δ) Unit).Keeps fun s => q s.1 :=
  keeps_modify fun _ => rfl

theorem keeps_note (e : LogEvent) : (note e : Step (κ × Bench δ) Unit).Keeps fun s => q s.1 :=
  keeps_modify fun _ => rfl

theorem keeps_change {f : κ → κ} (h : ∀ k, q (f k) = q k) :
    (change f : Step (κ × Bench δ) Unit).Keeps fun s => q s.1 :=
  keeps_modify fun s => h s.1

end Keeps

@[simp] theorem device_report (e : LogEvent) (b : Bench δ) : (b.report e).device = b.device := rfl

@[simp] theorem device_onDevice (f : δ → δ) (b : Bench δ) :
    (b.onDevice f).device = f b.device := rfl

@[simp] theorem device_reports (es : List LogEvent) (b : Bench δ) :
    (b.reports es).device = b.device := by
  induction es generalizing b with
  | nil => rfl
  | cons e es ih => exact ih (b.report e)

end Bench

end Projector
