import Projector.Overlay.Layer
import Projector.Proofs.Step
import Projector.Upload

/-!
# Two runs of one step

What a step reads decides what it answers. To say that something does not matter
to it, let it start from two states that differ in nothing else, and compare the
two outcomes. They *agree* if both have the same answer, or the same error, and
states that are alike again, or if both have the same fault. A step *respects* a
relation of states if it always agrees with itself.

There is a rule for each way to build a step. The relation is the same before and
after, so what one step respects, a sequence respects. Only where a step looks at
the state itself the two runs may go on with different steps, and these have to
be shown to agree.

A first relation is to have the same device. The parts of the library write to
the log and never read it, so they respect this relation.
-/

namespace Projector

/-- **Two outcomes agree**: the same answer or the same error, with states that
are alike, or the same fault. -/
inductive Agree {σ α : Type} (alike : σ → σ → Prop) :
    Checked (Except Error α × σ) → Checked (Except Error α × σ) → Prop where
  /-- Both have ended in the same way. -/
  | ended (answer : Except Error α) {s t : σ} (h : alike s t) :
      Agree alike (.ok (answer, s)) (.ok (answer, t))
  /-- Both have the same fault. -/
  | broken (fault : Fault) : Agree alike (.error fault) (.error fault)

namespace Step

variable {σ τ α β : Type} {alike : σ → σ → Prop}

/-- **One step after another agree** if the first ones do, and the second ones do
after any answer. -/
theorem agree_bind {m m' : Step σ β} {f f' : β → Step σ α} {s t : σ}
    (first : Agree alike (m.outcome s) (m'.outcome t))
    (second : ∀ b s t, alike s t → Agree alike ((f b).outcome s) ((f' b).outcome t)) :
    Agree alike ((m >>= f).outcome s) ((m' >>= f').outcome t) := by
  rw [outcome_bind, outcome_bind]
  generalize m.outcome s = x, m'.outcome t = y at first
  cases first with
  | broken fault => exact .broken fault
  | ended answer h =>
    cases answer with
    | error e => exact .ended (.error e) h
    | ok b => exact second b _ _ h

theorem outcome_get_bind (f : σ → Step σ α) (s : σ) :
    (get >>= f : Step σ α).outcome s = (f s).outcome s := rfl

theorem agree_set {s t s' t' : σ} (h : alike s' t') :
    Agree alike ((set s' : Step σ PUnit).outcome s) ((set t' : Step σ PUnit).outcome t) :=
  Agree.ended (.ok PUnit.unit) h

/-- **A step respects a relation of states**: from states that are alike it has
outcomes that agree. -/
def Respects (m : Step σ α) (alike : σ → σ → Prop) : Prop :=
  ∀ s t, alike s t → Agree alike (m.outcome s) (m.outcome t)

theorem respects_pure (a : α) : (pure a : Step σ α).Respects alike := fun _ _ => .ended (.ok a)

theorem respects_throw (e : Error) : (throw e : Step σ α).Respects alike :=
  fun _ _ => .ended (.error e)

theorem respects_modify {f : σ → σ} (h : ∀ s t, alike s t → alike (f s) (f t)) :
    (modify f : Step σ PUnit).Respects alike :=
  fun s t related => Agree.ended (.ok PUnit.unit) (h s t related)

theorem respects_ofExcept (e : Except Error α) : (ofExcept e : Step σ α).Respects alike :=
  fun _ _ => .ended e

theorem respects_ofChecked (c : Checked α) : (ofChecked c : Step σ α).Respects alike := by
  intro s t related
  cases c with
  | error fault => exact .broken fault
  | ok a => exact .ended (.ok a) related

theorem Respects.bind {m : Step σ β} {f : β → Step σ α} (h : m.Respects alike)
    (hf : ∀ b, (f b).Respects alike) : (m >>= f).Respects alike :=
  fun s t related => agree_bind (h s t related) fun b => hf b

/-- **A step that looks at the state** goes on alike if it makes the same of states
that are alike. -/
theorem respects_get_bind {f : σ → Step σ α} (same : ∀ s t, alike s t → f s = f t)
    (h : ∀ s, (f s).Respects alike) : (get >>= f : Step σ α).Respects alike := by
  intro s t related
  rw [outcome_get_bind, outcome_get_bind, same s t related]
  exact h t s t related

theorem Respects.attempt {m : Step σ α} (h : m.Respects alike) :
    (attempt m).Respects alike := by
  intro s t related
  have agree := h s t related
  rw [outcome_attempt, outcome_attempt]
  generalize m.outcome s = x, m.outcome t = y at agree
  cases agree with
  | broken fault => exact .broken fault
  | ended answer h => exact .ended (.ok answer) h

/-- **A step on a part** respects the relation if the part is related and its step
keeps it so. -/
theorem Respects.zoom {related : τ → τ → Prop} {part : σ → τ} {put : τ → σ → σ} {m : Step τ α}
    (h : m.Respects related) (hpart : ∀ s t, alike s t → related (part s) (part t))
    (hput : ∀ s t, alike s t → ∀ u v, related u v → alike (put u s) (put v t)) :
    (Step.zoom part put m).Respects alike := by
  intro s t whole
  have agree := h _ _ (hpart s t whole)
  rw [outcome_zoom, outcome_zoom]
  generalize m.outcome (part s) = x, m.outcome (part t) = y at agree
  cases agree with
  | broken fault => exact .broken fault
  | ended answer h => exact .ended answer (hput s t whole _ _ h)

end Step

/-! ## The log -/

/-- **The same part with the same device**, whatever was reported. -/
def Bench.Level {κ δ : Type} (s t : κ × Bench δ) : Prop := s.1 = t.1 ∧ s.2.device = t.2.device

namespace Bench

open Step

variable {κ δ α : Type}

theorem respects_call (m : Step δ α) : (call m : Step (κ × Bench δ) α).Respects Level := by
  have same : m.Respects Eq := by
    rintro s - rfl
    cases m.outcome s with
    | error fault => exact .broken fault
    | ok p => exact .ended p.1 rfl
  exact same.zoom (fun _ _ level => level.2) fun _ _ level _ _ device => ⟨level.1, device⟩

theorem respects_tell (f : δ → δ) : (tell f : Step (κ × Bench δ) Unit).Respects Level :=
  respects_modify fun _ _ level => ⟨level.1, congrArg f level.2⟩

theorem respects_note (e : LogEvent) : (note e : Step (κ × Bench δ) Unit).Respects Level :=
  respects_modify fun _ _ level => level

theorem respects_change (f : κ → κ) : (change f : Step (κ × Bench δ) Unit).Respects Level :=
  respects_modify fun _ _ level => ⟨congrArg f level.1, level.2⟩

/-- **A step that looks at its part alone** does not look at the log. -/
theorem respects_look {f : κ × Bench δ → Step (κ × Bench δ) α}
    (part : ∀ k b b', f (k, b) = f (k, b')) (h : ∀ s, (f s).Respects Level) :
    (get >>= f : Step (κ × Bench δ) α).Respects Level := by
  refine respects_get_bind ?_ h
  rintro ⟨k, b⟩ ⟨-, b'⟩ ⟨rfl, -⟩
  exact part k b b'

end Bench

/-! ## Textures -/

namespace UploadEngine

open Step Bench

variable {δ : Type} [Device δ]

theorem respects_dropSlot (i : Fin 3) :
    (dropSlot i : Step (UploadEngine × Bench δ) Unit).Respects Level := by
  unfold dropSlot
  refine respects_look (fun _ _ _ => rfl) fun e => ?_
  split
  · exact (respects_change _).bind fun _ => respects_tell _
  · exact respects_pure _

theorem respects_makeSlot (i : Fin 3) (wanted : Option TextureDesc) :
    (makeSlot i wanted : Step (UploadEngine × Bench δ) Unit).Respects Level := by
  unfold makeSlot
  split
  · exact (respects_call _).bind fun _ => (respects_note _).bind fun _ => respects_change _
  · exact respects_pure _

theorem respects_ensureSlot (format : VideoFormat) (i : Fin 3) :
    (ensureSlot format i : Step (UploadEngine × Bench δ) Bool).Respects Level := by
  unfold ensureSlot
  refine respects_look (fun _ _ _ => rfl) fun e => ?_
  split
  · exact respects_pure _
  · exact (respects_dropSlot i).bind fun _ => (respects_makeSlot i _).bind fun _ => respects_pure _

/-- **Textures are made for a format** without a look at the log. -/
theorem respects_ensureAllocated (format : VideoFormat) :
    (ensureAllocated format : Step (UploadEngine × Bench δ) Bool).Respects Level := by
  unfold ensureAllocated
  refine (respects_ensureSlot format 0).bind fun _ => (respects_ensureSlot format 1).bind fun _ =>
    (respects_ensureSlot format 2).bind fun _ => ?_
  exact (respects_change _).bind fun _ => respects_pure _

theorem respects_writeSlot (frame : VideoFrame) (layout : SlotLayout) (i : Nat) :
    (writeSlot frame layout i : Step (UploadEngine × Bench δ) Unit).Respects Level := by
  unfold writeSlot
  refine respects_look (fun _ _ _ => rfl) fun e => ?_
  split
  · exact respects_pure _
  · split
    · exact respects_ofChecked _
    · exact (respects_ofChecked _).bind fun _ => respects_call _

theorem respects_writeSlots (frame : VideoFrame) (i : Nat) (layouts : List SlotLayout) :
    (writeSlots frame i layouts : Step (UploadEngine × Bench δ) Unit).Respects Level := by
  induction layouts generalizing i with
  | nil => exact respects_pure _
  | cons layout layouts ih => exact (respects_writeSlot frame layout i).bind fun _ => ih (i + 1)

/-- **A frame is uploaded** without a look at the log. -/
theorem respects_upload (frame : VideoFrame) :
    (upload frame : Step (UploadEngine × Bench δ) Bool).Respects Level := by
  unfold upload
  dsimp only
  split
  · exact respects_pure _
  refine respects_look (fun _ _ _ => rfl) fun e => ?_
  split
  · exact respects_throw _
  · refine (respects_writeSlots frame 0 _).bind fun _ => (respects_change _).bind fun _ => ?_
    exact respects_look (fun _ _ _ => rfl) fun e => (respects_note _).bind fun _ => respects_pure _

end UploadEngine

/-! ## The overlay -/

namespace OsdLayer

open Step Bench

variable {δ : Type} [Device δ]

/-- **The overlay gets a size** without a look at the log. -/
theorem respects_setFrameSize (size : Nat × Nat) :
    (setFrameSize size : Step (OsdLayer × Bench δ) Unit).Respects Level := by
  have drop : (dropTexture : Step (OsdLayer × Bench δ) Unit).Respects Level := by
    unfold dropTexture
    refine respects_look (fun _ _ _ => rfl) fun o => ?_
    split
    · exact (respects_change _).bind fun _ => respects_tell _
    · exact respects_pure _
  have make : (makeTexture size.1 size.2 : Step (OsdLayer × Bench δ) Unit).Respects Level := by
    unfold makeTexture
    split
    · exact (respects_call _).bind fun _ => (respects_change _).bind fun _ => respects_note _
    · exact respects_pure _
  unfold setFrameSize
  refine respects_look (fun _ _ _ => rfl) fun o => ?_
  dsimp only
  split
  · exact respects_pure _
  · exact drop.bind fun _ => (respects_change _).bind fun _ => make

/-- **A canvas is uploaded** without a look at the log. -/
theorem respects_upload : (upload : Step (OsdLayer × Bench δ) Unit).Respects Level := by
  unfold upload
  refine respects_look (fun _ _ _ => rfl) fun o => ?_
  dsimp only
  split
  · exact respects_pure _
  split
  · split
    · exact (respects_note _).bind fun _ => (respects_change _).bind fun _ => respects_pure _
    · split
      · refine (respects_ofChecked _).bind fun _ => (respects_call _).bind fun _ => ?_
        exact respects_change _
      · exact respects_change _
  · exact respects_pure _

/-- **The overlay is drawn** without a look at the log. -/
theorem respects_draw (rect : Rect Float32) :
    (draw rect : Step (OsdLayer × Bench δ) Bool).Respects Level := by
  have program : (ensureProgram : Step (OsdLayer × Bench δ) ProgramId).Respects Level := by
    unfold ensureProgram
    refine respects_look (fun _ _ _ => rfl) fun o => ?_
    split
    · exact respects_pure _
    · exact (respects_call _).bind fun _ => (respects_change _).bind fun _ => respects_pure _
  unfold draw
  refine respects_look (fun _ _ _ => rfl) fun o => ?_
  dsimp only
  split
  · split
    · exact respects_pure _
    · exact program.bind fun _ => (respects_call _).bind fun _ => (respects_call _).bind fun _ =>
        respects_pure _
  · exact respects_pure _

end OsdLayer

end Projector
