import Projector.Error
import Projector.Fault

/-!
# Steps

What works with a device changes state, and may fail in two ways. An
error is an answer: the state as it is when the error arises is the state
after the call. A fault is none: the call has no state to go on from. A
`Step` is a function from states that says all this in its type.
-/

namespace Projector

/-- **An action on a state.** Its errors keep the state, and its faults do
not. -/
abbrev Step (σ α : Type) := ExceptT Error (StateT σ (Except Fault)) α

namespace Step

variable {σ τ α : Type}

/-- The outcome of a step from a state. -/
def outcome (m : Step σ α) (s : σ) : Checked (Except Error α × σ) := m.run.run s

/-- A checked value, as a step that changes nothing. -/
def ofChecked (c : Checked α) : Step σ α := fun s => c.map fun a => (.ok a, s)

/-- A value or an error, as a step that changes nothing. -/
def ofExcept (e : Except Error α) : Step σ α := fun s => .ok (e, s)

/-- **A step on a part of the state.** -/
def zoom (part : σ → τ) (put : τ → σ → σ) (m : Step τ α) : Step σ α := fun s => do
  let (answer, t) ← m.outcome (part s)
  return (answer, put t s)

/-- A step whose error is its answer. -/
def attempt (m : Step σ α) : Step σ (Except Error α) := fun s => do
  let (answer, s) ← m.outcome s
  return (.ok answer, s)

/-- An attempt has the outcome of the step, as an answer. -/
theorem outcome_attempt (m : Step σ α) (s : σ) :
    (attempt m).outcome s = (m.outcome s).map fun (answer, s) => (.ok answer, s) := by
  show attempt m s = _
  unfold attempt
  cases m.outcome s <;> rfl

end Step

end Projector
