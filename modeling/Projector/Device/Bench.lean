import Projector.Device.Basic
import Projector.Log

/-!
# Working on a device

Whoever works on a device reports what it does. A bench is a device with
the log beside it, and the state of a part of the library that uses a
device is that part with its bench.
-/

namespace Projector

/-- **A device and the log of the work on it.** -/
structure Bench (δ : Type) where
  /-- The device. -/
  device : δ
  /-- What was reported, the first event first. -/
  log : Array LogEvent

namespace Bench

variable {κ δ α : Type}

/-- A device with an empty log. -/
def of (device : δ) : Bench δ := ⟨device, #[]⟩

/-- One more event in the log. -/
def report (e : LogEvent) (b : Bench δ) : Bench δ := { b with log := b.log.push e }

/-- More events in the log. -/
def reports (es : List LogEvent) (b : Bench δ) : Bench δ := es.foldl (fun b e => b.report e) b

/-- The device changed by a call that cannot be refused. -/
def onDevice (f : δ → δ) (b : Bench δ) : Bench δ := { b with device := f b.device }

/-- A call of the device, made by a part of the library. -/
def call (m : Step δ α) : Step (κ × Bench δ) α :=
  Step.zoom (fun s => s.2.device) (fun d s => (s.1, { s.2 with device := d })) m

/-- A call that cannot be refused, made by a part of the library. -/
def tell (f : δ → δ) : Step (κ × Bench δ) Unit := modify fun s => (s.1, s.2.onDevice f)

/-- An event reported by a part of the library. -/
def note (e : LogEvent) : Step (κ × Bench δ) Unit := modify fun s => (s.1, s.2.report e)

/-- A change of the part itself. -/
def change (f : κ → κ) : Step (κ × Bench δ) Unit := modify fun s => (f s.1, s.2)

end Bench

end Projector
