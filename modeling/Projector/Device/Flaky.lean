import Projector.Device.Basic
import Projector.Registry

/-!
# A device that fails on demand

A device around another one that refuses chosen calls. For each kind of
call a plan says how many calls still pass and how many after them are
refused. A refused call does not reach the device inside.
-/

namespace Projector

/-- **When a kind of call is refused.** -/
structure FailurePlan where
  /-- How many calls still pass. -/
  skip : Nat
  /-- How many calls after them are refused. -/
  count : Nat
  deriving DecidableEq, Repr

/-- One call under a plan: whether it is refused, and the plan after it. -/
def FailurePlan.next (p : FailurePlan) : Bool × FailurePlan :=
  match p with
  | ⟨skip + 1, count⟩ => (false, ⟨skip, count⟩)
  | ⟨0, count + 1⟩ => (true, ⟨0, count⟩)
  | ⟨0, 0⟩ => (false, p)

/-- **A device around another one.** -/
structure Flaky (δ : Type) where
  /-- The device inside. -/
  device : δ
  /-- The plans, by the kind of call. -/
  plans : Registry DeviceCall FailurePlan

namespace Flaky

variable {δ α : Type}

/-- A device that refuses nothing of its own. -/
def reliable (device : δ) : Flaky δ := ⟨device, .empty⟩

/-- Replace the plan of a kind of call. -/
def plan (f : Flaky δ) (call : DeviceCall) (p : FailurePlan) : Flaky δ :=
  { f with plans := f.plans.put call p }

/-- A step of the device inside. -/
def inside (m : Step δ α) : Step (Flaky δ) α :=
  Step.zoom Flaky.device (fun d f => { f with device := d }) m

/-- A call under its plan. -/
def guarded (call : DeviceCall) (m : Step δ α) : Step (Flaky δ) α := do
  match (← get).plans.get? call with
  | none => inside m
  | some p =>
    let (refused, p) := p.next
    modify fun f => f.plan call p
    if refused then throw (.gpu (.injected call)) else inside m

instance [Device δ] : Device (Flaky δ) where
  createTexture desc := guarded .createTexture (Device.createTexture desc)
  destroyTexture id f := { f with device := Device.destroyTexture id f.device }
  writeTexture id data bytesPerRow :=
    guarded .writeTexture (Device.writeTexture id data bytesPerRow)
  createProgram desc := guarded .createProgram (Device.createProgram desc)
  destroyProgram id f := { f with device := Device.destroyProgram id f.device }
  bindUniforms id u := guarded .bindUniforms (Device.bindUniforms id u)
  beginPass viewport clear := guarded .beginPass (Device.beginPass viewport clear)
  drawQuad program textures quad := guarded .drawQuad (Device.drawQuad program textures quad)
  endPass := guarded .endPass Device.endPass

end Flaky

end Projector
