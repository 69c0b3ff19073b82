import Projector.Fault

/-!
# Bytes

Planes of a frame, pixels of an image and contents of a texture are runs
of bytes. A run is read by position or by a stretch of positions, and a
position beyond the end is a fault.
-/

namespace Projector

/-- **A run of bytes.** -/
abbrev Bytes := Array UInt8

namespace Bytes

/-- `n` times the byte `b`. -/
def replicate (n : Nat) (b : UInt8) : Checked Bytes := do
  let n ← Checked.addressable n
  return Array.replicate n b

/-- The byte at position `i`. -/
def at? (b : Bytes) (i : Nat) : Checked UInt8 :=
  match b[i]? with
  | some x => .ok x
  | none => .error .outOfRange

/-- The stretch of `len` bytes from position `start`. The position of its
end must fit a word and lie within the run. -/
def stretch (b : Bytes) (start len : Nat) : Checked Bytes := do
  let stop ← Checked.fit64 (start + len)
  if stop ≤ b.size then .ok (b.extract start stop) else .error .outOfRange

theorem at?_eq_ok {b : Bytes} {i : Nat} {x : UInt8} : b.at? i = .ok x ↔ b[i]? = some x := by
  unfold at?
  split <;> simp_all

end Bytes

end Projector
