import Projector.Device.Recorder

/-!
# What the records of a device amount to

A recording device writes down every call that it carries out. These records
are enough to know which objects there were at any moment: those that were
made by then and not dropped yet. `Ledger.of` counts them up, and a list of
calls is *lawful* if each call, when it was made, named objects that were
there, and was made inside or outside a pass as it has to be.

The device looks after most of this itself, since it refuses a call that
names what is not there. It does not look after what is dropped: dropping
works for any number, and is written down. That the records are lawful is
therefore a fact about whoever works on the device, and `Booked` is what
this fact is carried by from call to call.
-/

namespace Projector

namespace Registry

variable {κ α : Type} [DecidableEq κ]

/-- The keys that have an entry. -/
def keys (r : Registry κ α) : List κ := r.entries.map Prod.fst

omit [DecidableEq κ] in
theorem length_keys (r : Registry κ α) : r.keys.length = r.size := List.length_map _

theorem mem_keys {r : Registry κ α} {k : κ} : k ∈ r.keys ↔ ∃ a, r.get? k = some a := by
  unfold keys get?
  rw [← Option.isSome_iff_exists, List.mem_map, Option.isSome_map, List.find?_isSome]
  simp

theorem mem_keys_of_get? {r : Registry κ α} {k : κ} {a : α} (h : r.get? k = some a) :
    k ∈ r.keys := mem_keys.2 ⟨a, h⟩

theorem not_mem_keys {r : Registry κ α} {k : κ} (h : r.get? k = none) : k ∉ r.keys := by
  rw [mem_keys, h]
  rintro ⟨a, ha⟩
  cases ha

theorem keys_erase (r : Registry κ α) (k : κ) : (r.erase k).keys = r.keys.filter (· ≠ k) := by
  unfold keys erase
  rw [List.filter_map]
  rfl

/-- A new key comes before the others. -/
theorem keys_put {r : Registry κ α} {k : κ} (h : r.get? k = none) (a : α) :
    (r.put k a).keys = k :: r.keys := by
  have absent : ∀ l ∈ r.keys, decide (l ≠ k) = true := by
    intro l hl
    rw [decide_eq_true_iff]
    rintro rfl
    exact not_mem_keys h hl
  show k :: (r.erase k).keys = k :: r.keys
  rw [keys_erase, List.filter_eq_self.2 absent]

end Registry

/-! ## Ledgers -/

/-- **What is there at a moment.** -/
structure Ledger where
  /-- The textures. -/
  textures : List TextureId
  /-- The programs. -/
  programs : List ProgramId
  /-- Whether a pass is open. -/
  inPass : Bool

namespace Ledger

/-- Nothing. -/
def empty : Ledger := ⟨[], [], false⟩

/-- **What is there after a call.** -/
def enter (l : Ledger) : DeviceRecord → Ledger
  | .createTexture t _ => { l with textures := t :: l.textures }
  | .destroyTexture t => { l with textures := l.textures.filter (· ≠ t) }
  | .createProgram p => { l with programs := p :: l.programs }
  | .destroyProgram p => { l with programs := l.programs.filter (· ≠ p) }
  | .beginPass .. => { l with inPass := true }
  | .endPass => { l with inPass := false }
  | .writeTexture .. | .bindUniforms _ | .drawQuad .. => l

/-- **What is there after calls**, the first one first. -/
def of (calls : List DeviceRecord) : Ledger := calls.foldl enter empty

/-- **Whether a call may be made**: what it makes is new, and what it drops
or names is there. A pass is begun where none is open, and quads are drawn
inside. -/
def Admits (l : Ledger) : DeviceRecord → Prop
  | .createTexture t _ => t ∉ l.textures
  | .destroyTexture t | .writeTexture t _ _ => t ∈ l.textures
  | .createProgram p => p ∉ l.programs
  | .destroyProgram p | .bindUniforms p => p ∈ l.programs
  | .beginPass .. => l.inPass = false
  | .drawQuad p textures _ =>
    l.inPass = true ∧ p ∈ l.programs ∧ ∀ t, some t ∈ textures.toList → t ∈ l.textures
  | .endPass => l.inPass = true

theorem of_concat (calls : List DeviceRecord) (call : DeviceRecord) :
    of (calls ++ [call]) = (of calls).enter call := List.foldl_append

/-- **Nothing is there twice.** -/
structure Once (l : Ledger) : Prop where
  /-- No texture is. -/
  textures : l.textures.Nodup
  /-- No program is. -/
  programs : l.programs.Nodup

/-- A call that may be made leaves nothing there twice. -/
theorem Once.enter {l : Ledger} (h : l.Once) {call : DeviceRecord} (admits : l.Admits call) :
    (l.enter call).Once := by
  cases call with
  | createTexture => exact ⟨List.nodup_cons.2 ⟨admits, h.textures⟩, h.programs⟩
  | destroyTexture => exact ⟨h.textures.filter _, h.programs⟩
  | createProgram => exact ⟨h.textures, List.nodup_cons.2 ⟨admits, h.programs⟩⟩
  | destroyProgram => exact ⟨h.textures, h.programs.filter _⟩
  | writeTexture | bindUniforms | beginPass | drawQuad | endPass => exact ⟨h.textures, h.programs⟩

/-- **Calls of which each could be made when it was.** -/
def Lawful (calls : List DeviceRecord) : Prop :=
  ∀ before call later, calls = before ++ call :: later → (of before).Admits call

theorem lawful_nil : Lawful [] := by
  intro before call later e
  cases before <;> cases e

/-- **One more call.** -/
theorem Lawful.concat {calls : List DeviceRecord} (h : Lawful calls) {call : DeviceRecord}
    (admits : (of calls).Admits call) : Lawful (calls ++ [call]) := by
  intro before other later e
  obtain rfl | ⟨later, last, rfl⟩ := List.eq_nil_or_concat later
  · obtain ⟨rfl, rest⟩ := List.append_inj' e rfl
    cases rest
    exact admits
  · -- the call is not the last one, so it is one of the former
    rw [List.concat_eq_append, ← List.cons_append, ← List.append_assoc] at e
    exact h before other later (List.append_inj' e rfl).1

end Ledger

/-! ## Devices with lawful records -/

namespace Recorder

open Ledger

/-- What a device has. -/
def ledger (d : Recorder) : Ledger := ⟨d.textures.keys, d.programs.keys, d.inPass⟩

/-- **The records of a device are lawful and amount to what it has.** -/
structure Booked (d : Recorder) : Prop where
  /-- Every call could be made when it was. -/
  lawful : Lawful d.calls.toList
  /-- The calls amount to what the device has. -/
  balance : Ledger.of d.calls.toList = d.ledger
  /-- It has nothing twice. -/
  once : d.ledger.Once

theorem booked_initial : Booked .initial :=
  ⟨lawful_nil, rfl, List.nodup_nil, List.nodup_nil⟩

/-- **A call that may be made is booked.** -/
theorem Booked.call {d d' : Recorder} (h : d.Booked) {call : DeviceRecord}
    (calls : d'.calls = d.calls.push call) (admits : d.ledger.Admits call)
    (ledger : d'.ledger = d.ledger.enter call) : d'.Booked := by
  refine ⟨?_, ?_, ?_⟩
  · rw [calls, Array.toList_push]
    exact h.lawful.concat (h.balance ▸ admits)
  · rw [calls, Array.toList_push, of_concat, h.balance, ledger]
  · rw [ledger]
    exact h.once.enter admits

end Recorder

end Projector
