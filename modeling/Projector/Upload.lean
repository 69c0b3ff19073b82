import Projector.Device.Bench
import Projector.Frame

/-!
# Uploading frames

Up to three textures receive the planes of a frame. They are made for a
format: slot by slot, a texture that has the wanted size and texels is
kept, any other one is dropped, and a missing one is made.

An upload looks at all slots of the frame's type before it writes the
first one, so a frame that does not fit leaves every texture as it was.
-/

namespace Projector

/-- **A texture made for a slot.** -/
structure TextureSlot where
  /-- The texture. -/
  id : TextureId
  /-- Texels of a row. -/
  width : Nat
  /-- How many rows. -/
  height : Nat
  /-- What a texel holds. -/
  format : TexelFormat
  deriving DecidableEq, Repr

/-- **The textures of the video.** -/
structure UploadEngine where
  /-- The texture of each slot. -/
  slots : Vector (Option TextureSlot) 3
  /-- The format they were made for. -/
  format : VideoFormat
  /-- The stride corrections of that format. -/
  correction : Float32 × Float32
  /-- How many frames were uploaded. -/
  drawnFrames : Nat

namespace UploadEngine

/-- No texture. -/
def initial : UploadEngine := ⟨Vector.replicate 3 none, .empty, (1, 1), 0⟩

instance : Inhabited UploadEngine := ⟨initial⟩

/-- What the texture of a slot is for. -/
def slotLabel (i : Fin 3) : String := s!"video slot {i.val}"

/-- **The texture that a format wants in a slot.** A slot without texels
wants none. -/
def wanted? (format : VideoFormat) (i : Fin 3) : Option TextureDesc := do
  let slot ← format.layout.slots[i.val]?
  let (width, height) ← format.slotSize? i
  if 0 < width ∧ 0 < height then some ⟨slotLabel i, width, height, slot.texel⟩ else none

/-- Whether a texture is the wanted one. -/
def fits (slot : Option TextureSlot) (wanted : Option TextureDesc) : Bool :=
  match slot, wanted with
  | some s, some d => s.width == d.width && s.height == d.height && s.format == d.format
  | none, none => true
  | _, _ => false

/-- The texture of slot `i`. -/
def slot? (e : UploadEngine) (i : Nat) : Option TextureSlot := e.slots[i]?.join

/-- The engine with another texture in a slot. -/
def setSlot (e : UploadEngine) (i : Fin 3) (s : Option TextureSlot) : UploadEngine :=
  { e with slots := e.slots.set i s }

/-- The textures to draw with. -/
def textureIds (e : UploadEngine) : Bindings := e.slots.map fun s => s.map TextureSlot.id

section Steps

variable {δ : Type} [Device δ]

/-- Drop the texture of a slot, if there is one. -/
def dropSlot (i : Fin 3) : Step (UploadEngine × Bench δ) Unit := do
  if let some old := (← get).1.slot? i then
    Bench.change fun e => e.setSlot i none
    Bench.tell (Device.destroyTexture old.id)

/-- Make the texture that is wanted in a slot, if one is. -/
def makeSlot (i : Fin 3) (wanted : Option TextureDesc) : Step (UploadEngine × Bench δ) Unit := do
  if let some desc := wanted then
    let id ← Bench.call (Device.createTexture desc)
    Bench.note (.textureAllocated i desc.width desc.height desc.format)
    Bench.change fun e => e.setSlot i (some ⟨id, desc.width, desc.height, desc.format⟩)

/-- Bring one slot to a format. The answer says whether it was changed. -/
def ensureSlot (format : VideoFormat) (i : Fin 3) : Step (UploadEngine × Bench δ) Bool := do
  let wanted := wanted? format i
  if fits ((← get).1.slot? i) wanted then return false
  dropSlot i
  makeSlot i wanted
  return true

/-- **Make the textures for a format.** The answer says whether any was
made or dropped. -/
def ensureAllocated (format : VideoFormat) : Step (UploadEngine × Bench δ) Bool := do
  let first ← ensureSlot format 0
  let second ← ensureSlot format 1
  let third ← ensureSlot format 2
  Bench.change fun e => { e with format, correction := format.strideCorrection }
  return first || second || third

/-- The first slot of a format that has not the wanted size, with the size
it has and the wanted one. -/
def mismatch? (e : UploadEngine) (format : VideoFormat) :
    Option (Nat × (Nat × Nat) × (Nat × Nat)) :=
  (List.range format.layout.slots.length).findSome? fun i =>
    let got := (format.slotSize? i).getD (0, 0)
    let expected := ((e.slot? i).map fun s => (s.width, s.height)).getD (0, 0)
    if (e.slot? i).isSome && expected == got then none else some (i, expected, got)

/-- Write the plane of a slot: as many rows as the texture has, or as many
bytes as there are. -/
def writeSlot (frame : VideoFrame) (layout : SlotLayout) (i : Nat) :
    Step (UploadEngine × Bench δ) Unit := do
  match (← get).1.slot? i with
  | none => return ()
  | some slot =>
    match frame.planes[layout.sourcePlane]? with
    | none => Step.ofChecked (.error .outOfRange)
    | some plane =>
      let rows ← Step.ofChecked (Checked.fit64 (plane.stride * slot.height))
      let data := plane.data.extract 0 (min rows plane.data.size)
      Bench.call (Device.writeTexture slot.id data (plane.stride % UInt32.size))

/-- Write the planes of slots, the first slot being the `i`-th. -/
def writeSlots (frame : VideoFrame) : Nat → List SlotLayout → Step (UploadEngine × Bench δ) Unit
  | _, [] => return ()
  | i, layout :: layouts => do
    writeSlot frame layout i
    writeSlots frame (i + 1) layouts

/-- **Upload the planes of a frame.** The answer says whether there was
anything to upload. -/
def upload (frame : VideoFrame) : Step (UploadEngine × Bench δ) Bool := do
  let format := frame.format
  if frame.isEmpty || format.layout.slots.isEmpty then return false
  if let some (slot, expected, got) := (← get).1.mismatch? format then
    throw (.formatMismatch slot expected got)
  writeSlots frame 0 format.layout.slots
  Bench.change fun e => { e with drawnFrames := e.drawnFrames + 1 }
  Bench.note (.planesUploaded (← get).1.drawnFrames)
  return true

/-- Drop the textures in a list of slots. -/
def dropAll : List (Option TextureSlot) → δ → δ
  | [], d => d
  | none :: rest, d => dropAll rest d
  | some s :: rest, d => dropAll rest (Device.destroyTexture s.id d)

/-- **Drop every texture.** The count of frames stays. -/
def release (s : UploadEngine × Bench δ) : UploadEngine × Bench δ :=
  ({ initial with drawnFrames := s.1.drawnFrames }, s.2.onDevice (dropAll s.1.slots.toList))

end Steps

end UploadEngine

end Projector
