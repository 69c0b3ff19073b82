import Projector.Device.Basic
import Projector.Registry

/-!
# A recording device

A device in memory. It refuses what a real one would: a texture without
texels, a write that does not fill its texture, a call that names an
object it does not own, a drawing outside a pass. Every call that is not
refused is recorded, in order, and what was written, compiled or bound
last can be looked up.
-/

namespace Projector

/-- **A call that was carried out.** -/
inductive DeviceRecord where
  /-- A texture was made. -/
  | createTexture (id : TextureId) (desc : TextureDesc)
  /-- A texture was dropped. -/
  | destroyTexture (id : TextureId)
  /-- A texture was filled with this many bytes. -/
  | writeTexture (id : TextureId) (length bytesPerRow : Nat)
  /-- A program was compiled. -/
  | createProgram (id : ProgramId)
  /-- A program was dropped. -/
  | destroyProgram (id : ProgramId)
  /-- The numbers of a program were set. -/
  | bindUniforms (id : ProgramId)
  /-- A pass was begun. -/
  | beginPass (viewport : Size Float32) (clear : ClearColor)
  /-- A quad was drawn. -/
  | drawQuad (program : ProgramId) (textures : Bindings) (quad : Quad Float32)
  /-- A pass was ended. -/
  | endPass

/-- Whether a quad was drawn. -/
def DeviceRecord.isDraw : DeviceRecord → Bool
  | drawQuad .. => true
  | _ => false

/-- Whether a texture was filled. -/
def DeviceRecord.isWrite : DeviceRecord → Bool
  | writeTexture .. => true
  | _ => false

/-- **A device that records.** -/
structure Recorder where
  /-- What was carried out, the first call first. -/
  calls : Array DeviceRecord
  /-- The textures it owns. -/
  textures : Registry TextureId TextureDesc
  /-- What was written into them last. -/
  contents : Registry TextureId Bytes
  /-- The programs it owns, by their texts. -/
  programs : Registry ProgramId String
  /-- What was bound to them last. -/
  uniforms : Registry ProgramId VideoUniforms
  /-- Whether a pass is open. -/
  inPass : Bool
  /-- The last number that was handed out. -/
  lastId : Nat
  /-- Whether no program is compiled. -/
  refusesPrograms : Bool

namespace Recorder

/-- A device that owns nothing. -/
def initial : Recorder := ⟨#[], .empty, .empty, .empty, .empty, false, 0, false⟩

instance : Inhabited Recorder := ⟨initial⟩

/-- A call carried out. -/
def record (d : Recorder) (call : DeviceRecord) : Recorder := { d with calls := d.calls.push call }

/-- The device with nothing recorded yet. -/
def forgetCalls (d : Recorder) : Recorder := { d with calls := #[] }

/-- The device told to refuse programs, or to compile them again. -/
def refusePrograms (d : Recorder) (refuses : Bool) : Recorder :=
  { d with refusesPrograms := refuses }

/-- The next number, if a word holds it. -/
def nextId (d : Recorder) : Checked Nat := Checked.fit32 (d.lastId + 1)

/-- Refuse a call. -/
def refuse {α : Type} (e : DeviceError) : Step Recorder α := throw (.gpu e)

/-- Make a texture. -/
def createTexture (desc : TextureDesc) : Step Recorder TextureId := do
  if desc.width = 0 ∨ desc.height = 0 then refuse (.zeroSizedTexture desc.width desc.height)
  let d ← get
  let n ← Step.ofChecked d.nextId
  let id : TextureId := ⟨n⟩
  set ({ d with lastId := n, textures := d.textures.put id desc }.record (.createTexture id desc))
  return id

/-- Drop a texture and what was written into it. -/
def destroyTexture (id : TextureId) (d : Recorder) : Recorder :=
  { d with textures := d.textures.erase id, contents := d.contents.erase id }.record
    (.destroyTexture id)

/-- Whether `length` bytes in rows of `bytesPerRow` fill a texture whose
rows take `row` bytes. -/
def fills (desc : TextureDesc) (row length bytesPerRow : Nat) : Bool :=
  decide (row ≤ bytesPerRow) && decide (bytesPerRow * (desc.height - 1) + row ≤ length)

/-- Fill a texture. -/
def writeTexture (id : TextureId) (data : Bytes) (bytesPerRow : Nat) : Step Recorder Unit := do
  let d ← get
  match d.textures.get? id with
  | none => refuse (.unknownTarget id)
  | some desc =>
    let row ← Step.ofChecked desc.rowBytes
    if !fills desc row data.size bytesPerRow then
      refuse (.shortWrite data.size bytesPerRow desc.width desc.height desc.format)
    set ({ d with contents := d.contents.put id data }.record
      (.writeTexture id data.size bytesPerRow))

/-- Compile a program. -/
def createProgram (desc : ProgramDesc) : Step Recorder ProgramId := do
  let d ← get
  if d.refusesPrograms then throw (.shader desc.label)
  let n ← Step.ofChecked d.nextId
  let id : ProgramId := ⟨n⟩
  set ({ d with lastId := n, programs := d.programs.put id desc.source }.record (.createProgram id))
  return id

/-- Drop a program and what was bound to it. -/
def destroyProgram (id : ProgramId) (d : Recorder) : Recorder :=
  { d with programs := d.programs.erase id, uniforms := d.uniforms.erase id }.record
    (.destroyProgram id)

/-- Set the numbers that a program reads. -/
def bindUniforms (id : ProgramId) (u : VideoUniforms) : Step Recorder Unit := do
  let d ← get
  if !d.programs.contains id then refuse (.unknownProgram id)
  set ({ d with uniforms := d.uniforms.put id u }.record (.bindUniforms id))

/-- Begin a pass. -/
def beginPass (viewport : Size Float32) (clear : ClearColor) : Step Recorder Unit := do
  let d ← get
  if d.inPass then refuse .passAlreadyOpen
  set ({ d with inPass := true }.record (.beginPass viewport clear))

/-- The first texture of a drawing that the device does not own. -/
def unknownTexture? (d : Recorder) (textures : Bindings) : Option TextureId :=
  (textures.toList.filterMap id).find? fun t => !d.textures.contains t

/-- Draw a quad. -/
def drawQuad (program : ProgramId) (textures : Bindings) (quad : Quad Float32) :
    Step Recorder Unit := do
  let d ← get
  if !d.inPass then refuse .drawOutsidePass
  if !d.programs.contains program then refuse (.unknownProgram program)
  if let some t := d.unknownTexture? textures then refuse (.unknownTexture t)
  set (d.record (.drawQuad program textures quad))

/-- End the pass. -/
def endPass : Step Recorder Unit := do
  let d ← get
  if !d.inPass then refuse .noOpenPass
  set ({ d with inPass := false }.record .endPass)

instance : Device Recorder where
  createTexture := createTexture
  destroyTexture := destroyTexture
  writeTexture := writeTexture
  createProgram := createProgram
  destroyProgram := destroyProgram
  bindUniforms := bindUniforms
  beginPass := beginPass
  drawQuad := drawQuad
  endPass := endPass

end Recorder

end Projector
