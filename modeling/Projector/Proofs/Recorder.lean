import Projector.Proofs.Ledger
import Projector.Proofs.Step

/-!
# What a recording device owns

The parts of the library share one device, and none of them knows of the
objects of another. That their work does not collide rests on two things
proved here.

First, a number is handed out once. A device is `Orderly` if its counter is
at least every number in use, so a new texture is none of those that are
there. Its records are lawful then, which is kept by every call that names
objects that are there.

Second, a texture carries the label of the part it was made for. `Holds`
says that the textures with one label are exactly those a part knows of,
and `Spares` says that work on some labels leaves all others as they are.
A part that keeps what it holds under its own label needs to know nothing
about the device beyond that label.
-/

namespace Projector

/-- **A quad that was drawn.** -/
structure Drawing where
  /-- The program it was drawn with. -/
  program : ProgramId
  /-- The textures it was drawn with. -/
  textures : Bindings
  /-- Where it was drawn. -/
  quad : Quad Float32

/-- The quad of a record, if it is one of a drawing. -/
def DeviceRecord.drawing? : DeviceRecord → Option Drawing
  | drawQuad program textures quad => some ⟨program, textures, quad⟩
  | _ => none

namespace Recorder

open Step

/-- **The quads that were drawn**, the first one first. -/
def drawings (d : Recorder) : List Drawing := d.calls.toList.filterMap DeviceRecord.drawing?

/-- **The books are in order**: the counter is a word and not less than any
number in use, every texture has texels, and the records are lawful. -/
structure Orderly (d : Recorder) : Prop where
  /-- The counter is a word. -/
  counter : d.lastId < UInt32.size
  /-- Numbers of textures were handed out. -/
  textures : ∀ t desc, d.textures.get? t = some desc → t.index ≤ d.lastId
  /-- Textures have texels. -/
  texels : ∀ t desc, d.textures.get? t = some desc → 0 < desc.width ∧ 0 < desc.height
  /-- Numbers of programs were handed out. -/
  programs : ∀ p source, d.programs.get? p = some source → p.index ≤ d.lastId
  /-- The records are lawful. -/
  booked : d.Booked

/-- **The textures with a label are those that are held**: one, or none. -/
def Holds (d : Recorder) (label : String) (held : Option (TextureId × TextureDesc)) : Prop :=
  ∀ t desc, (d.textures.get? t = some desc ∧ desc.label = label) ↔ held = some (t, desc)

theorem orderly_initial : Orderly .initial where
  counter := by decide
  textures _ _ h := by cases h
  texels _ _ h := by cases h
  programs _ _ h := by cases h
  booked := booked_initial

theorem holds_initial (label : String) : Holds .initial label none := by
  intro t desc
  constructor
  · rintro ⟨h, -⟩
    cases h
  · intro h
    cases h

/-- **What work on some labels leaves as it was**: the textures with other
labels and their bytes, the programs, and what was drawn. -/
structure Spares (d d' : Recorder) (touched : String → Prop) : Prop where
  /-- The same textures have other labels. -/
  textures : ∀ t desc, ¬ touched desc.label →
    (d'.textures.get? t = some desc ↔ d.textures.get? t = some desc)
  /-- They hold the same bytes. -/
  contents : ∀ t desc, ¬ touched desc.label → d.textures.get? t = some desc →
    d'.contents.get? t = d.contents.get? t
  /-- The programs are the same. -/
  programs : d'.programs = d.programs
  /-- Their uniforms are the same. -/
  uniforms : d'.uniforms = d.uniforms
  /-- A pass is open if one was. -/
  inPass : d'.inPass = d.inPass
  /-- Programs are refused if they were. -/
  refusesPrograms : d'.refusesPrograms = d.refusesPrograms
  /-- Nothing was drawn. -/
  drawings : d'.drawings = d.drawings

/-- **What work outside a pass leaves as it was.** -/
structure Still (d d' : Recorder) : Prop where
  /-- A pass is open if one was. -/
  inPass : d'.inPass = d.inPass
  /-- Programs are refused if they were. -/
  refusesPrograms : d'.refusesPrograms = d.refusesPrograms
  /-- Nothing was drawn. -/
  drawings : d'.drawings = d.drawings

theorem Still.refl (d : Recorder) : d.Still d := ⟨rfl, rfl, rfl⟩

theorem Still.trans {d d' d'' : Recorder} (h : d.Still d') (h' : d'.Still d'') : d.Still d'' :=
  ⟨h'.inPass.trans h.inPass, h'.refusesPrograms.trans h.refusesPrograms,
    h'.drawings.trans h.drawings⟩

theorem Spares.still {d d' : Recorder} {touched : String → Prop} (h : d.Spares d' touched) :
    d.Still d' :=
  ⟨h.inPass, h.refusesPrograms, h.drawings⟩

/-! ## What is recorded -/

theorem drawings_record (d : Recorder) (call : DeviceRecord) :
    (d.record call).drawings = d.drawings ++ call.drawing?.toList := by
  unfold drawings record
  rw [Array.toList_push, List.filterMap_append]
  cases h : call.drawing? with
  | none => simp [h]
  | some x => simp [h]

/-- The number of the next object. -/
def freshTexture (d : Recorder) : TextureId := ⟨d.lastId + 1⟩

/-- The number of the next object, as that of a program. -/
def freshProgram (d : Recorder) : ProgramId := ⟨d.lastId + 1⟩

/-- The device with one more texture. -/
def added (d : Recorder) (desc : TextureDesc) : Recorder :=
  { d with lastId := d.lastId + 1, textures := d.textures.put d.freshTexture desc }.record
    (.createTexture d.freshTexture desc)

/-- The device with other bytes in a texture. -/
def filled (d : Recorder) (t : TextureId) (data : Bytes) (bytesPerRow : Nat) : Recorder :=
  { d with contents := d.contents.put t data }.record (.writeTexture t data.size bytesPerRow)

/-- The device with one more program. -/
def compiled (d : Recorder) (source : String) : Recorder :=
  { d with lastId := d.lastId + 1, programs := d.programs.put d.freshProgram source }.record
    (.createProgram d.freshProgram)

/-- The device with other numbers for a program. -/
def bound (d : Recorder) (p : ProgramId) (u : VideoUniforms) : Recorder :=
  { d with uniforms := d.uniforms.put p u }.record (.bindUniforms p)

/-- The device with a pass begun. -/
def begun (d : Recorder) (viewport : Size Float32) (clear : ClearColor) : Recorder :=
  { d with inPass := true }.record (.beginPass viewport clear)

/-- The device with the pass ended. -/
def ended (d : Recorder) : Recorder := { d with inPass := false }.record .endPass

@[simp] theorem drawings_bound (d : Recorder) (p : ProgramId) (u : VideoUniforms) :
    (d.bound p u).drawings = d.drawings := (drawings_record _ _).trans (List.append_nil _)

@[simp] theorem drawings_begun (d : Recorder) (viewport : Size Float32) (clear : ClearColor) :
    (d.begun viewport clear).drawings = d.drawings :=
  (drawings_record _ _).trans (List.append_nil _)

@[simp] theorem drawings_ended (d : Recorder) : d.ended.drawings = d.drawings :=
  (drawings_record _ _).trans (List.append_nil _)

/-! ## What a call ends in -/

theorem nextId_eq (d : Recorder) :
    d.nextId = if d.lastId + 1 < UInt32.size then .ok (d.lastId + 1) else .error .overflow := rfl

/-- **A texture with texels is made** unless the numbers are used up. -/
theorem createTexture_ends (d : Recorder) {desc : TextureDesc} (hw : 0 < desc.width)
    (hh : 0 < desc.height) :
    (createTexture desc).Ends d
      (fun t d' => d.lastId + 1 < UInt32.size ∧ t = d.freshTexture ∧ d' = d.added desc)
      (fun _ _ => False) fun _ => UInt32.size ≤ d.lastId + 1 := by
  have hs : ¬ (desc.width = 0 ∨ desc.height = 0) := by omega
  unfold createTexture
  rw [if_neg hs]
  simp only [ends_bind, ends_get, ends_set, ends_pure, ends_ofChecked, nextId_eq]
  split
  · next h =>
    refine ⟨fun n hn => ?_, by simp⟩
    cases hn
    exact ⟨h, rfl, rfl⟩
  · next h => exact ⟨by simp, fun f _ => by omega⟩

/-- **Bytes are written if they fill the texture**, and refused otherwise. -/
theorem writeTexture_ends_live {d : Recorder} {t : TextureId} {desc : TextureDesc}
    (live : d.textures.get? t = some desc) (data : Bytes) (bytesPerRow : Nat) :
    (writeTexture t data bytesPerRow).Ends d
      (fun _ d' => fills desc (desc.width * desc.format.bytes) data.size bytesPerRow = true ∧
        d' = d.filled t data bytesPerRow)
      (fun e d' => fills desc (desc.width * desc.format.bytes) data.size bytesPerRow = false ∧
        d' = d ∧
        e = .gpu (.shortWrite data.size bytesPerRow desc.width desc.height desc.format))
      fun _ => UInt32.size ≤ desc.width * desc.format.bytes := by
  unfold writeTexture
  simp only [ends_bind, ends_get, live, ends_ofChecked]
  refine ⟨fun row hrow => ?_, fun _ hf => Checked.le_of_fit32_eq_error hf⟩
  obtain ⟨-, rfl⟩ := Checked.fit32_eq_ok.1 hrow
  split
  · next short => exact ⟨by simpa using short, rfl, rfl⟩
  · next full => exact ⟨by simpa using full, rfl⟩

/-- **Bytes that fill a texture are written.** -/
theorem writeTexture_ends {d : Recorder} {t : TextureId} {desc : TextureDesc} {data : Bytes}
    {bytesPerRow : Nat} (live : d.textures.get? t = some desc)
    (row : desc.width * desc.format.bytes < UInt32.size)
    (fill : fills desc (desc.width * desc.format.bytes) data.size bytesPerRow = true) :
    (writeTexture t data bytesPerRow).Ends d (fun _ d' => d' = d.filled t data bytesPerRow)
      (fun _ _ => False) fun _ => False := by
  refine (writeTexture_ends_live live data bytesPerRow).mono (fun _ _ h => h.2) ?_ fun _ long => ?_
  · rintro - - ⟨short, -⟩
    rw [fill] at short
    cases short
  · omega

/-- **Whatever is written, a texture is filled or nothing happens.** -/
theorem writeTexture_ends_any (d : Recorder) (t : TextureId) (data : Bytes) (bytesPerRow : Nat) :
    (writeTexture t data bytesPerRow).Ends d
      (fun _ d' => (∃ desc, d.textures.get? t = some desc) ∧ d' = d.filled t data bytesPerRow)
      (fun _ d' => d' = d) fun _ => True := by
  unfold writeTexture
  simp only [ends_bind, ends_get]
  split
  · rfl
  · next desc live =>
    simp only [ends_bind, ends_ofChecked]
    refine ⟨fun row _ => ?_, fun _ _ => trivial⟩
    split
    · rfl
    · exact ⟨⟨desc, live⟩, rfl⟩

/-- **A program is made** unless programs are refused, or the numbers are
used up. -/
theorem createProgram_ends (d : Recorder) (desc : ProgramDesc) :
    (createProgram desc).Ends d
      (fun p d' => d.refusesPrograms = false ∧ d.lastId + 1 < UInt32.size ∧
        p = d.freshProgram ∧ d' = d.compiled desc.source)
      (fun e d' => d.refusesPrograms = true ∧ d' = d ∧ e = .shader desc.label)
      fun _ => UInt32.size ≤ d.lastId + 1 := by
  unfold createProgram
  simp only [ends_bind, ends_get]
  split
  · next h => exact ⟨h, rfl, rfl⟩
  · next h =>
    have hr : d.refusesPrograms = false := by simpa using h
    simp only [ends_bind, ends_set, ends_pure, ends_ofChecked, nextId_eq]
    split
    · next hn =>
      refine ⟨fun n e => ?_, by simp⟩
      cases e
      exact ⟨hr, hn, rfl, rfl⟩
    · next hn => exact ⟨by simp, fun f _ => by omega⟩

/-- **The numbers of a program that is there are set.** -/
theorem bindUniforms_ends {d : Recorder} {p : ProgramId} {source : String}
    (live : d.programs.get? p = some source) (u : VideoUniforms) :
    (bindUniforms p u).Ends d
      (fun _ d' => d' = d.bound p u)
      (fun _ _ => False) fun _ => False := by
  have hp : d.programs.contains p = true := by
    rw [Registry.contains, live]
    rfl
  unfold bindUniforms
  simp [hp, bound]

/-- **A pass is begun** where none is open. -/
theorem beginPass_ends {d : Recorder} (closed : d.inPass = false) (viewport : Size Float32)
    (clear : ClearColor) :
    (beginPass viewport clear).Ends d
      (fun _ d' => d' = d.begun viewport clear)
      (fun _ _ => False) fun _ => False := by
  unfold beginPass
  simp [closed, begun]

/-- **An open pass is ended.** -/
theorem endPass_ends {d : Recorder} (opened : d.inPass = true) :
    endPass.Ends d (fun _ d' => d' = d.ended)
      (fun _ _ => False) fun _ => False := by
  unfold endPass
  simp [opened, ended]

/-- A drawing names no texture that is not there, if all it names are. -/
theorem unknownTexture?_eq_none {d : Recorder} {textures : Bindings}
    (live : ∀ t, some t ∈ textures.toList → ∃ desc, d.textures.get? t = some desc) :
    d.unknownTexture? textures = none := by
  unfold unknownTexture?
  rw [List.find?_eq_none]
  intro t ht
  obtain ⟨o, ho, rfl⟩ := List.mem_filterMap.1 ht
  obtain ⟨desc, hdesc⟩ := live t ho
  simp [Registry.contains, hdesc]

/-- **A quad is drawn** inside a pass, with a program and textures that are
there. -/
theorem drawQuad_ends {d : Recorder} {p : ProgramId} {source : String} {textures : Bindings}
    (opened : d.inPass = true) (program : d.programs.get? p = some source)
    (live : ∀ t, some t ∈ textures.toList → ∃ desc, d.textures.get? t = some desc)
    (quad : Quad Float32) :
    (drawQuad p textures quad).Ends d (fun _ d' => d' = d.record (.drawQuad p textures quad))
      (fun _ _ => False) fun _ => False := by
  have hp : d.programs.contains p = true := by
    rw [Registry.contains, program]
    rfl
  unfold drawQuad
  simp [opened, hp, unknownTexture?_eq_none live]

/-! ## Labels -/

/-- What is held is there, under its label. -/
theorem Holds.live {d : Recorder} {label : String} {t : TextureId} {desc : TextureDesc}
    (h : d.Holds label (some (t, desc))) : d.textures.get? t = some desc ∧ desc.label = label :=
  (h t desc).2 rfl

/-- **Textures with different labels are different ones.** -/
theorem Holds.ne {d : Recorder} {label label' : String} {t t' : TextureId}
    {desc desc' : TextureDesc} (h : d.Holds label (some (t, desc)))
    (h' : d.Holds label' (some (t', desc'))) (hl : label ≠ label') : t ≠ t' := by
  rintro rfl
  obtain ⟨hd, rfl⟩ := h.live
  obtain ⟨hd', rfl⟩ := h'.live
  exact hl (congrArg TextureDesc.label (Option.some.inj (hd.symm.trans hd')))

namespace Spares

variable {d d' d'' : Recorder} {touched touched' : String → Prop}

theorem refl (d : Recorder) (touched : String → Prop) : d.Spares d touched :=
  ⟨fun _ _ _ => Iff.rfl, fun _ _ _ _ => rfl, rfl, rfl, rfl, rfl, rfl⟩

/-- **Work after work.** A texture that the first one leaves has its label
still, so the second one leaves it too. -/
theorem trans (h : d.Spares d' touched) (h' : d'.Spares d'' touched) : d.Spares d'' touched where
  textures t desc ht := (h'.textures t desc ht).trans (h.textures t desc ht)
  contents t desc ht hd :=
    (h'.contents t desc ht ((h.textures t desc ht).2 hd)).trans (h.contents t desc ht hd)
  programs := h'.programs.trans h.programs
  uniforms := h'.uniforms.trans h.uniforms
  inPass := h'.inPass.trans h.inPass
  refusesPrograms := h'.refusesPrograms.trans h.refusesPrograms
  drawings := h'.drawings.trans h.drawings

/-- Work on some labels is work on more labels. -/
theorem mono (h : d.Spares d' touched) (ht : ∀ label, touched label → touched' label) :
    d.Spares d' touched' where
  textures t desc hd := h.textures t desc fun hl => hd (ht _ hl)
  contents t desc hd := h.contents t desc fun hl => hd (ht _ hl)
  programs := h.programs
  uniforms := h.uniforms
  inPass := h.inPass
  refusesPrograms := h.refusesPrograms
  drawings := h.drawings

/-- What is held under a label that is left is still held. -/
theorem holds (h : d.Spares d' touched) {label : String} (hl : ¬ touched label)
    {held : Option (TextureId × TextureDesc)} (hh : d.Holds label held) : d'.Holds label held := by
  intro t desc
  rw [← hh t desc]
  constructor
  · rintro ⟨hd, rfl⟩
    exact ⟨(h.textures t desc hl).1 hd, rfl⟩
  · rintro ⟨hd, rfl⟩
    exact ⟨(h.textures t desc hl).2 hd, rfl⟩

/-- And has its bytes. -/
theorem contents_of_holds (h : d.Spares d' touched) {label : String} (hl : ¬ touched label)
    {t : TextureId} {desc : TextureDesc} (hh : d.Holds label (some (t, desc))) :
    d'.contents.get? t = d.contents.get? t := by
  obtain ⟨hd, rfl⟩ := hh.live
  exact h.contents t desc hl hd

end Spares

/-- **Every texture has a label among some.** -/
def Labelled (d : Recorder) (labels : String → Prop) : Prop :=
  ∀ t desc, d.textures.get? t = some desc → labels desc.label

theorem labelled_initial (labels : String → Prop) : Labelled .initial labels := by
  intro t desc h
  cases h

/-- Work on some of the labels brings no other one. -/
theorem Spares.labelled {d d' : Recorder} {touched labels : String → Prop} (h : d.Spares d' touched)
    (labelled : d.Labelled labels) (among : ∀ label, touched label → labels label) :
    d'.Labelled labels := by
  intro t desc live
  by_cases ht : touched desc.label
  · exact among _ ht
  · exact labelled t desc ((h.textures t desc ht).1 live)

/-! ## Dropping, making and filling a texture -/

section Textures

variable {d : Recorder} {t : TextureId} {desc : TextureDesc}

/-- A new number is not in use. -/
theorem Orderly.freshTexture_get? (h : d.Orderly) : d.textures.get? d.freshTexture = none := by
  cases e : d.textures.get? d.freshTexture with
  | none => rfl
  | some desc =>
    have hle : d.lastId + 1 ≤ d.lastId := h.textures _ _ e
    omega

theorem Orderly.destroyTexture (h : d.Orderly) (live : d.textures.get? t = some desc) :
    (destroyTexture t d).Orderly where
  counter := h.counter
  textures u desc e := by
    rw [Recorder.destroyTexture, record, Registry.get?_erase] at e
    split at e
    · cases e
    · exact h.textures u desc e
  texels u desc e := by
    rw [Recorder.destroyTexture, record, Registry.get?_erase] at e
    split at e
    · cases e
    · exact h.texels u desc e
  programs := h.programs
  booked := by
    refine h.booked.call rfl (Registry.mem_keys_of_get? live) ?_
    show Ledger.mk (d.textures.erase t).keys _ _ = _
    rw [Registry.keys_erase]
    rfl

theorem Orderly.added (h : d.Orderly) (hn : d.lastId + 1 < UInt32.size) (hw : 0 < desc.width)
    (hh : 0 < desc.height) : (d.added desc).Orderly where
  counter := hn
  textures u desc' e := by
    rw [Recorder.added, record, Registry.get?_put] at e
    show u.index ≤ d.lastId + 1
    split at e
    · next hu => exact hu ▸ Nat.le_refl _
    · exact Nat.le_succ_of_le (h.textures u desc' e)
  texels u desc' e := by
    rw [Recorder.added, record, Registry.get?_put] at e
    split at e
    · cases e
      exact ⟨hw, hh⟩
    · exact h.texels u desc' e
  programs p source e := Nat.le_succ_of_le (h.programs p source e)
  booked := by
    refine h.booked.call rfl (Registry.not_mem_keys h.freshTexture_get?) ?_
    show Ledger.mk (d.textures.put d.freshTexture desc).keys _ _ = _
    rw [Registry.keys_put h.freshTexture_get?]
    rfl

theorem Orderly.filled (h : d.Orderly) (live : d.textures.get? t = some desc) (data : Bytes)
    (bytesPerRow : Nat) : (d.filled t data bytesPerRow).Orderly :=
  ⟨h.counter, h.textures, h.texels, h.programs,
    h.booked.call rfl (Registry.mem_keys_of_get? live) rfl⟩

theorem destroyTexture_spares (live : d.textures.get? t = some desc) :
    d.Spares (destroyTexture t d) (· = desc.label) where
  textures u desc' hl := by
    show (d.textures.erase t).get? u = some desc' ↔ _
    rw [Registry.get?_erase]
    split
    · next hu =>
      subst hu
      refine ⟨fun e => (nomatch e), fun e => ?_⟩
      exact (hl (congrArg TextureDesc.label (Option.some.inj (e.symm.trans live)))).elim
    · rfl
  contents u desc' hl hd := by
    show (d.contents.erase t).get? u = _
    rw [Registry.get?_erase, if_neg]
    rintro rfl
    exact hl (congrArg TextureDesc.label (Option.some.inj (hd.symm.trans live)))
  programs := rfl
  uniforms := rfl
  inPass := rfl
  refusesPrograms := rfl
  drawings := (drawings_record _ _).trans (List.append_nil _)

theorem added_spares (h : d.Orderly) (desc : TextureDesc) :
    d.Spares (d.added desc) (· = desc.label) where
  textures u desc' hl := by
    show (d.textures.put d.freshTexture desc).get? u = some desc' ↔ _
    rw [Registry.get?_put]
    split
    · next hu =>
      rw [hu, h.freshTexture_get?]
      refine ⟨fun e => ?_, fun e => nomatch e⟩
      exact (hl (congrArg TextureDesc.label (Option.some.inj e.symm))).elim
    · rfl
  contents _ _ _ _ := rfl
  programs := rfl
  uniforms := rfl
  inPass := rfl
  refusesPrograms := rfl
  drawings := (drawings_record _ _).trans (List.append_nil _)

theorem filled_spares (live : d.textures.get? t = some desc) (data : Bytes) (bytesPerRow : Nat) :
    d.Spares (d.filled t data bytesPerRow) (· = desc.label) where
  textures _ _ _ := Iff.rfl
  contents u desc' hl hd := by
    show (d.contents.put t data).get? u = _
    rw [Registry.get?_put, if_neg]
    rintro rfl
    exact hl (congrArg TextureDesc.label (Option.some.inj (hd.symm.trans live)))
  programs := rfl
  uniforms := rfl
  inPass := rfl
  refusesPrograms := rfl
  drawings := (drawings_record _ _).trans (List.append_nil _)

/-- **Once what was held is dropped, nothing is held.** -/
theorem Holds.destroyTexture {label : String} (h : d.Holds label (some (t, desc))) :
    (destroyTexture t d).Holds label none := by
  intro u desc'
  refine ⟨fun ⟨e, hl⟩ => ?_, fun e => nomatch e⟩
  rw [Recorder.destroyTexture, record, Registry.get?_erase] at e
  split at e
  · cases e
  · next hu =>
    have e' := (h u desc').1 ⟨e, hl⟩
    exact (hu (congrArg Prod.fst (Option.some.inj e')).symm).elim

/-- **Where nothing was held, the new texture is what is held.** -/
theorem Holds.added (h : d.Holds desc.label none) :
    (d.added desc).Holds desc.label (some (d.freshTexture, desc)) := by
  intro u desc'
  show (d.textures.put d.freshTexture desc).get? u = some desc' ∧ _ ↔ _
  rw [Registry.get?_put]
  split
  · next hu =>
    subst hu
    constructor
    · rintro ⟨e, -⟩
      rw [Option.some.inj e]
    · intro e
      rw [← (Prod.mk.inj (Option.some.inj e)).2]
      exact ⟨rfl, rfl⟩
  · next hu =>
    refine ⟨fun e => (nomatch (h u desc').1 e), fun e => ?_⟩
    exact (hu (Prod.mk.inj (Option.some.inj e)).1.symm).elim

/-- Filling a texture leaves what is held. -/
theorem holds_filled {label : String} {held : Option (TextureId × TextureDesc)} (data : Bytes)
    (bytesPerRow : Nat) :
    (d.filled t data bytesPerRow).Holds label held ↔ d.Holds label held := Iff.rfl

/-- **The bytes of a texture are those written last.** -/
theorem contents_filled (u : TextureId) (data : Bytes) (bytesPerRow : Nat) :
    (d.filled t data bytesPerRow).contents.get? u =
      if u = t then some data else d.contents.get? u :=
  Registry.get?_put _ _ _ _

end Textures

/-! ## Filling several textures -/

/-- **Bytes for a texture.** -/
structure Fill where
  /-- The texture. -/
  texture : TextureId
  /-- The bytes. -/
  data : Bytes
  /-- How many of them make a row. -/
  bytesPerRow : Nat

/-- The record of a texture that was filled. -/
def Fill.record (x : Fill) : DeviceRecord := .writeTexture x.texture x.data.size x.bytesPerRow

/-- The device with several textures filled, one after the other. -/
def fillAll (fills : List Fill) (d : Recorder) : Recorder :=
  fills.foldl (fun d x => d.filled x.texture x.data x.bytesPerRow) d

@[simp] theorem fillAll_nil (d : Recorder) : d.fillAll [] = d := rfl

@[simp] theorem fillAll_cons (d : Recorder) (x : Fill) (fills : List Fill) :
    d.fillAll (x :: fills) = (d.filled x.texture x.data x.bytesPerRow).fillAll fills := rfl

theorem fillAll_append (d : Recorder) (fills more : List Fill) :
    d.fillAll (fills ++ more) = (d.fillAll fills).fillAll more := List.foldl_append

/-- Every write is recorded, in order. -/
theorem calls_fillAll (fills : List Fill) (d : Recorder) :
    (d.fillAll fills).calls.toList = d.calls.toList ++ fills.map Fill.record := by
  induction fills generalizing d with
  | nil => exact (List.append_nil _).symm
  | cons x fills ih =>
    rw [fillAll_cons, ih]
    show (d.calls.push _).toList ++ _ = _
    rw [Array.toList_push, List.append_assoc]
    rfl

@[simp] theorem textures_fillAll (fills : List Fill) (d : Recorder) :
    (d.fillAll fills).textures = d.textures := by
  induction fills generalizing d with
  | nil => rfl
  | cons x fills ih => exact ih _

@[simp] theorem lastId_fillAll (fills : List Fill) (d : Recorder) :
    (d.fillAll fills).lastId = d.lastId := by
  induction fills generalizing d with
  | nil => rfl
  | cons x fills ih => exact ih _

/-- The textures that writes go into are there. -/
def Targets (d : Recorder) (fills : List Fill) : Prop :=
  ∀ x ∈ fills, ∃ desc, d.textures.get? x.texture = some desc

theorem Orderly.fillAll {d : Recorder} (h : d.Orderly) {fills : List Fill}
    (targets : d.Targets fills) : (d.fillAll fills).Orderly := by
  induction fills generalizing d with
  | nil => exact h
  | cons x fills ih =>
    obtain ⟨desc, live⟩ := targets x List.mem_cons_self
    exact ih (h.filled live _ _) fun y hy => targets y (List.mem_cons_of_mem _ hy)

/-- Textures that no write names keep their bytes. -/
theorem contents_fillAll_of_not_mem {fills : List Fill} {t : TextureId}
    (h : t ∉ fills.map Fill.texture) (d : Recorder) :
    (d.fillAll fills).contents.get? t = d.contents.get? t := by
  induction fills generalizing d with
  | nil => rfl
  | cons x fills ih =>
    rw [List.map_cons, List.mem_cons, not_or] at h
    rw [fillAll_cons, ih h.2, contents_filled, if_neg h.1]

/-- **Writes into different textures do not undo each other.** -/
theorem contents_fillAll {fills : List Fill} (h : (fills.map Fill.texture).Nodup) {x : Fill}
    (hx : x ∈ fills) (d : Recorder) : (d.fillAll fills).contents.get? x.texture = some x.data := by
  induction fills generalizing d with
  | nil => cases hx
  | cons y fills ih =>
    rw [List.map_cons, List.nodup_cons] at h
    rw [fillAll_cons]
    obtain rfl | hx := List.mem_cons.1 hx
    · rw [contents_fillAll_of_not_mem h.1, contents_filled, if_pos rfl]
    · exact ih h.2 hx _

theorem fillAll_spares {fills : List Fill} {d : Recorder} {touched : String → Prop}
    (live : ∀ x ∈ fills, ∃ desc, d.textures.get? x.texture = some desc ∧ touched desc.label) :
    d.Spares (d.fillAll fills) touched := by
  induction fills generalizing d with
  | nil => exact .refl _ _
  | cons x fills ih =>
    obtain ⟨desc, hdesc, ht⟩ := live x List.mem_cons_self
    have first : d.Spares (d.filled x.texture x.data x.bytesPerRow) touched :=
      (filled_spares hdesc _ _).mono fun label e => e ▸ ht
    exact first.trans (ih fun y hy => live y (List.mem_cons_of_mem _ hy))

/-! ## Making and dropping a program -/

/-- **The programs of a device are those of a list**, each with its text. -/
structure Employs (d : Recorder) (ps : List (ProgramId × String)) : Prop where
  /-- They are exactly those. -/
  live : ∀ p source, d.programs.get? p = some source ↔ (p, source) ∈ ps
  /-- No number is there twice. -/
  once : (ps.map Prod.fst).Nodup

theorem employs_initial : Employs .initial [] where
  live p source := by
    constructor
    · intro h
      cases h
    · intro h
      cases h
  once := List.nodup_nil

/-- **What work on programs leaves as it was.** -/
structure SamePictures (d d' : Recorder) : Prop where
  /-- The textures. -/
  textures : d'.textures = d.textures
  /-- Their bytes. -/
  contents : d'.contents = d.contents

section Programs

variable {d d' d'' : Recorder} {ps qs : List (ProgramId × String)}

theorem SamePictures.refl (d : Recorder) : d.SamePictures d := ⟨rfl, rfl⟩

theorem SamePictures.trans (h : d.SamePictures d') (h' : d'.SamePictures d'') :
    d.SamePictures d'' :=
  ⟨h'.textures.trans h.textures, h'.contents.trans h.contents⟩

/-- What is held is held still. -/
theorem SamePictures.holds (h : d.SamePictures d') {label : String}
    {held : Option (TextureId × TextureDesc)} (hh : d.Holds label held) : d'.Holds label held := by
  intro t desc
  rw [h.textures]
  exact hh t desc

/-- Every texture has its label still. -/
theorem SamePictures.labelled (h : d.SamePictures d') {labels : String → Prop}
    (labelled : d.Labelled labels) : d'.Labelled labels := by
  intro t desc live
  rw [h.textures] at live
  exact labelled t desc live

/-- The order of a list does not matter. -/
theorem Employs.perm (h : d.Employs ps) (hp : ps.Perm qs) : d.Employs qs where
  live p source := (h.live p source).trans hp.mem_iff
  once := (hp.map Prod.fst).nodup_iff.1 h.once

/-- Work on textures leaves the programs. -/
theorem Spares.employs {touched : String → Prop} (h : d.Spares d' touched) (he : d.Employs ps) :
    d'.Employs ps where
  live p source := by
    rw [h.programs]
    exact he.live p source
  once := he.once

/-- A new number is no program's. -/
theorem Orderly.freshProgram_get? (h : d.Orderly) : d.programs.get? d.freshProgram = none := by
  cases e : d.programs.get? d.freshProgram with
  | none => rfl
  | some source =>
    have hle : d.lastId + 1 ≤ d.lastId := h.programs _ _ e
    omega

theorem Orderly.compiled (h : d.Orderly) (hn : d.lastId + 1 < UInt32.size) (source : String) :
    (d.compiled source).Orderly where
  counter := hn
  textures t desc e := Nat.le_succ_of_le (h.textures t desc e)
  texels := h.texels
  programs p source' e := by
    rw [Recorder.compiled, record, Registry.get?_put] at e
    show p.index ≤ d.lastId + 1
    split at e
    · next hp => exact hp ▸ Nat.le_refl _
    · exact Nat.le_succ_of_le (h.programs p source' e)
  booked := by
    refine h.booked.call rfl (Registry.not_mem_keys h.freshProgram_get?) ?_
    show Ledger.mk _ (d.programs.put d.freshProgram source).keys _ = _
    rw [Registry.keys_put h.freshProgram_get?]
    rfl

theorem Orderly.destroyProgram (h : d.Orderly) {p : ProgramId} {source : String}
    (live : d.programs.get? p = some source) : (destroyProgram p d).Orderly where
  counter := h.counter
  textures := h.textures
  texels := h.texels
  programs q source e := by
    rw [Recorder.destroyProgram, record, Registry.get?_erase] at e
    split at e
    · cases e
    · exact h.programs q source e
  booked := by
    refine h.booked.call rfl (Registry.mem_keys_of_get? live) ?_
    show Ledger.mk _ (d.programs.erase p).keys _ = _
    rw [Registry.keys_erase]
    rfl

/-- **A program that was compiled is one more**, with a new number. -/
theorem Employs.compiled (h : d.Employs ps) (orderly : d.Orderly) (source : String) :
    (d.compiled source).Employs ((d.freshProgram, source) :: ps) := by
  have fresh : ∀ source', (d.freshProgram, source') ∉ ps := by
    intro source' hmem
    have hle : d.lastId + 1 ≤ d.lastId := orderly.programs _ _ ((h.live _ source').2 hmem)
    omega
  refine ⟨fun p source' => ?_, ?_⟩
  · show (d.programs.put d.freshProgram source).get? p = some source' ↔ _
    rw [Registry.get?_put, List.mem_cons, Prod.mk.injEq]
    split
    · next hp =>
      subst hp
      refine ⟨fun e => .inl ⟨rfl, (Option.some.inj e).symm⟩, ?_⟩
      rintro (⟨-, rfl⟩ | hmem)
      · rfl
      · exact (fresh _ hmem).elim
    · next hp =>
      rw [h.live]
      exact ⟨.inr, fun hmem => hmem.resolve_left fun e => hp e.1⟩
  · rw [List.map_cons, List.nodup_cons]
    refine ⟨fun hmem => ?_, h.once⟩
    obtain ⟨⟨p, source'⟩, hp, rfl⟩ := List.mem_map.1 hmem
    exact fresh source' hp

/-- **A program that was dropped is one less.** -/
theorem Employs.destroyProgram {p : ProgramId} {source : String}
    (h : d.Employs ((p, source) :: ps)) : (destroyProgram p d).Employs ps := by
  have once := h.once
  rw [List.map_cons, List.nodup_cons] at once
  refine ⟨fun q source' => ?_, once.2⟩
  show (d.programs.erase p).get? q = some source' ↔ _
  rw [Registry.get?_erase]
  split
  · next hq =>
    subst hq
    refine ⟨fun e => (nomatch e), fun hmem => ?_⟩
    exact (once.1 (List.mem_map.2 ⟨_, hmem, rfl⟩)).elim
  · next hq =>
    rw [h.live, List.mem_cons, Prod.mk.injEq]
    exact ⟨fun hmem => hmem.resolve_left fun e => hq e.1, .inr⟩

/-! ## Drawing -/

theorem Orderly.bound (h : d.Orderly) {p : ProgramId} {source : String}
    (live : d.programs.get? p = some source) (u : VideoUniforms) : (d.bound p u).Orderly :=
  ⟨h.counter, h.textures, h.texels, h.programs,
    h.booked.call rfl (Registry.mem_keys_of_get? live) rfl⟩

theorem Orderly.begun (h : d.Orderly) (closed : d.inPass = false) (viewport : Size Float32)
    (clear : ClearColor) : (d.begun viewport clear).Orderly :=
  ⟨h.counter, h.textures, h.texels, h.programs, h.booked.call rfl closed rfl⟩

theorem Orderly.ended (h : d.Orderly) (opened : d.inPass = true) : d.ended.Orderly :=
  ⟨h.counter, h.textures, h.texels, h.programs, h.booked.call rfl opened rfl⟩

/-- A quad is drawn in order inside a pass, with what is there. -/
theorem Orderly.drew (h : d.Orderly) (opened : d.inPass = true) {p : ProgramId} {source : String}
    (program : d.programs.get? p = some source) {textures : Bindings}
    (live : ∀ t, some t ∈ textures.toList → ∃ desc, d.textures.get? t = some desc)
    (quad : Quad Float32) : (d.record (.drawQuad p textures quad)).Orderly := by
  refine ⟨h.counter, h.textures, h.texels, h.programs, h.booked.call rfl ?_ rfl⟩
  refine ⟨opened, Registry.mem_keys_of_get? program, fun t ht => ?_⟩
  obtain ⟨desc, hdesc⟩ := live t ht
  exact Registry.mem_keys_of_get? hdesc

/-- A device that is told something from outside has the same books. -/
theorem Orderly.refusePrograms (h : d.Orderly) (refuses : Bool) :
    (d.refusePrograms refuses).Orderly :=
  ⟨h.counter, h.textures, h.texels, h.programs,
    ⟨h.booked.lawful, h.booked.balance, h.booked.once⟩⟩

end Programs

end Recorder

end Projector
