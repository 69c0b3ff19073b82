import Projector.Proofs.Recorded

/-!
# What a renderer owns

The objects of a renderer are kept in four places, and each place is emptied
and filled by other operations. A number that is lost on the way would leave
an object on the device for ever, and one that is kept too long would be used
after its object was dropped.

Neither happens. The textures of the device are those that the renderer knows
of, since each is held under the label of the part that it was made for, and
no label is held twice (`Recorder.keys_perm_held`). The programs are those
that are employed. And whatever was dropped, written, bound or drawn with was
there at that moment, which is what the records of the device say
(`Recorder.Booked`).

The records name only what was carried out. A call that names what is not
there is refused, and the request that made it fails, so it is told from the
answers that there was none: the one request that ever fails is a pass that
needs the program of the overlay, on a device that refuses programs.
-/

namespace Projector

/-! ## What is held on a device -/

namespace Recorder

variable {d : Recorder} {parts : List (String × Option (TextureId × TextureDesc))}

/-- **The textures that parts hold**, each under a label. -/
def heldIds (parts : List (String × Option (TextureId × TextureDesc))) : List TextureId :=
  parts.filterMap fun p => p.2.map Prod.fst

theorem mem_heldIds {t : TextureId} :
    t ∈ heldIds parts ↔ ∃ label desc, (label, some (t, desc)) ∈ parts := by
  unfold heldIds
  rw [List.mem_filterMap]
  constructor
  · rintro ⟨⟨label, held⟩, hp, hheld⟩
    obtain ⟨⟨u, desc⟩, rfl, rfl⟩ := Option.map_eq_some_iff.1 hheld
    exact ⟨label, desc, hp⟩
  · rintro ⟨label, desc, hp⟩
    exact ⟨_, hp, rfl⟩

/-- **Parts with different labels hold different textures.** -/
theorem nodup_heldIds (holds : ∀ p ∈ parts, d.Holds p.1 p.2)
    (labels : (parts.map Prod.fst).Nodup) : (heldIds parts).Nodup := by
  induction parts with
  | nil => exact List.nodup_nil
  | cons p parts ih =>
    obtain ⟨label, held⟩ := p
    rw [List.map_cons, List.nodup_cons] at labels
    have rest := ih (fun q hq => holds q (List.mem_cons_of_mem _ hq)) labels.2
    cases held with
    | none => exact rest
    | some x =>
      obtain ⟨t, desc⟩ := x
      refine List.nodup_cons.2 ⟨fun again => ?_, rest⟩
      obtain ⟨other, desc', hother⟩ := mem_heldIds.1 again
      have first := holds _ List.mem_cons_self
      have second := holds _ (List.mem_cons_of_mem _ hother)
      refine first.ne second (fun same => labels.1 ?_) rfl
      exact List.mem_map.2 ⟨_, hother, same.symm⟩

/-- **The textures of a device are those that its parts hold**, if every
texture has the label of a part. -/
theorem keys_perm_held (holds : ∀ p ∈ parts, d.Holds p.1 p.2)
    (labels : (parts.map Prod.fst).Nodup) (labelled : d.Labelled (· ∈ parts.map Prod.fst))
    (once : d.textures.keys.Nodup) : d.textures.keys.Perm (heldIds parts) := by
  refine (List.perm_ext_iff_of_nodup once (nodup_heldIds holds labels)).2 fun t => ?_
  rw [Registry.mem_keys, mem_heldIds]
  constructor
  · rintro ⟨desc, live⟩
    obtain ⟨⟨label, held⟩, hp, rfl⟩ := List.mem_map.1 (labelled t desc live)
    have known : held = some (t, desc) := (holds _ hp t desc).1 ⟨live, rfl⟩
    exact ⟨desc.label, desc, known ▸ hp⟩
  · rintro ⟨label, desc, hp⟩
    exact ⟨desc, ((holds _ hp t desc).2 rfl).1⟩

/-- **The programs of a device are those that are employed.** -/
theorem Employs.keys_perm {ps : List (ProgramId × String)} (h : d.Employs ps)
    (once : d.programs.keys.Nodup) : d.programs.keys.Perm (ps.map Prod.fst) := by
  refine (List.perm_ext_iff_of_nodup once h.once).2 fun p => ?_
  rw [Registry.mem_keys, List.mem_map]
  constructor
  · rintro ⟨source, live⟩
    exact ⟨(p, source), (h.live p source).1 live, rfl⟩
  · rintro ⟨⟨q, source⟩, hq, rfl⟩
    exact ⟨source, (h.live q source).2 hq⟩

end Recorder

/-- An engine without textures has none in each slot. -/
theorem UploadEngine.toList_of_bare {e : UploadEngine} (bare : ∀ i : Fin 3, e.slot? i = none) :
    e.slots.toList = [none, none, none] := by
  have slot (i : Fin 3) : e.slots[i] = none := (slot?_eq_getElem _ i.isLt).symm.trans (bare i)
  rw [toList_three, show e.slots[0] = none from slot 0, show e.slots[1] = none from slot 1,
    show e.slots[2] = none from slot 2]

/-! ## What a renderer knows of -/

namespace Renderer

/-- **The textures that a renderer knows of**: those of the slots, and the one
of the overlay. -/
def knownTextures {δ : Type} (r : Renderer δ) : List TextureId :=
  r.textures.textureIds.toList.filterMap id ++ r.overlay.texture.toList

/-- **The programs that a renderer knows of**: the one of the video, and the
one of the overlay. -/
def knownPrograms {δ : Type} (r : Renderer δ) : List ProgramId :=
  r.program.toList ++ r.overlay.program.toList

/-- **The device has what the renderer knows of**, and nothing else. -/
structure Owns (r : Renderer Recorder) : Prop where
  /-- The textures are known. -/
  textures : r.bench.device.textures.keys.Perm r.knownTextures
  /-- So are the programs. -/
  programs : r.bench.device.programs.keys.Perm r.knownPrograms
  /-- No texture is known twice, -/
  texturesOnce : r.knownTextures.Nodup
  /-- and no program. -/
  programsOnce : r.knownPrograms.Nodup

variable {r : Renderer Recorder}

/-- The parts that hold textures. -/
def parts (r : Renderer Recorder) : List (String × Option (TextureId × TextureDesc)) :=
  (List.finRange 3).map (fun i => (UploadEngine.slotLabel i, r.textures.held i)) ++
    [("osd", r.overlay.held)]

/-- The textures that are held are those that are known. -/
theorem heldIds_parts (r : Renderer Recorder) : Recorder.heldIds r.parts = r.knownTextures := by
  have slot (i : Fin 3) :
      (r.textures.held i).map Prod.fst = r.textures.slots[i].map TextureSlot.id := by
    unfold UploadEngine.held
    rw [Option.map_map, UploadEngine.slot?_eq_getElem _ i.isLt]
    rfl
  have overlay : r.overlay.held.map Prod.fst = r.overlay.texture := by
    unfold OsdLayer.held
    cases r.overlay.texture <;> rfl
  calc Recorder.heldIds r.parts
    _ = ([(r.textures.held 0).map Prod.fst, (r.textures.held 1).map Prod.fst,
          (r.textures.held 2).map Prod.fst] ++ [r.overlay.held.map Prod.fst]).filterMap id := rfl
    _ = r.textures.textureIds.toList.filterMap id ++ [r.overlay.texture].filterMap id := by
        rw [List.filterMap_append, slot, slot, slot, overlay]
        unfold UploadEngine.textureIds
        rw [Vector.toList_map, UploadEngine.toList_three]
        rfl
    _ = r.knownTextures := by
        unfold knownTextures
        cases r.overlay.texture <;> rfl

/-- The programs that are employed are those that are known. -/
theorem employed_perm (tidy : r.core.Tidy) :
    ((r.overlay.employed ++ r.core.employed).map Prod.fst).Perm r.knownPrograms := by
  have overlay : r.overlay.employed.map Prod.fst = r.overlay.program.toList := by
    unfold OsdLayer.employed
    cases r.overlay.program <;> rfl
  have video : r.core.employed.map Prod.fst = r.program.toList := by
    cases hp : r.program with
    | none =>
      rw [Core.employed_of_none hp]
      rfl
    | some p =>
      obtain ⟨source, hsource⟩ := tidy.keyed p hp
      rw [Core.employed_of_some hp hsource]
      rfl
  rw [List.map_append, overlay, video]
  exact List.perm_append_comm

/-- **A tidy renderer owns what is on its device.** -/
theorem Core.Tidy.owns (tidy : r.core.Tidy) : r.Owns := by
  have once := tidy.stocked.orderly.booked.once
  have holds : ∀ p ∈ r.parts, r.bench.device.Holds p.1 p.2 := by
    intro p hp
    obtain slot | osd := List.mem_append.1 hp
    · obtain ⟨i, -, rfl⟩ := List.mem_map.1 slot
      exact tidy.stocked.holds i
    · cases List.mem_singleton.1 osd
      exact tidy.osd
  have labels : (r.parts.map Prod.fst).Nodup := by
    show [UploadEngine.slotLabel 0, UploadEngine.slotLabel 1, UploadEngine.slotLabel 2, "osd"].Nodup
    decide
  have labelled : r.bench.device.Labelled (· ∈ r.parts.map Prod.fst) := by
    intro t desc live
    show desc.label ∈ [UploadEngine.slotLabel 0, UploadEngine.slotLabel 1,
      UploadEngine.slotLabel 2, "osd"]
    obtain osd | ⟨i, slot⟩ := tidy.labelled t desc live
    · simp [osd]
    · obtain rfl | rfl | rfl := UploadEngine.slot_cases i <;> simp [slot]
  have textures := Recorder.keys_perm_held holds labels labelled once.textures
  rw [heldIds_parts] at textures
  have programs := (tidy.programs.keys_perm once.programs).trans (employed_perm tidy)
  exact ⟨textures, programs, textures.nodup_iff.1 once.textures,
    programs.nodup_iff.1 once.programs⟩

/-! ## After a release -/

variable {t : Renderer Recorder}

theorem Released.toList_slots (h : Released r t) :
    t.textures.slots.toList = [none, none, none] := UploadEngine.toList_of_bare fun i => h.slots i

/-- After a release nothing is known. -/
theorem Released.known (h : Released r t) : t.knownTextures = [] ∧ t.knownPrograms = [] := by
  constructor
  · unfold knownTextures UploadEngine.textureIds
    rw [Vector.toList_map, h.toList_slots, h.layer]
    rfl
  · unfold knownPrograms
    rw [h.program, h.layer]
    rfl

/-- **After a release nothing is on the device.** -/
theorem Released.bare (h : Released r t) :
    t.bench.device.textures.size = 0 ∧ t.bench.device.programs.size = 0 := by
  obtain ⟨textures, programs⟩ := h.known
  have owns := h.tidy.owns
  constructor
  · rw [← Registry.length_keys, owns.textures.length_eq, textures]
    rfl
  · rw [← Registry.length_keys, owns.programs.length_eq, programs]
    rfl

/-- **A second release does nothing to the device.** -/
theorem Released.again (h : Released r t) : t.release.bench = t.bench := by
  have drop : UploadEngine.dropAll (δ := Recorder) t.textures.slots.toList = id := by
    rw [h.toList_slots]
    rfl
  unfold release UploadEngine.release OsdLayer.release dropProgram
  dsimp only
  rw [drop, h.layer, h.program]
  rfl

end Renderer

/-! ## Runs -/

/-- **What fails is a pass that needs the program of the overlay**, on a device
that refuses programs. -/
theorem Transition.Did.refused {x : Transition Recorder} (did : x.Did) {error : Error}
    (failed : x.answer = .failed error) : x.move = .ask .render ∧
      x.before.bench.device.refusesPrograms = true ∧ error = .shader "osd" := by
  cases did with
  | stored _ _ _ _ allowed => exact (allowed error failed).elim
  | prepared _ answered =>
    obtain ⟨yes, answered⟩ := answered
    cases answered.symm.trans failed
  | rendered hx _ refused => exact ⟨hx, refused error failed⟩
  | released _ _ answered => cases answered.symm.trans failed

/-- **No object is lost, and none is used after it was dropped.** Whatever was
asked of a renderer, and whether its device refused programs or not, the
textures of the device are those of the slots and the one of the overlay, its
programs are the one of the video and the one of the overlay, and none of them
is there twice. Every call that was carried out named objects that were there
at that moment, and no request failed but a pass that needed the program of the
overlay, on a device that refused programs. A release leaves nothing on the
device, and a second one does not call it. -/
theorem objects_owned {config : RendererConfig} {past : List (Transition Recorder)}
    {r : Renderer Recorder} (run : Run (.withConfig .initial config) past r)
    (proper : ∀ x ∈ past, x.Proper) :
    r.Owns ∧ r.bench.device.Booked ∧
      (∀ x ∈ past, ∀ error, x.answer = .failed error → x.move = .ask .render ∧
        x.before.bench.device.refusesPrograms = true ∧ error = .shader "osd") ∧
      r.release.bench.device.textures.size = 0 ∧ r.release.bench.device.programs.size = 0 ∧
      r.release.release.bench.device.calls = r.release.bench.device.calls := by
  have fresh := Renderer.core_withConfig Recorder.initial config
  obtain ⟨rest, did⟩ := run.did fresh proper
  have released := Renderer.release_releases rest.tidy
  refine ⟨rest.tidy.owns, rest.tidy.stocked.orderly.booked,
    fun x hx error failed => (did x hx).refused failed, released.bare.1, released.bare.2, ?_⟩
  rw [released.again]

/-- The textures of a pixel are there until they are released. -/
theorem objects_owned_pixel : ∃ past r,
    Run (.withConfig .initial .standard) past r ∧ (∀ x ∈ past, x.Proper) ∧
      past.map Transition.move = [.ask .prepare, .ask (.present .blackPixel true)] ∧
      0 < r.bench.device.textures.size ∧ r.Owns ∧ r.bench.device.Booked ∧
      r.release.bench.device.textures.size = 0 := by
  have fresh := Renderer.core_withConfig Recorder.initial .standard
  generalize hs : Renderer.withConfig Recorder.initial .standard = start at fresh ⊢
  obtain ⟨-, waits, yes, r, past, hpast, run, proper, prepared, -⟩ :=
    Run.first fresh VideoFrame.made_blackPixel true
  have moves : past.map Transition.move = [.ask .prepare, .ask (.present .blackPixel true)] :=
    congrArg (List.map Transition.move) hpast
  -- what is shown is on the device
  obtain ⟨slot, -, -, there, -⟩ := (prepared.current _ _ waits).shows rfl 0 _ rfl
  have pictured : 0 < r.bench.device.textures.size := by
    rw [← Registry.length_keys]
    exact List.length_pos_of_mem (Registry.mem_keys.2 (Option.isSome_iff_exists.1 there))
  subst hs
  obtain ⟨owns, booked, -, bare, -⟩ := objects_owned run proper
  exact ⟨past, r, run, proper, moves, pictured, owns, booked, bare⟩

end Projector
