import Mathlib.Data.List.Nodup
import Projector.Proofs.AllocateUpload

/-!
# Textures for another format

When the format changes, a texture that the new format wants in the same slot is
kept. Every other texture is dropped, and what is missing is made. `slotCalls`
says which calls this takes for one slot, and `Turned.exists_calls` that a device
records these calls for each slot and no others.

So a call that records nothing is one that had nothing to do, which is what its
answer says. After a call there is nothing to do for the format, whatever there
was before: a second call gives the same state.
-/

namespace Projector

/-- The texture that a call drops. -/
def DeviceRecord.dropped? : DeviceRecord → Option TextureId
  | destroyTexture t => some t
  | _ => none

/-- **The textures that calls drop**, in order. -/
def droppedTextures (calls : List DeviceRecord) : List TextureId :=
  calls.filterMap DeviceRecord.dropped?

namespace UploadEngine

open Step Recorder

/-- **Textures that suit a format** are in its slots and in no other ones. -/
theorem Suits.wants {e : UploadEngine} {format : VideoFormat} (suits : e.Suits format)
    (formed : format.Formed) :
    (∀ i < format.layout.slots.length, ∃ slot, e.slot? i = some slot ∧ Wanted format i slot) ∧
      ∀ i, format.layout.slots.length ≤ i → e.slot? i = none := by
  refine ⟨fun i hi => ?_, fun i hi => ?_⟩
  · obtain ⟨slot, hslot, size, texel⟩ := suits.slot formed (List.getElem?_eq_getElem hi)
    exact ⟨slot, hslot, _, List.getElem?_eq_getElem hi, size, texel⟩
  · cases hslot : e.slot? i with
    | none => rfl
    | some slot =>
      obtain ⟨layout, hlayout, -⟩ := suits.wanted hslot
      rw [List.getElem?_eq_none hi] at hlayout
      cases hlayout

/-! ## The calls for a slot -/

/-- **The calls that turn a slot to a format**: none if its texture is the one that
is wanted. Otherwise the texture is dropped, and the one that is wanted is made. -/
def slotCalls (old : Option TextureSlot) (wanted : Option TextureDesc) (id : TextureId) :
    List DeviceRecord :=
  if fits old wanted then []
  else (old.map fun slot => DeviceRecord.destroyTexture slot.id).toList ++
    (wanted.map fun desc => DeviceRecord.createTexture id desc).toList

/-- A slot with the wrong texture, or without one that is wanted, takes a call. -/
theorem slotCalls_eq_nil_iff {old : Option TextureSlot} {wanted : Option TextureDesc}
    {id : TextureId} : slotCalls old wanted id = [] ↔ fits old wanted = true := by
  unfold slotCalls
  cases old <;> cases wanted <;> simp [fits, and_assoc]

/-- The texture of a slot is dropped if it is the wrong one. -/
theorem droppedTextures_slotCalls (old : Option TextureSlot) (wanted : Option TextureDesc)
    (id : TextureId) : droppedTextures (slotCalls old wanted id) =
      if fits old wanted then [] else (old.map TextureSlot.id).toList := by
  unfold slotCalls droppedTextures
  split
  · rfl
  · cases old <;> cases wanted <;> rfl

section Turned

variable {format : VideoFormat} {i : Fin 3} {s t : UploadEngine × Bench Recorder} {changed : Bool}

/-- **What a device records for a slot.** -/
theorem SlotTurned.calls (h : SlotTurned format i s changed t) :
    t.2.device.calls.toList = s.2.device.calls.toList ++
      slotCalls (s.1.slot? i) (wanted? format i) s.2.device.freshTexture := by
  unfold slotCalls
  cases h with
  | kept h => rw [if_pos h, List.append_nil]
  | remade h numbers engine device =>
    rw [if_neg h, device]
    cases s.1.slot? i <;> cases wanted? format i <;>
      simp [provided, dropped, added, destroyTexture, record, freshTexture]

/-- The answer says whether the slot had the wrong texture. -/
theorem SlotTurned.answer (h : SlotTurned format i s changed t) :
    changed = !fits (s.1.slot? i) (wanted? format i) := by
  cases h with
  | kept h => rw [h, Bool.not_true]
  | remade h numbers engine device => rw [Bool.not_eq_true] at h; rw [h, Bool.not_false]

/-- A slot with the right texture is left. -/
theorem SlotTurned.eq_of_fits (h : SlotTurned format i s changed t)
    (hfits : fits (s.1.slot? i) (wanted? format i) = true) : t = s := by
  cases h with
  | kept h => rfl
  | remade h numbers engine device => exact absurd hfits h

/-- **A slot is turned from the texture that it had to the one that it has.** -/
theorem Turned.exists_turn (h : Turned format s changed t) (i : Fin 3) : ∃ c a b,
    SlotTurned format i a c b ∧ a.1.slot? i = s.1.slot? i ∧ t.1.slot? i = b.1.slot? i := by
  obtain @⟨_, _, _, s₀, s₁, s₂, h₀, h₁, h₂⟩ := h
  obtain rfl | rfl | rfl := slot_cases i
  · exact ⟨_, _, _, h₀, rfl, (h₂.others (by decide)).trans (h₁.others (by decide))⟩
  · exact ⟨_, _, _, h₁, h₀.others (by decide), h₂.others (by decide)⟩
  · exact ⟨_, _, _, h₂, (h₁.others (by decide)).trans (h₀.others (by decide)), rfl⟩

/-- A slot with the right texture keeps it. -/
theorem Turned.slot?_eq (h : Turned format s changed t)
    (hfits : fits (s.1.slot? i) (wanted? format i) = true) : t.1.slot? i = s.1.slot? i := by
  obtain ⟨c, a, b, turn, before, after⟩ := h.exists_turn i
  rw [← before] at hfits
  cases turn.eq_of_fits hfits
  exact after.trans before

/-- **What a device records**: the calls for each slot, in order. -/
theorem Turned.exists_calls (h : Turned format s changed t) : ∃ id : Fin 3 → TextureId,
    t.2.device.calls.toList = s.2.device.calls.toList ++
      (List.finRange 3).flatMap fun i : Fin 3 => slotCalls (s.1.slot? i) (wanted? format i) (id i) := by
  obtain @⟨_, _, _, s₀, s₁, s₂, h₀, h₁, h₂⟩ := h
  refine ⟨fun i => match i with
    | 0 => s.2.device.freshTexture
    | 1 => s₀.2.device.freshTexture
    | 2 => s₁.2.device.freshTexture, ?_⟩
  rw [show List.finRange 3 = [0, 1, 2] by decide]
  show s₂.2.device.calls.toList = _
  rw [h₂.calls, h₁.calls, h₀.calls, h₁.others (by decide), h₀.others (by decide),
    h₀.others (by decide)]
  simp

/-- **The answer says whether a slot had the wrong texture.** -/
theorem Turned.answer (h : Turned format s changed t) :
    changed = false ↔ s.1.Suits format := by
  obtain @⟨_, _, _, s₀, s₁, s₂, h₀, h₁, h₂⟩ := h
  rw [h₀.answer, h₁.answer, h₂.answer, h₁.others (by decide), h₀.others (by decide),
    h₀.others (by decide)]
  simp only [Bool.or_eq_false_iff, Bool.not_eq_false']
  constructor
  · rintro ⟨⟨first, second⟩, third⟩ i
    obtain rfl | rfl | rfl := slot_cases i
    · exact first
    · exact second
    · exact third
  · exact fun suits => ⟨⟨suits 0, suits 1⟩, suits 2⟩

/-- **What a slot has to give up** for a format: its texture, if it is the wrong
one. -/
def misfit? (e : UploadEngine) (format : VideoFormat) (i : Fin 3) : Option TextureId :=
  if fits (e.slot? i) (wanted? format i) then none else (e.slot? i).map TextureSlot.id

/-- **The textures that are dropped** are those that slots have to give up, and no
call is recorded exactly if every slot is as it should be. -/
theorem Turned.exists_dropped (h : Turned format s changed t) : ∃ calls,
    t.2.device.calls.toList = s.2.device.calls.toList ++ calls ∧
      droppedTextures calls = (List.finRange 3).filterMap (s.1.misfit? format) ∧
      (calls = [] ↔ s.1.Suits format) := by
  obtain ⟨id, recorded⟩ := h.exists_calls
  refine ⟨_, recorded, ?_, ?_⟩
  · unfold droppedTextures
    rw [List.filterMap_flatMap, List.filterMap_eq_flatMap_toList]
    congr 1
    funext i
    refine (droppedTextures_slotCalls _ _ _).trans ?_
    unfold misfit?
    split <;> rfl
  · rw [List.flatMap_eq_nil_iff]
    exact ⟨fun none i => slotCalls_eq_nil_iff.1 (none i (List.mem_finRange i)),
      fun suits i _ => slotCalls_eq_nil_iff.2 (suits i)⟩

theorem misfit?_eq_some {e : UploadEngine} {id : TextureId} : e.misfit? format i = some id ↔
    ¬ fits (e.slot? i) (wanted? format i) = true ∧ ∃ slot, e.slot? i = some slot ∧
      slot.id = id := by
  unfold misfit?
  split
  · next right => simp [right]
  · next wrong => rw [Option.map_eq_some_iff, and_iff_right wrong]

/-- A texture is in one slot only. -/
theorem Stocked.slot_eq {e : UploadEngine} {d : Recorder} (h : e.Stocked d) {i j : Fin 3}
    {slot slot' : TextureSlot} (hi : e.slot? i = some slot) (hj : e.slot? j = some slot')
    (same : slot.id = slot'.id) : i = j := by
  by_contra different
  exact h.id_ne (fun e => different (Fin.ext e)) hi hj same

/-- **No texture is dropped twice.** -/
theorem Stocked.nodup_misfits {e : UploadEngine} {d : Recorder} (h : e.Stocked d)
    (format : VideoFormat) : ((List.finRange 3).filterMap (e.misfit? format)).Nodup := by
  refine (List.nodup_finRange 3).filterMap fun i j id hi hj => ?_
  obtain ⟨-, slot, hslot, rfl⟩ := misfit?_eq_some.1 hi
  obtain ⟨-, slot', hslot', same⟩ := misfit?_eq_some.1 hj
  exact h.slot_eq hslot hslot' same.symm

/-- **A texture that a slot had is kept, or given up once.** -/
theorem Stocked.keeps_or_drops {e : UploadEngine} {d : Recorder} (h : e.Stocked d)
    (formed : format.Formed) {old : TextureSlot} (hold : e.slot? i = some old) :
    (Wanted format i old → fits (e.slot? i) (wanted? format i) = true ∧
        old.id ∉ (List.finRange 3).filterMap (e.misfit? format)) ∧
      (¬ Wanted format i old →
        ((List.finRange 3).filterMap (e.misfit? format)).count old.id = 1) := by
  have wants : fits (e.slot? i) (wanted? format i) = true ↔ Wanted format i old := by
    rw [hold]
    exact fits_iff_wanted formed
  constructor
  · refine fun wanted => ⟨wants.2 wanted, fun given => ?_⟩
    obtain ⟨j, -, hj⟩ := List.mem_filterMap.1 given
    obtain ⟨wrong, slot, hslot, same⟩ := misfit?_eq_some.1 hj
    cases h.slot_eq hslot hold same
    exact wrong (wants.2 wanted)
  · intro unwanted
    have given : e.misfit? format i = some old.id :=
      misfit?_eq_some.2 ⟨fun right => unwanted (wants.1 right), old, hold, rfl⟩
    rw [(h.nodup_misfits format).count,
      if_pos (List.mem_filterMap.2 ⟨i, List.mem_finRange i, given⟩)]

/-! ## A second call -/

/-- **Textures that suit a format are left.** -/
theorem Turned.eq_of_suits (h : Turned format s changed t) (suits : s.1.Suits format)
    (current : s.1.format = format) (corrected : s.1.correction = format.strideCorrection) :
    t = s := by
  obtain @⟨_, _, _, s₀, s₁, s₂, h₀, h₁, h₂⟩ := h
  cases h₀.eq_of_fits (suits 0)
  cases h₁.eq_of_fits (suits 1)
  cases h₂.eq_of_fits (suits 2)
  rw [← current] at corrected ⊢
  rw [← corrected]

/-- **After the textures for a format were made, there is nothing to do for it.** -/
theorem Turned.again (h : Turned format s changed t) (stocked : s.1.Stocked s.2.device) :
    (ensureAllocated format).outcome t = .ok (.ok false, t) := by
  have allocated := h.allocated stocked
  have corrected : t.1.correction = format.strideCorrection := by
    cases h
    rfl
  have nothing : t.1.missing format = 0 := by
    rw [missing_eq, missingAt_of_fits (allocated.suits 0), missingAt_of_fits (allocated.suits 1),
      missingAt_of_fits (allocated.suits 2)]
  refine outcome_eq_of_ends ((ensureAllocated_turns format t).mono ?_ (fun _ _ => False.elim) ?_)
  · intro changed u turned
    rw [turned.answer.2 allocated.suits,
      turned.eq_of_suits allocated.suits allocated.current corrected]
  · intro _ long
    rw [nothing] at long
    exact absurd allocated.stocked.orderly.counter (Nat.not_lt_of_le long)

end Turned

/-! ## What a call leaves -/

/-- **Textures for a format are made with the least that it takes.** After any calls,
this succeeds exactly if there are numbers left for the textures that are missing.
Then every slot of the format has a texture that the format wants, and no other slot
has one. A texture that the format wanted in its slot is kept, and every other one is
dropped exactly once; no texture but these is dropped. The answer is no exactly if
nothing was recorded, and a second call answers no and changes nothing. -/
theorem ensureAllocated_least {s : UploadEngine × Bench Recorder} (reached : Reached s)
    {format : VideoFormat} (formed : format.Formed) :
    s.2.device.lastId + s.1.missing format < UInt32.size ↔
      ∃ changed t calls, (ensureAllocated format).outcome s = .ok (.ok changed, t) ∧
        t.2.device.calls.toList = s.2.device.calls.toList ++ calls ∧
        (∀ i < format.layout.slots.length, ∃ slot, t.1.slot? i = some slot ∧
          Wanted format i slot) ∧
        (∀ i, format.layout.slots.length ≤ i → t.1.slot? i = none) ∧
        (∀ i old, s.1.slot? i = some old →
          (Wanted format i old → t.1.slot? i = some old ∧ old.id ∉ droppedTextures calls) ∧
          (¬ Wanted format i old → (droppedTextures calls).count old.id = 1)) ∧
        (∀ id ∈ droppedTextures calls, ∃ i old, s.1.slot? i = some old ∧ old.id = id) ∧
        (changed = false ↔ calls = []) ∧
        (ensureAllocated format).outcome t = .ok (.ok false, t) := by
  have stocked := reached.stocked
  have turns := ensureAllocated_turns format s
  constructor
  · intro numbers
    obtain ⟨changed, t, e, turned⟩ :=
      (turns.mono (fun _ _ => id) (fun _ _ => id) fun _ long => by omega).exists_ok
    have allocated := turned.allocated stocked
    obtain ⟨calls, recorded, dropped, nothing⟩ := turned.exists_dropped
    obtain ⟨filled, empty⟩ := allocated.suits.wants formed
    refine ⟨changed, t, calls, e, recorded, filled, empty, fun i old hold => ?_, fun id hid => ?_,
      turned.answer.trans nothing.symm, turned.again stocked⟩
    · obtain ⟨j, rfl⟩ := exists_of_slot?_eq_some hold
      obtain ⟨keeps, drops⟩ := stocked.keeps_or_drops formed hold
      rw [dropped]
      refine ⟨fun wanted => ?_, drops⟩
      obtain ⟨right, spared⟩ := keeps wanted
      exact ⟨(turned.slot?_eq right).trans hold, spared⟩
    · rw [dropped] at hid
      obtain ⟨j, -, hj⟩ := List.mem_filterMap.1 hid
      obtain ⟨-, slot, hslot, same⟩ := misfit?_eq_some.1 hj
      exact ⟨j, slot, hslot, same⟩
  · rintro ⟨changed, t, -, e, -⟩
    exact numbers_of_made reached e

/-- From three planes to two, for two pixels: the luma texture is kept, and that of
the blue chroma is dropped once, since pairs are wanted in its slot. -/
theorem ensureAllocated_least_pair :
    let planar : VideoFormat := ⟨.i420, 2, 1, [⟨2, 1⟩, ⟨1, 1⟩, ⟨1, 1⟩]⟩
    let semiPlanar : VideoFormat := ⟨.nv12, 2, 1, [⟨2, 1⟩, ⟨2, 1⟩]⟩
    semiPlanar.Formed ∧ ∃ s, Reached s ∧ s.1.Suits planar ∧
      s.2.device.lastId + s.1.missing semiPlanar < UInt32.size ∧
      ∃ changed t calls luma chroma, (ensureAllocated semiPlanar).outcome s = .ok (.ok changed, t) ∧
        t.2.device.calls.toList = s.2.device.calls.toList ++ calls ∧
        s.1.slot? 0 = some luma ∧ t.1.slot? 0 = some luma ∧ s.1.slot? 1 = some chroma ∧
        (droppedTextures calls).count chroma.id = 1 ∧
        (ensureAllocated semiPlanar).outcome t = .ok (.ok false, t) := by
  intro planar semiPlanar
  have formed : planar.Formed := ⟨.i420, 2, 1, [], rfl⟩
  have formed' : semiPlanar.Formed := ⟨.nv12, 2, 1, [], rfl⟩
  obtain ⟨changed, s, e, allocated⟩ := exists_first_textures planar
  have numbers : s.2.device.lastId + s.1.missing semiPlanar < UInt32.size := by
    have last : s.2.device.lastId = 0 + initial.missing planar := allocated.lastId
    have := missing_le initial planar
    have := missing_le s.1 semiPlanar
    have : 6 < UInt32.size := by decide
    omega
  have reached : Reached s := .ensureAllocated .initial e
  obtain ⟨luma, hluma, size, texel⟩ := allocated.suits.slot formed (i := 0) rfl
  obtain ⟨chroma, hchroma, -, texel'⟩ := allocated.suits.slot formed (i := 1) rfl
  have unwanted : ¬ Wanted semiPlanar 1 chroma := by
    rintro ⟨layout, hlayout, -, pairs⟩
    cases hlayout
    cases texel'.symm.trans pairs
  obtain ⟨changed, t, calls, e', recorded, -, -, old, -, -, again⟩ :=
    (ensureAllocated_least reached formed').1 numbers
  exact ⟨formed', s, reached, allocated.suits, numbers, changed, t, calls, luma, chroma, e',
    recorded, hluma, ((old 0 luma hluma).1 ⟨_, rfl, size, texel⟩).1, hchroma,
    (old 1 chroma hchroma).2 unwanted, again⟩

/-- **One number is left, and two textures are missing.** -/
theorem pair_without_numbers :
    let pair : VideoFormat := ⟨.nv12, 2, 1, [⟨2, 1⟩, ⟨2, 1⟩]⟩
    pair.Formed ∧ ∃ s, Reached s ∧ (∀ i, s.1.slot? i = none) ∧
      s.2.device.lastId + 2 = UInt32.size ∧
      ∃ fault, (ensureAllocated pair).outcome s = .error fault := by
  intro pair
  obtain ⟨s, reached, empty, last⟩ := exists_reached (n := UInt32.size - 2) (by decide)
  have full : s.2.device.lastId + 2 = UInt32.size := by
    rw [last]
    rfl
  have two : s.1.missing pair = 2 := (missing_of_empty empty pair).trans (by decide)
  exact ⟨⟨.nv12, 2, 1, [], rfl⟩, s, reached, empty, full,
    breaks_without_numbers reached (two ▸ Nat.le_of_eq full.symm)⟩

end UploadEngine

end Projector
