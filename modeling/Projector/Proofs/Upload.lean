import Projector.Proofs.Frame
import Projector.Proofs.Recorder
import Projector.Upload

/-!
# The textures of the video on a recording device

An upload can go wrong in many ways: a texture that is not there, a row
that is wider than the stride, a last row that is missing. None of them
happens after the textures were made for the frame's format, whatever was
done before. What carries this is `Stocked`: the textures that the engine
knows of are the ones on the device with the labels of its slots. Every
call keeps it, also one that is refused.

The textures that a format wants have the size of the format's slots, and
these come from the planes' strides. So the bytes of a plane fill the
texture of a slot exactly, up to a rest of the row that is narrower than a
texel.
-/

namespace Projector

namespace UploadEngine

open Step Recorder

/-! ## What the engine holds -/

theorem toList_three {α : Type} (v : Vector α 3) : v.toList = [v[0], v[1], v[2]] := by
  obtain ⟨⟨l⟩, hl⟩ := v
  match l, hl with
  | [_, _, _], _ => rfl

/-- **The texture of a slot, with what it was made from.** -/
def held (e : UploadEngine) (i : Fin 3) : Option (TextureId × TextureDesc) :=
  (e.slot? i).map fun s => (s.id, ⟨slotLabel i, s.width, s.height, s.format⟩)

/-- **The engine knows the textures with its labels**, and the books of the
device are in order. -/
structure Stocked (e : UploadEngine) (d : Recorder) : Prop where
  /-- The books are in order. -/
  orderly : d.Orderly
  /-- The textures of the slots are there. -/
  holds : ∀ i, d.Holds (slotLabel i) (e.held i)

theorem slot_cases : ∀ i : Fin 3, i = 0 ∨ i = 1 ∨ i = 2 := by decide

theorem slot?_initial (i : Nat) : initial.slot? i = none := by
  unfold slot? initial
  rw [Vector.getElem?_replicate]
  split <;> rfl

theorem stocked_initial : initial.Stocked .initial := by
  refine ⟨orderly_initial, fun i => ?_⟩
  unfold held
  rw [slot?_initial]
  exact holds_initial _

/-- The texture of a slot is there, under the slot's label. -/
theorem Stocked.holds_slot {e : UploadEngine} {d : Recorder} (h : e.Stocked d) {i : Fin 3}
    {s : TextureSlot} (hs : e.slot? i = some s) :
    d.Holds (slotLabel i) (some (s.id, ⟨slotLabel i, s.width, s.height, s.format⟩)) := by
  have hi := h.holds i
  unfold held at hi
  rwa [hs] at hi

/-- An empty slot has none. -/
theorem Stocked.holds_empty {e : UploadEngine} {d : Recorder} (h : e.Stocked d) {i : Fin 3}
    (hs : e.slot? i = none) : d.Holds (slotLabel i) none := by
  have hi := h.holds i
  unfold held at hi
  rwa [hs] at hi

/-- Work on other labels leaves what the engine knows. -/
theorem Stocked.spares {e : UploadEngine} {d d' : Recorder} {touched : String → Prop}
    (h : e.Stocked d) (spares : d.Spares d' touched) (apart : ∀ i, ¬ touched (slotLabel i))
    (orderly : d'.Orderly) : e.Stocked d' :=
  ⟨orderly, fun i => spares.holds (apart i) (h.holds i)⟩

/-- So does work on programs. -/
theorem Stocked.samePictures {e : UploadEngine} {d d' : Recorder} (h : e.Stocked d)
    (same : d.SamePictures d') (orderly : d'.Orderly) : e.Stocked d' :=
  ⟨orderly, fun i => same.holds (h.holds i)⟩

/-- How many textures are to be made in a slot for a format: one, or none. -/
def missingAt (e : UploadEngine) (format : VideoFormat) (i : Fin 3) : Nat :=
  if (wanted? format i).isSome && !fits (e.slot? i) (wanted? format i) then 1 else 0

/-- **How many textures are to be made for a format.** -/
def missing (e : UploadEngine) (format : VideoFormat) : Nat :=
  (List.finRange 3).foldl (fun n i => n + e.missingAt format i) 0

theorem missing_eq (e : UploadEngine) (format : VideoFormat) :
    e.missing format = e.missingAt format 0 + e.missingAt format 1 + e.missingAt format 2 := by
  have slots : List.finRange 3 = [0, 1, 2] := by decide
  unfold missing
  rw [slots]
  simp only [List.foldl_cons, List.foldl_nil, Nat.zero_add]

theorem missing_le (e : UploadEngine) (format : VideoFormat) : e.missing format ≤ 3 := by
  have one (i : Fin 3) : e.missingAt format i ≤ 1 := by
    unfold missingAt
    split <;> decide
  have h₀ := one 0
  have h₁ := one 1
  have h₂ := one 2
  rw [missing_eq]
  omega

theorem slotLabel_inj : ∀ {i j : Fin 3}, slotLabel i = slotLabel j → i = j := by decide

theorem slotLabel_ne_osd : ∀ i, slotLabel i ≠ "osd" := by decide

/-- What is in a slot is in one of three. -/
theorem exists_of_slot?_eq_some {e : UploadEngine} {i : Nat} {s : TextureSlot}
    (h : e.slot? i = some s) : ∃ j : Fin 3, i = j :=
  ⟨⟨i, (Vector.getElem?_eq_some_iff.1 (Option.join_eq_some_iff.1 h)).1⟩, rfl⟩

theorem slot?_eq_getElem (e : UploadEngine) {i : Nat} (h : i < 3) : e.slot? i = e.slots[i] := by
  unfold slot?
  rw [Vector.getElem?_eq_getElem h]
  rfl

/-- A wanted texture has the label of its slot, and texels. -/
theorem wanted?_eq_some {format : VideoFormat} {i : Fin 3} {desc : TextureDesc}
    (h : wanted? format i = some desc) :
    desc.label = slotLabel i ∧ 0 < desc.width ∧ 0 < desc.height ∧
      format.slotSize? i = some (desc.width, desc.height) ∧
      ∃ slot, format.layout.slots[i.val]? = some slot ∧ desc.format = slot.texel := by
  unfold wanted? at h
  obtain ⟨slot, hslot, h⟩ := Option.bind_eq_some_iff.1 h
  obtain ⟨⟨width, height⟩, hsize, h⟩ := Option.bind_eq_some_iff.1 h
  dsimp only at h
  split at h
  · next hpos =>
    cases h
    exact ⟨rfl, hpos.1, hpos.2, hsize, slot, hslot, rfl⟩
  · cases h

/-! ## Making the textures for a format -/

theorem slot?_setSlot (e : UploadEngine) (i j : Fin 3) (x : Option TextureSlot) :
    (e.setSlot i x).slot? j = if i = j then x else e.slot? j := by
  rw [slot?_eq_getElem _ j.isLt, slot?_eq_getElem _ j.isLt]
  unfold setSlot
  simp [Vector.getElem_set, Fin.ext_iff]

theorem held_setSlot (e : UploadEngine) (i j : Fin 3) (x : Option TextureSlot) :
    (e.setSlot i x).held j =
      if i = j then x.map fun s => (s.id, ⟨slotLabel j, s.width, s.height, s.format⟩)
      else e.held j := by
  unfold held
  rw [slot?_setSlot]
  split <;> rfl

theorem setSlot_self {e : UploadEngine} {i : Fin 3} {x : Option TextureSlot}
    (h : e.slot? i = x) : e.setSlot i x = e := by
  rw [← h, slot?_eq_getElem _ i.isLt]
  unfold setSlot
  simp

theorem setSlot_setSlot (e : UploadEngine) (i : Fin 3) (x y : Option TextureSlot) :
    (e.setSlot i x).setSlot i y = e.setSlot i y := by
  unfold setSlot
  simp

theorem missingAt_of_fits {e : UploadEngine} {format : VideoFormat} {i : Fin 3}
    (h : fits (e.slot? i) (wanted? format i) = true) : e.missingAt format i = 0 := by
  unfold missingAt
  rw [h, Bool.not_true, Bool.and_false]
  rfl

theorem missingAt_of_not_fits {e : UploadEngine} {format : VideoFormat} {i : Fin 3}
    (h : ¬ fits (e.slot? i) (wanted? format i) = true) :
    e.missingAt format i = if (wanted? format i).isSome then 1 else 0 := by
  rw [Bool.not_eq_true] at h
  unfold missingAt
  rw [h, Bool.not_false, Bool.and_true]

theorem missingAt_congr {e e' : UploadEngine} (format : VideoFormat) {i : Fin 3}
    (h : e'.slot? i = e.slot? i) : e'.missingAt format i = e.missingAt format i := by
  unfold missingAt
  rw [h]

/-- **Engines without textures miss the same.** -/
theorem missing_of_empty {e : UploadEngine} (empty : ∀ i, e.slot? i = none)
    (format : VideoFormat) : e.missing format = initial.missing format := by
  have same (i : Fin 3) : e.missingAt format i = initial.missingAt format i :=
    missingAt_congr format ((empty i).trans (slot?_initial i).symm)
  rw [missing_eq, missing_eq, same, same, same]

/-- The device without the texture of a slot. -/
def dropped : Option TextureSlot → Recorder → Recorder
  | none, d => d
  | some old, d => destroyTexture old.id d

theorem lastId_dropped (x : Option TextureSlot) (d : Recorder) :
    (dropped x d).lastId = d.lastId := by cases x <;> rfl

/-- The device with the texture that a slot is to have. -/
def provided : Option TextureDesc → Recorder → Recorder
  | none, d => d
  | some desc, d => d.added desc

theorem lastId_provided (wanted : Option TextureDesc) (d : Recorder) :
    (provided wanted d).lastId = d.lastId + if wanted.isSome then 1 else 0 := by
  cases wanted <;> rfl

/-- The texture that a slot is to have, as the device makes it. -/
def fresh (wanted : Option TextureDesc) (d : Recorder) : Option TextureSlot :=
  wanted.map fun desc => ⟨d.freshTexture, desc.width, desc.height, desc.format⟩

theorem fits_fresh (wanted : Option TextureDesc) (d : Recorder) :
    fits (fresh wanted d) wanted = true := by
  cases wanted with
  | none => rfl
  | some desc => simp [fresh, fits]

/-- **The texture of a slot is dropped**, if there is one. -/
theorem dropSlot_ends (i : Fin 3) (s : UploadEngine × Bench Recorder) :
    (dropSlot i).Ends s
      (fun _ t => t = (s.1.setSlot i none, s.2.onDevice (dropped (s.1.slot? i))))
      (fun _ _ => False) fun _ => False := by
  obtain ⟨e, b⟩ := s
  unfold dropSlot
  simp only [ends_bind, ends_get]
  split
  · next old hold =>
    rw [hold]
    rfl
  · next hnone =>
    have hempty : e.slot? i = none := Option.eq_none_iff_forall_ne_some.2 hnone
    rw [hempty, setSlot_self hempty]
    rfl

/-- **The texture that an empty slot is to have is made**, if it is to have one. -/
theorem makeSlot_ends {i : Fin 3} {s : UploadEngine × Bench Recorder} {wanted : Option TextureDesc}
    (empty : s.1.slot? i = none)
    (texels : ∀ desc, wanted = some desc → 0 < desc.width ∧ 0 < desc.height) :
    (makeSlot i wanted).Ends s
      (fun _ t => (∀ desc, wanted = some desc → s.2.device.lastId + 1 < UInt32.size) ∧
        t.1 = s.1.setSlot i (fresh wanted s.2.device) ∧ t.2.device = provided wanted s.2.device)
      (fun _ _ => False)
      fun _ => UInt32.size ≤ s.2.device.lastId + if wanted.isSome then 1 else 0 := by
  obtain ⟨e, b⟩ := s
  unfold makeSlot
  split
  · next desc =>
    obtain ⟨hw, hh⟩ := texels desc rfl
    simp only [ends_bind, Bench.ends_call, Bench.ends_note, Bench.ends_change]
    refine (createTexture_ends b.device hw hh).mono ?_ (fun _ _ => id) fun _ => id
    rintro t d ⟨hn, rfl, rfl⟩
    exact ⟨fun _ _ => hn, rfl, rfl⟩
  · next hnone =>
    cases Option.eq_none_iff_forall_ne_some.2 hnone
    refine ⟨?_, (setSlot_self empty).symm, rfl⟩
    rintro desc ⟨⟩

/-- **What can become of one slot**: it is left if its texture is the one that a
format wants. Otherwise the texture is dropped, and the one that is wanted is
made. -/
inductive SlotTurned (format : VideoFormat) (i : Fin 3) (s : UploadEngine × Bench Recorder) :
    Bool → UploadEngine × Bench Recorder → Prop
  /-- The slot is left. -/
  | kept (h : fits (s.1.slot? i) (wanted? format i) = true) : SlotTurned format i s false s
  /-- The slot is emptied and filled. -/
  | remade {t} (h : ¬ fits (s.1.slot? i) (wanted? format i) = true)
      (numbers : ∀ desc, wanted? format i = some desc → s.2.device.lastId + 1 < UInt32.size)
      (engine : t.1 = s.1.setSlot i
        (fresh (wanted? format i) (dropped (s.1.slot? i) s.2.device)))
      (device : t.2.device = provided (wanted? format i) (dropped (s.1.slot? i) s.2.device)) :
      SlotTurned format i s true t

/-- **One slot is turned to a format** unless a texture is missing and the
numbers are used up. -/
theorem ensureSlot_ends (format : VideoFormat) (i : Fin 3) (s : UploadEngine × Bench Recorder) :
    (ensureSlot format i).Ends s (fun changed t => SlotTurned format i s changed t)
      (fun _ _ => False) fun _ => UInt32.size ≤ s.2.device.lastId + s.1.missingAt format i := by
  unfold ensureSlot
  simp only [ends_bind, ends_get]
  split
  · next hfits => exact .kept hfits
  next hfits =>
  rw [missingAt_of_not_fits hfits]
  simp only [ends_bind]
  refine (dropSlot_ends i s).mono ?_ (fun _ _ => False.elim) fun _ => False.elim
  rintro - t rfl
  have hempty : (s.1.setSlot i none).slot? i = none := by rw [slot?_setSlot, if_pos rfl]
  have hlast := lastId_dropped (s.1.slot? i) s.2.device
  refine (makeSlot_ends hempty fun desc hd => ?_).mono ?_ (fun _ _ => False.elim) ?_
  · obtain ⟨-, hw, hh, -⟩ := wanted?_eq_some hd
    exact ⟨hw, hh⟩
  · rintro - t ⟨numbers, engine, device⟩
    refine .remade hfits (fun desc hd => ?_) (engine.trans (setSlot_setSlot ..)) device
    have := numbers desc hd
    rwa [Bench.device_onDevice, hlast] at this
  · intro _ hf
    rwa [Bench.device_onDevice, hlast] at hf

namespace SlotTurned

variable {format : VideoFormat} {i : Fin 3} {s t : UploadEngine × Bench Recorder} {changed : Bool}

/-- The slot holds what is wanted. -/
theorem fitted (h : SlotTurned format i s changed t) :
    fits (t.1.slot? i) (wanted? format i) = true := by
  cases h with
  | kept h => exact h
  | remade h numbers engine device =>
    rw [engine, slot?_setSlot, if_pos rfl]
    exact fits_fresh _ _

/-- The other slots are as they were. -/
theorem others (h : SlotTurned format i s changed t) {j : Fin 3} (hj : j ≠ i) :
    t.1.slot? j = s.1.slot? j := by
  cases h with
  | kept h => rfl
  | remade h numbers engine device => rw [engine, slot?_setSlot, if_neg (Ne.symm hj)]

/-- So is the count of frames. -/
theorem drawnFrames (h : SlotTurned format i s changed t) :
    t.1.drawnFrames = s.1.drawnFrames := by
  cases h with
  | kept h => rfl
  | remade h numbers engine device =>
    rw [engine]
    rfl

/-- Numbers are handed out for what was missing. -/
theorem lastId (h : SlotTurned format i s changed t) :
    t.2.device.lastId = s.2.device.lastId + s.1.missingAt format i := by
  cases h with
  | kept h => rw [missingAt_of_fits h, Nat.add_zero]
  | remade h numbers engine device =>
    rw [device, lastId_provided, lastId_dropped, missingAt_of_not_fits h]

end SlotTurned

/-- **What making the textures for a format is**: the slots are turned to it, one
after the other. -/
inductive Turned (format : VideoFormat) (s : UploadEngine × Bench Recorder) :
    Bool → UploadEngine × Bench Recorder → Prop
  /-- All three slots are turned. -/
  | slots {first second third s₀ s₁ s₂} (h₀ : SlotTurned format 0 s first s₀)
      (h₁ : SlotTurned format 1 s₀ second s₁) (h₂ : SlotTurned format 2 s₁ third s₂) :
      Turned format s (first || second || third)
        ({ s₂.1 with format, correction := format.strideCorrection }, s₂.2)

/-- **The textures for a format are made** unless the numbers are used up. -/
theorem ensureAllocated_turns (format : VideoFormat) (s : UploadEngine × Bench Recorder) :
    (ensureAllocated format).Ends s (fun changed t => Turned format s changed t)
      (fun _ _ => False) fun _ => UInt32.size ≤ s.2.device.lastId + s.1.missing format := by
  rw [missing_eq]
  unfold ensureAllocated
  simp only [ends_bind, Bench.ends_change, ends_pure]
  refine (ensureSlot_ends format 0 s).mono ?_ (fun _ _ => False.elim) fun _ hf => by omega
  intro first s₀ h₀
  have second := missingAt_congr format (h₀.others (j := 1) (by decide))
  have third := missingAt_congr format (h₀.others (j := 2) (by decide))
  have hlast₀ := h₀.lastId
  refine (ensureSlot_ends format 1 s₀).mono ?_ (fun _ _ => False.elim) fun _ hf => by omega
  intro _ s₁ h₁
  have third' := missingAt_congr format (h₁.others (j := 2) (by decide))
  have hlast₁ := h₁.lastId
  refine (ensureSlot_ends format 2 s₁).mono ?_ (fun _ _ => False.elim) fun _ hf => by omega
  exact fun _ s₂ h₂ => .slots h₀ h₁ h₂

/-- **An emptied slot is known to be empty.** -/
theorem Stocked.drop {e : UploadEngine} {d : Recorder} (h : e.Stocked d) (i : Fin 3) :
    (e.setSlot i none).Stocked (dropped (e.slot? i) d) ∧
      d.Spares (dropped (e.slot? i) d) (· = slotLabel i) := by
  cases hold : e.slot? i with
  | none =>
    rw [setSlot_self hold]
    exact ⟨h, .refl _ _⟩
  | some old =>
    have hi := h.holds_slot hold
    have hspares := destroyTexture_spares hi.live.1
    refine ⟨⟨h.orderly.destroyTexture hi.live.1, fun j => ?_⟩, hspares⟩
    rw [held_setSlot]
    split
    · next hij =>
      subst hij
      exact hi.destroyTexture
    · next hij => exact hspares.holds (fun e => hij (slotLabel_inj e).symm) (h.holds j)

/-- **A texture made for an empty slot is known.** -/
theorem Stocked.provide {e : UploadEngine} {d : Recorder} (h : e.Stocked d) (format : VideoFormat)
    {i : Fin 3} (empty : e.slot? i = none)
    (numbers : ∀ desc, wanted? format i = some desc → d.lastId + 1 < UInt32.size) :
    (e.setSlot i (fresh (wanted? format i) d)).Stocked (provided (wanted? format i) d) ∧
      d.Spares (provided (wanted? format i) d) (· = slotLabel i) := by
  cases hw : wanted? format i with
  | none =>
    rw [show fresh none d = none from rfl, setSlot_self empty]
    exact ⟨h, .refl _ _⟩
  | some desc =>
    obtain ⟨hl, hwidth, hheight, -⟩ := wanted?_eq_some hw
    -- no texture had the label, since the slot was empty
    have hi := h.holds_empty empty
    have hspares := added_spares h.orderly desc
    rw [hl] at hspares
    refine ⟨⟨h.orderly.added (numbers desc hw) hwidth hheight, fun j => ?_⟩, hspares⟩
    show (d.added desc).Holds _ _
    rw [held_setSlot]
    split
    · next hij =>
      subst hij
      rw [← hl] at hi
      have added := hi.added
      rw [hl] at added
      obtain ⟨label, width, height, texel⟩ := desc
      cases hl
      exact added
    · next hij => exact hspares.holds (fun e => hij (slotLabel_inj e).symm) (h.holds j)

/-- **A slot that is turned is known**, and what has other labels is left alone. -/
theorem SlotTurned.stocked {format : VideoFormat} {i : Fin 3} {s t : UploadEngine × Bench Recorder}
    {changed : Bool} (turned : SlotTurned format i s changed t) (h : s.1.Stocked s.2.device) :
    t.1.Stocked t.2.device ∧ s.2.device.Spares t.2.device (· = slotLabel i) := by
  cases turned with
  | kept _ => exact ⟨h, .refl _ _⟩
  | remade _ numbers engine device =>
    obtain ⟨hdrop, hspares⟩ := h.drop i
    have hempty : (s.1.setSlot i none).slot? i = none := by rw [slot?_setSlot, if_pos rfl]
    obtain ⟨hmake, hspares'⟩ := hdrop.provide format hempty fun desc hd => by
      rw [lastId_dropped]
      exact numbers desc hd
    rw [setSlot_setSlot] at hmake
    rw [engine, device]
    exact ⟨hmake, hspares.trans hspares'⟩

/-- Whether a label is one of a slot. -/
def IsSlotLabel (label : String) : Prop := ∃ i, label = slotLabel i

theorem isSlotLabel_of_eq (i : Fin 3) (label : String) (h : label = slotLabel i) :
    IsSlotLabel label := ⟨i, h⟩

/-- **Every slot holds what a format wants.** -/
def Suits (e : UploadEngine) (format : VideoFormat) : Prop :=
  ∀ i : Fin 3, fits (e.slot? i) (wanted? format i) = true

/-- **What making the textures for a format does.** -/
structure Allocated (format : VideoFormat) (s t : UploadEngine × Bench Recorder) : Prop where
  /-- The engine knows its textures. -/
  stocked : t.1.Stocked t.2.device
  /-- Every slot holds what is wanted. -/
  suits : t.1.Suits format
  /-- The format is the one that was asked for. -/
  current : t.1.format = format
  /-- The count of frames is as it was. -/
  drawnFrames : t.1.drawnFrames = s.1.drawnFrames
  /-- Other textures are left alone. -/
  spares : s.2.device.Spares t.2.device IsSlotLabel
  /-- Numbers are handed out for what was missing. -/
  lastId : t.2.device.lastId = s.2.device.lastId + s.1.missing format

theorem Turned.allocated {format : VideoFormat} {s t : UploadEngine × Bench Recorder}
    {changed : Bool} (turned : Turned format s changed t) (h : s.1.Stocked s.2.device) :
    Allocated format s t := by
  obtain @⟨_, _, _, s₀, s₁, s₂, h₀, h₁, h₂⟩ := turned
  obtain ⟨stocked₀, spares₀⟩ := h₀.stocked h
  obtain ⟨stocked₁, spares₁⟩ := h₁.stocked stocked₀
  obtain ⟨stocked₂, spares₂⟩ := h₂.stocked stocked₁
  refine ⟨⟨stocked₂.orderly, stocked₂.holds⟩, fun i => ?_, rfl, ?_, ?_, ?_⟩
  · -- a slot is as it was left when its turn had come
    show fits (s₂.1.slot? i) _ = true
    obtain rfl | rfl | rfl := slot_cases i
    · rw [h₂.others (by decide), h₁.others (by decide)]
      exact h₀.fitted
    · rw [h₂.others (by decide)]
      exact h₁.fitted
    · exact h₂.fitted
  · exact h₂.drawnFrames.trans (h₁.drawnFrames.trans h₀.drawnFrames)
  · exact ((spares₀.mono (isSlotLabel_of_eq 0)).trans
      (spares₁.mono (isSlotLabel_of_eq 1))).trans (spares₂.mono (isSlotLabel_of_eq 2))
  · show s₂.2.device.lastId = s.2.device.lastId + s.1.missing format
    have second := missingAt_congr format (h₀.others (j := 1) (by decide))
    have third := missingAt_congr format (h₀.others (j := 2) (by decide))
    have third' := missingAt_congr format (h₁.others (j := 2) (by decide))
    have hlast₀ := h₀.lastId
    have hlast₁ := h₁.lastId
    have hlast₂ := h₂.lastId
    rw [missing_eq]
    omega

/-- **The textures that were made are known.** -/
theorem ensureAllocated_ends (format : VideoFormat) {s : UploadEngine × Bench Recorder}
    (h : s.1.Stocked s.2.device) :
    (ensureAllocated format).Ends s (fun _ t => Allocated format s t) (fun _ _ => False)
      fun _ => UInt32.size ≤ s.2.device.lastId + s.1.missing format :=
  (ensureAllocated_turns format s).mono (fun _ _ turned => turned.allocated h) (fun _ _ => id)
    fun _ => id

/-- **The first textures can be made**, whatever the format. -/
theorem exists_first_textures (format : VideoFormat) :
    ∃ changed s, (ensureAllocated format).outcome (.initial, .of .initial) =
        .ok (.ok changed, s) ∧ Allocated format (.initial, .of .initial) s := by
  have few := missing_le initial format
  have allocation := ensureAllocated_ends format (s := (.initial, .of .initial)) stocked_initial
  refine (allocation.mono (fun _ _ => id) (fun _ _ => id) fun _ long => ?_).exists_ok
  have many : UInt32.size ≤ 0 + initial.missing format := long
  have : 3 < UInt32.size := by decide
  omega

/-! ## Whether a frame fits -/

section Suits

variable {e : UploadEngine} {format : VideoFormat}

/-- A format that can be made wants a texture in each of its slots, of the
size of the slot. -/
theorem wanted?_of_slot (h : format.Formed) {i : Fin 3} {slot : SlotLayout}
    (hi : format.layout.slots[i.val]? = some slot) : ∃ width height,
      format.slotSize? i = some (width, height) ∧
        wanted? format i = some ⟨slotLabel i, width, height, slot.texel⟩ := by
  obtain ⟨hsize, -⟩ := h.slot hi
  refine ⟨_, _, hsize, ?_⟩
  unfold wanted?
  rw [hi, hsize]
  exact if_pos (h.slotSize?_pos hsize)

/-- And none in any other slot. -/
theorem wanted?_of_none {i : Fin 3} (hi : format.layout.slots[i.val]? = none) :
    wanted? format i = none := by
  unfold wanted?
  rw [hi]
  rfl

/-- **The texture of a slot has the slot's size and texels.** -/
theorem Suits.slot (hs : e.Suits format) (h : format.Formed) {i : Nat} {slot : SlotLayout}
    (hi : format.layout.slots[i]? = some slot) : ∃ s, e.slot? i = some s ∧
      format.slotSize? i = some (s.width, s.height) ∧ s.format = slot.texel := by
  have hlt : i < 3 :=
    Nat.lt_of_lt_of_le (List.getElem?_eq_some_iff.1 hi).1 (PixelType.layout_slots_length_le _)
  obtain ⟨width, height, hsize, hwanted⟩ := wanted?_of_slot (i := ⟨i, hlt⟩) h hi
  have hfits := hs ⟨i, hlt⟩
  rw [hwanted] at hfits
  cases he : e.slot? i with
  | none =>
    rw [he] at hfits
    cases hfits
  | some s =>
    rw [he] at hfits
    simp only [fits, Bool.and_eq_true, beq_iff_eq] at hfits
    obtain ⟨⟨rfl, rfl⟩, hf⟩ := hfits
    exact ⟨s, rfl, hsize, hf⟩

/-- **Whether a texture is one that a format wants in a slot**: it has the slot's size
and texels. -/
def Wanted (format : VideoFormat) (i : Nat) (slot : TextureSlot) : Prop :=
  ∃ layout, format.layout.slots[i]? = some layout ∧
    format.slotSize? i = some (slot.width, slot.height) ∧ slot.format = layout.texel

theorem wanted_of_fits {i : Fin 3} {slot : TextureSlot}
    (hfits : fits (some slot) (wanted? format i) = true) : Wanted format i slot := by
  cases hw : wanted? format i with
  | none =>
    rw [hw] at hfits
    cases hfits
  | some desc =>
    obtain ⟨-, -, -, hsize, layout, hlayout, texel⟩ := wanted?_eq_some hw
    rw [hw] at hfits
    simp only [fits, Bool.and_eq_true, beq_iff_eq] at hfits
    obtain ⟨⟨hwidth, hheight⟩, hformat⟩ := hfits
    rw [← hwidth, ← hheight] at hsize
    exact ⟨layout, hlayout, hsize, hformat.trans texel⟩

/-- **What fits is what is wanted**, for a format that can be made. -/
theorem fits_iff_wanted (h : format.Formed) {i : Fin 3} {slot : TextureSlot} :
    fits (some slot) (wanted? format i) = true ↔ Wanted format i slot := by
  refine ⟨wanted_of_fits, ?_⟩
  rintro ⟨layout, hlayout, hsize, texel⟩
  obtain ⟨width, height, hsize', hwanted⟩ := wanted?_of_slot h hlayout
  cases hsize.symm.trans hsize'
  rw [hwanted]
  simp [fits, texel]

/-- A texture that suits a format is wanted in its slot. -/
theorem Suits.wanted (suits : e.Suits format) {i : Nat} {slot : TextureSlot}
    (hs : e.slot? i = some slot) : Wanted format i slot := by
  obtain ⟨j, rfl⟩ := exists_of_slot?_eq_some hs
  have hfits := suits j
  rw [hs] at hfits
  exact wanted_of_fits hfits

/-- **Whether a slot has a texture of the size that a format wants.** -/
def Sized (e : UploadEngine) (format : VideoFormat) (i : Nat) : Prop :=
  ∃ s, e.slot? i = some s ∧ format.slotSize? i = some (s.width, s.height)

/-- The size of the texture in a slot, and no size without a texture. -/
def allocatedSize (e : UploadEngine) (i : Nat) : Nat × Nat :=
  ((e.slot? i).map fun s => (s.width, s.height)).getD (0, 0)

/-- **The look at one slot** is about its size. -/
theorem sized_iff {i : Nat} {size : Nat × Nat} (hsize : format.slotSize? i = some size) :
    ((e.slot? i).isSome && e.allocatedSize i == size) = true ↔ e.Sized format i := by
  unfold Sized allocatedSize
  rw [hsize]
  cases e.slot? i with
  | none => simp
  | some s =>
    show ((s.width, s.height) == size) = true ↔ _
    rw [beq_iff_eq]
    constructor
    · rintro rfl
      exact ⟨s, rfl, rfl⟩
    · rintro ⟨_, h, hs⟩
      cases h
      exact (Option.some.inj hs).symm

/-- **What the upload looks at**: every slot has a texture of its size. -/
theorem mismatch?_eq_none_iff (h : format.Formed) : e.mismatch? format = none ↔
    ∀ (i : Nat) slot, format.layout.slots[i]? = some slot → e.Sized format i := by
  unfold mismatch?
  rw [List.findSome?_eq_none_iff]
  constructor
  · intro hall i slot hi
    have hlt := (List.getElem?_eq_some_iff.1 hi).1
    have hnone := hall i (List.mem_range.2 hlt)
    obtain ⟨hsize, -⟩ := h.slot hi
    rw [hsize] at hnone
    dsimp only at hnone
    split at hnone
    · next sized => exact (sized_iff hsize).1 sized
    · cases hnone
  · intro hall i hi
    have hi := List.getElem?_eq_getElem (List.mem_range.1 hi)
    obtain ⟨hsize, -⟩ := h.slot hi
    rw [hsize]
    exact if_pos ((sized_iff hsize).2 (hall i _ hi))

/-- **What the look finds** is the first slot whose texture has not the size of
the slot. -/
theorem mismatch?_eq_some (h : format.Formed) {i : Nat} {expected got : Nat × Nat}
    (found : e.mismatch? format = some (i, expected, got)) :
    i < format.layout.slots.length ∧ ¬ e.Sized format i ∧ (∀ j < i, e.Sized format j) ∧
      expected = e.allocatedSize i ∧ format.slotSize? i = some got := by
  have size {j : Nat} (hj : j < format.layout.slots.length) :=
    (h.slot (List.getElem?_eq_getElem hj)).1
  unfold mismatch? at found
  obtain ⟨before, k, after, range, hk, earlier⟩ := List.findSome?_eq_some_iff.1 found
  rw [List.range_eq_range', List.range'_eq_append_iff] at range
  obtain ⟨n, -, rfl, range⟩ := range
  obtain ⟨rfl, hn, -⟩ := List.range'_eq_cons_iff.1 range.symm
  rw [Nat.zero_add, Nat.mul_one] at hk
  have hlt : n < format.layout.slots.length := by omega
  rw [size hlt] at hk
  dsimp only at hk
  split at hk
  · cases hk
  next unsized =>
  cases hk
  refine ⟨hlt, fun sized => unsized ((sized_iff (size hlt)).2 sized), fun j hj => ?_, rfl,
    size hlt⟩
  have nothing := earlier j (List.mem_range'_1.2 (by omega))
  rw [size (Nat.lt_trans hj hlt)] at nothing
  dsimp only at nothing
  split at nothing
  · next sized => exact (sized_iff (size (Nat.lt_trans hj hlt))).1 sized
  · cases nothing

theorem Suits.mismatch? (hs : e.Suits format) (h : format.Formed) :
    e.mismatch? format = none := by
  rw [mismatch?_eq_none_iff h]
  intro i slot hi
  obtain ⟨s, hslot, hsize, -⟩ := hs.slot h hi
  exact ⟨s, hslot, hsize⟩

/-- Formats without slots want nothing, so what suits one suits the other. -/
theorem Suits.of_nil (hs : e.Suits format) {other : VideoFormat} (h : format.layout.slots = [])
    (ho : other.layout.slots = []) : e.Suits other := by
  intro i
  have fits := hs i
  rw [wanted?_of_none (by rw [h]; rfl)] at fits
  rw [wanted?_of_none (by rw [ho]; rfl)]
  exact fits

/-- **A format of the same type that passes the look suits as well**: texels
depend on the type only, and so does which slots there are. -/
theorem Suits.of_mismatch? (hs : e.Suits format) (h : format.Formed) {other : VideoFormat}
    (ho : other.Formed) (hp : other.pixelType = format.pixelType)
    (hm : e.mismatch? other = none) : e.Suits other := by
  have hlayout : other.layout = format.layout := congrArg PixelType.layout hp
  intro i
  cases hi : other.layout.slots[i.val]? with
  | none =>
    -- a slot that neither format has is empty
    have hfits := hs i
    rw [wanted?_of_none (hlayout ▸ hi)] at hfits
    rw [wanted?_of_none hi]
    exact hfits
  | some slot =>
    obtain ⟨s, hslot, hsize⟩ := (mismatch?_eq_none_iff ho).1 hm i slot hi
    obtain ⟨s', hslot', -, htexel⟩ := hs.slot h (hlayout ▸ hi)
    obtain ⟨width, height, hsize', hwanted⟩ := wanted?_of_slot ho hi
    cases hslot.symm.trans hslot'
    cases hsize.symm.trans hsize'
    rw [hwanted, hslot]
    simp [fits, htexel]

end Suits

/-! ## Uploading a frame -/

/-- **The bytes that an upload writes into a slot**: those of the rows that
the texture has. -/
def fill? (e : UploadEngine) (frame : VideoFrame) (i : Nat) (layout : SlotLayout) :
    Option Fill := do
  let slot ← e.slot? i
  let plane ← frame.planes[layout.sourcePlane]?
  return ⟨slot.id, plane.data.extract 0 (plane.stride * slot.height), plane.stride % UInt32.size⟩

/-- What an upload writes into slots, the first one being the `i`-th. -/
def fillsFrom (e : UploadEngine) (frame : VideoFrame) (i : Nat) (layouts : List SlotLayout) :
    List Fill :=
  (layouts.zipIdx i).filterMap fun x => e.fill? frame x.2 x.1

/-- **All that an upload writes.** -/
def fills (e : UploadEngine) (frame : VideoFrame) : List Fill :=
  e.fillsFrom frame 0 frame.format.layout.slots

theorem fillsFrom_cons (e : UploadEngine) (frame : VideoFrame) (i : Nat) (layout : SlotLayout)
    (layouts : List SlotLayout) :
    e.fillsFrom frame i (layout :: layouts) =
      (e.fill? frame i layout).toList ++ e.fillsFrom frame (i + 1) layouts := by
  unfold fillsFrom
  rw [List.zipIdx_cons, List.filterMap_cons]
  dsimp only
  cases e.fill? frame i layout <;> rfl

/-- **A slot that is ready for a frame**: a texture of the right size on the
device, and a plane that fills it. -/
structure Ready (e : UploadEngine) (d : Recorder) (frame : VideoFrame) (i : Nat)
    (layout : SlotLayout) (slot : TextureSlot) (plane : FramePlane) : Prop where
  /-- The plane fills the slot. -/
  feeds : frame.Feeds i layout plane
  /-- The texture is that of the slot. -/
  known : e.slot? i = some slot
  /-- A row of it takes what a row of the plane has. -/
  width : slot.width = frame.format.byteWidth layout.sourcePlane / layout.texel.bytes
  /-- It has as many rows as the plane. -/
  height : slot.height = frame.format.byteHeight layout.sourcePlane
  /-- Its texels are those of the slot. -/
  texel : slot.format = layout.texel
  /-- It is on the device. -/
  live : ∃ j : Fin 3, i = j ∧ d.textures.get? slot.id =
    some ⟨slotLabel j, slot.width, slot.height, slot.format⟩

/-- **A slot that is admitted for a frame**: like one that is ready, but its
texels are not looked at. -/
structure Admitted (e : UploadEngine) (d : Recorder) (frame : VideoFrame) (i : Nat)
    (layout : SlotLayout) (slot : TextureSlot) (plane : FramePlane) : Prop where
  /-- The plane fills the slot. -/
  feeds : frame.Feeds i layout plane
  /-- A row of the plane has the bytes of a texel. -/
  texel : layout.texel.bytes ≤ frame.format.byteWidth layout.sourcePlane
  /-- The texture is that of the slot. -/
  known : e.slot? i = some slot
  /-- A row of it has as many texels as one of the slot. -/
  width : slot.width = frame.format.byteWidth layout.sourcePlane / layout.texel.bytes
  /-- It has as many rows as the plane. -/
  height : slot.height = frame.format.byteHeight layout.sourcePlane
  /-- It is on the device. -/
  live : ∃ j : Fin 3, i = j ∧ d.textures.get? slot.id =
    some ⟨slotLabel j, slot.width, slot.height, slot.format⟩

section Upload

variable {e : UploadEngine} {d : Recorder} {b : Bench Recorder} {frame : VideoFrame}

/-- **Every slot is admitted** if the sizes are right. -/
theorem Stocked.exists_admitted (h : e.Stocked d) (fits : e.mismatch? frame.format = none)
    (sound : frame.Sound) {i : Nat} {layout : SlotLayout}
    (hi : frame.format.layout.slots[i]? = some layout) :
    ∃ slot plane, e.Admitted d frame i layout slot plane := by
  obtain ⟨plane, feeds⟩ := sound.exists_feeds hi
  obtain ⟨-, htexel, -⟩ := sound.formed.slot hi
  obtain ⟨slot, hslot, hsize⟩ := (mismatch?_eq_none_iff sound.formed).1 fits i layout hi
  rw [feeds.size] at hsize
  obtain ⟨hwidth, hheight⟩ := Prod.mk.inj (Option.some.inj hsize)
  have hlt : i < 3 :=
    Nat.lt_of_lt_of_le (List.getElem?_eq_some_iff.1 hi).1 (PixelType.layout_slots_length_le _)
  have hheld := h.holds_slot (i := ⟨i, hlt⟩) hslot
  exact ⟨slot, plane, feeds, htexel, hslot, hwidth.symm, hheight.symm, ⟨i, hlt⟩, rfl,
    hheld.live.1⟩

/-- **Every slot is ready** once the textures suit the frame's format. -/
theorem Stocked.exists_ready (h : e.Stocked d) (suits : e.Suits frame.format)
    (sound : frame.Sound) {i : Nat} {layout : SlotLayout}
    (hi : frame.format.layout.slots[i]? = some layout) :
    ∃ slot plane, e.Ready d frame i layout slot plane := by
  obtain ⟨slot, plane, admitted⟩ := h.exists_admitted (suits.mismatch? sound.formed) sound hi
  obtain ⟨slot', hslot, -, htexel⟩ := suits.slot sound.formed hi
  cases admitted.known.symm.trans hslot
  exact ⟨slot, plane, admitted.feeds, admitted.known, admitted.width, admitted.height, htexel,
    admitted.live⟩

theorem Admitted.fill?_eq {i : Nat} {layout : SlotLayout} {slot : TextureSlot}
    {plane : FramePlane} (h : e.Admitted d frame i layout slot plane) :
    e.fill? frame i layout =
      some ⟨slot.id, plane.data.extract 0 (plane.stride * slot.height),
        plane.stride % UInt32.size⟩ := by
  unfold fill?
  rw [h.known, h.feeds.source]
  rfl

theorem Ready.fill?_eq {i : Nat} {layout : SlotLayout} {slot : TextureSlot} {plane : FramePlane}
    (h : e.Ready d frame i layout slot plane) :
    e.fill? frame i layout =
      some ⟨slot.id, plane.data.extract 0 (plane.stride * slot.height),
        plane.stride % UInt32.size⟩ := by
  unfold fill?
  rw [h.known, h.feeds.source]
  rfl

/-- What is written into a slot that is ready. -/
theorem Ready.mem_fills {i : Nat} {layout : SlotLayout} {slot : TextureSlot} {plane : FramePlane}
    (h : e.Ready d frame i layout slot plane) (hi : frame.format.layout.slots[i]? = some layout) :
    (⟨slot.id, plane.data.extract 0 (plane.stride * slot.height),
      plane.stride % UInt32.size⟩ : Fill) ∈ e.fills frame :=
  List.mem_filterMap.2 ⟨(layout, i), List.mem_zipIdx_iff_getElem?.2 hi, h.fill?_eq⟩

/-- **Whether a slot that is admitted takes the bytes**: it does if its texels
have not more bytes than those of the frame's slot. Otherwise a row of them has
more bytes than a row of the plane, and nothing is written. -/
theorem Admitted.writeSlot_ends {i : Nat} {layout : SlotLayout} {slot : TextureSlot}
    {plane : FramePlane} (h : e.Admitted b.device frame i layout slot plane) :
    (writeSlot frame layout i).Ends (e, b)
      (fun _ t => slot.format.bytes ≤ layout.texel.bytes ∧
        t = (e, b.onDevice fun d =>
          d.filled slot.id (plane.data.extract 0 (plane.stride * slot.height))
            (plane.stride % UInt32.size)))
      (fun x t => layout.texel.bytes < slot.format.bytes ∧ t = (e, b) ∧
        x = .gpu (.shortWrite (plane.stride * slot.height) (plane.stride % UInt32.size)
          slot.width slot.height slot.format))
      fun _ => UInt32.size ≤ slot.width * slot.format.bytes := by
  obtain ⟨j, -, live⟩ := h.live
  have feeds := h.feeds
  have hrows : plane.stride * slot.height ≤ plane.data.size := h.height ▸ feeds.rows
  have hsize : (plane.data.extract 0 (plane.stride * slot.height)).size =
      plane.stride * slot.height := by
    rw [Array.size_extract]
    omega
  have hpos : 0 < slot.height := h.height ▸ feeds.row
  have hlast : plane.stride % UInt32.size * (slot.height - 1) + plane.stride % UInt32.size ≤
      plane.stride * slot.height := by
    rw [← Nat.mul_succ, Nat.succ_eq_add_one, Nat.sub_add_cancel hpos]
    exact Nat.mul_le_mul_right _ (Nat.mod_le _ _)
  -- a row of texels is not wider than the stride exactly if a texel is not wider
  have hrow : slot.width * slot.format.bytes ≤ plane.stride % UInt32.size ↔
      slot.format.bytes ≤ layout.texel.bytes := by
    rw [h.width, feeds.stride]
    exact TexelFormat.row_le_iff h.texel
  have hfills : Recorder.fills ⟨slotLabel j, slot.width, slot.height, slot.format⟩
      (slot.width * slot.format.bytes) (plane.data.extract 0 (plane.stride * slot.height)).size
        (plane.stride % UInt32.size) = true ↔ slot.format.bytes ≤ layout.texel.bytes := by
    unfold Recorder.fills
    rw [hsize, Bool.and_eq_true, decide_eq_true_iff, decide_eq_true_iff, ← hrow]
    dsimp only
    omega
  unfold writeSlot
  simp only [ends_bind, ends_get, h.known, feeds.source, ends_ofChecked, Checked.fit64_eq_ok]
  refine ⟨?_, ?_⟩
  · rintro - ⟨-, rfl⟩
    rw [Nat.min_eq_left hrows, Bench.ends_call]
    refine (writeTexture_ends_live live _ _).mono ?_ ?_ fun _ => id
    · rintro - d ⟨full, rfl⟩
      exact ⟨hfills.1 full, rfl⟩
    · rintro x d ⟨short, rfl, rfl⟩
      have wide : layout.texel.bytes < slot.format.bytes :=
        Nat.lt_of_not_le fun narrow => by
          rw [hfills.2 narrow] at short
          cases short
      rw [hsize]
      exact ⟨wide, rfl, rfl⟩
  · intro f hf
    have hfit : Checked.fit64 (plane.stride * slot.height) = .ok _ :=
      Checked.fit64_eq_ok.2 ⟨h.height ▸ feeds.counted, rfl⟩
    rw [hfit] at hf
    cases hf

/-- A slot whose texels have not too many bytes is filled. -/
theorem Admitted.writeSlot_ends_of_le {i : Nat} {layout : SlotLayout} {slot : TextureSlot}
    {plane : FramePlane} (h : e.Admitted b.device frame i layout slot plane)
    (narrow : slot.format.bytes ≤ layout.texel.bytes) :
    (writeSlot frame layout i).Ends (e, b)
      (fun _ t => t = (e, b.onDevice fun d =>
        d.filled slot.id (plane.data.extract 0 (plane.stride * slot.height))
          (plane.stride % UInt32.size)))
      (fun _ _ => False) fun _ => False := by
  refine h.writeSlot_ends.mono (fun _ _ h => h.2) (fun _ _ wide => by omega) fun _ long => ?_
  have row := (TexelFormat.row_le_iff h.texel).2 narrow
  rw [← h.width, ← h.feeds.stride] at row
  have := Nat.mod_lt plane.stride (show 0 < UInt32.size by decide)
  omega

/-- **Slots that take the bytes are filled**, one after the other. -/
theorem writeSlots_ends {i : Nat} {layouts : List SlotLayout}
    (h : ∀ (j : Nat) layout, layouts[j]? = some layout → ∃ slot plane,
      e.Admitted b.device frame (i + j) layout slot plane ∧
        slot.format.bytes ≤ layout.texel.bytes) :
    (writeSlots frame i layouts).Ends (e, b)
      (fun _ t => t = (e, b.onDevice (fillAll (e.fillsFrom frame i layouts))))
      (fun _ _ => False) fun _ => False := by
  induction layouts generalizing i b with
  | nil => rfl
  | cons layout layouts ih =>
    obtain ⟨slot, plane, admitted, narrow⟩ := h 0 layout rfl
    rw [Nat.add_zero] at admitted
    unfold writeSlots
    rw [ends_bind]
    refine (admitted.writeSlot_ends_of_le narrow).mono ?_ (fun _ _ => id) fun _ => id
    rintro - t rfl
    refine (ih fun j l hj => ?_).mono ?_ (fun _ _ => id) fun _ => id
    · -- filling a texture leaves the others on the device
      obtain ⟨slot', plane', admitted', narrow'⟩ := h (j + 1) l hj
      rw [show i + (j + 1) = i + 1 + j by omega] at admitted'
      exact ⟨slot', plane', ⟨admitted'.feeds, admitted'.texel, admitted'.known, admitted'.width,
        admitted'.height, admitted'.live⟩, narrow'⟩
    · rintro - t rfl
      rw [fillsFrom_cons, admitted.fill?_eq]
      rfl

/-- **Slots that are all ready are all written**, in order. -/
theorem getElem?_fillsFrom {i : Nat} {layouts : List SlotLayout}
    (h : ∀ (j : Nat) layout, layouts[j]? = some layout →
      ∃ slot plane, e.Ready d frame (i + j) layout slot plane) :
    (e.fillsFrom frame i layouts).length = layouts.length ∧
      ∀ (j : Nat) layout, layouts[j]? = some layout →
        (e.fillsFrom frame i layouts)[j]? = e.fill? frame (i + j) layout := by
  induction layouts generalizing i with
  | nil => exact ⟨rfl, fun j layout hj => nomatch hj⟩
  | cons layout layouts ih =>
    obtain ⟨slot, plane, ready⟩ := h 0 layout rfl
    rw [Nat.add_zero] at ready
    obtain ⟨hlen, hat⟩ := ih (i := i + 1) fun j l hj => by
      have := h (j + 1) l hj
      rwa [show i + (j + 1) = i + 1 + j by omega] at this
    rw [fillsFrom_cons, ready.fill?_eq]
    refine ⟨congrArg (· + 1) hlen, fun j l hj => ?_⟩
    cases j with
    | zero =>
      cases hj
      exact ready.fill?_eq.symm
    | succ j =>
      rw [show i + (j + 1) = i + 1 + j by omega]
      exact hat j l hj

/-- **Different slots have different textures.** -/
theorem Stocked.id_ne (h : e.Stocked d) {i j : Nat} (hij : i ≠ j) {s t : TextureSlot}
    (hs : e.slot? i = some s) (ht : e.slot? j = some t) : s.id ≠ t.id := by
  obtain ⟨k, rfl⟩ := exists_of_slot?_eq_some hs
  obtain ⟨l, rfl⟩ := exists_of_slot?_eq_some ht
  exact (h.holds_slot hs).ne (h.holds_slot ht) fun e => hij (congrArg Fin.val (slotLabel_inj e))

/-- A write goes into the texture of one of the slots. -/
theorem slot?_of_mem_fillsFrom {x : Fill} {i : Nat} {layouts : List SlotLayout}
    (hx : x ∈ e.fillsFrom frame i layouts) :
    ∃ j s, i ≤ j ∧ e.slot? j = some s ∧ x.texture = s.id := by
  obtain ⟨⟨layout, j⟩, hmem, hfill⟩ := List.mem_filterMap.1 hx
  obtain ⟨s, hs, hfill⟩ := Option.bind_eq_some_iff.1 hfill
  obtain ⟨plane, -, hfill⟩ := Option.bind_eq_some_iff.1 hfill
  cases hfill
  exact ⟨j, s, List.le_snd_of_mem_zipIdx hmem, hs, rfl⟩

/-- **No texture is written twice.** -/
theorem Stocked.fillsFrom_nodup (h : e.Stocked d) (frame : VideoFrame) (i : Nat)
    (layouts : List SlotLayout) : ((e.fillsFrom frame i layouts).map Fill.texture).Nodup := by
  induction layouts generalizing i with
  | nil => exact List.nodup_nil
  | cons layout layouts ih =>
    rw [fillsFrom_cons]
    cases hfill : e.fill? frame i layout with
    | none => exact ih (i + 1)
    | some x =>
      refine List.nodup_cons.2 ⟨fun hmem => ?_, ih (i + 1)⟩
      -- a later write is one for a later slot
      obtain ⟨y, hy, hxy⟩ := List.mem_map.1 hmem
      obtain ⟨j, t, hj, ht, hyt⟩ := slot?_of_mem_fillsFrom hy
      obtain ⟨s, hs, hfill⟩ := Option.bind_eq_some_iff.1 hfill
      obtain ⟨plane, -, hfill⟩ := Option.bind_eq_some_iff.1 hfill
      cases hfill
      exact h.id_ne (by omega) ht hs (hyt.symm.trans hxy)

/-- **A slot that is ready has the first rows of its plane**, once the frame
is written. -/
theorem Stocked.contents_fills (h : e.Stocked d) {i : Nat} {layout : SlotLayout}
    {slot : TextureSlot} {plane : FramePlane} (ready : e.Ready d frame i layout slot plane)
    (hi : frame.format.layout.slots[i]? = some layout) :
    (d.fillAll (e.fills frame)).contents.get? slot.id =
      some (plane.data.extract 0 (plane.stride * slot.height)) :=
  contents_fillAll (h.fillsFrom_nodup _ _ _) (ready.mem_fills hi) d

/-- What a frame is written into is there, under the label of a slot. -/
theorem Stocked.live_of_mem_fills (h : e.Stocked d) {x : Fill} (hx : x ∈ e.fills frame) :
    ∃ desc, d.textures.get? x.texture = some desc ∧ IsSlotLabel desc.label := by
  obtain ⟨j, s, -, hs, hx⟩ := slot?_of_mem_fillsFrom hx
  obtain ⟨k, rfl⟩ := exists_of_slot?_eq_some hs
  exact ⟨_, hx ▸ (h.holds_slot hs).live.1, k, rfl⟩

/-- Writing a frame leaves what does not belong to a slot. -/
theorem Stocked.fills_spares (h : e.Stocked d) (frame : VideoFrame) :
    d.Spares (d.fillAll (e.fills frame)) IsSlotLabel :=
  fillAll_spares fun _ hx => h.live_of_mem_fills hx

theorem Stocked.fillAll (h : e.Stocked d) {fills : List Fill} (targets : d.Targets fills) :
    e.Stocked (d.fillAll fills) := by
  refine ⟨h.orderly.fillAll targets, fun i t desc => ?_⟩
  rw [textures_fillAll]
  exact h.holds i t desc

end Upload

/-- **What an upload does** to a frame that fits. -/
structure Uploaded (frame : VideoFrame) (s t : UploadEngine × Bench Recorder) : Prop where
  /-- The engine counts one more frame. -/
  engine : t.1 = { s.1 with drawnFrames := s.1.drawnFrames + 1 }
  /-- The device has the bytes of the frame. -/
  device : t.2.device = s.2.device.fillAll (s.1.fills frame)

/-- **A frame with a picture is uploaded** into textures that suit it. -/
theorem upload_ends {s : UploadEngine × Bench Recorder} {frame : VideoFrame}
    (h : s.1.Stocked s.2.device) (suits : s.1.Suits frame.format) (sound : frame.Sound)
    (picture : frame.isEmpty = false) :
    (upload frame).Ends s (fun uploaded t => uploaded = true ∧ Uploaded frame s t)
      (fun _ _ => False) fun _ => False := by
  have hslots : frame.format.layout.slots.isEmpty = false := sound.slots_isEmpty.trans picture
  unfold upload
  rw [if_neg (by rw [picture, hslots]; decide)]
  simp only [ends_bind, ends_get, suits.mismatch? sound.formed, Bench.ends_change, Bench.ends_note,
    ends_pure]
  refine (writeSlots_ends fun j layout hj => ?_).mono ?_ (fun _ _ => id) fun _ => id
  · rw [Nat.zero_add]
    obtain ⟨slot, plane, admitted⟩ := h.exists_admitted (suits.mismatch? sound.formed) sound hj
    obtain ⟨slot', hslot, -, htexel⟩ := suits.slot sound.formed hj
    cases admitted.known.symm.trans hslot
    exact ⟨slot, plane, admitted, Nat.le_of_eq (congrArg TexelFormat.bytes htexel)⟩
  · rintro - t rfl
    exact ⟨trivial, rfl, rfl⟩

/-- **The device has the bytes of a frame**: for each slot, the rows of its
source plane. -/
def Shows (e : UploadEngine) (d : Recorder) (frame : VideoFrame) : Prop :=
  ∀ (i : Nat) layout, frame.format.layout.slots[i]? = some layout → ∃ slot plane,
    e.slot? i = some slot ∧ d.textures.contains slot.id = true ∧
      frame.planes[layout.sourcePlane]? = some plane ∧
      plane.stride * frame.format.byteHeight layout.sourcePlane ≤ plane.data.size ∧
      d.contents.get? slot.id =
        some (plane.data.extract 0 (plane.stride * frame.format.byteHeight layout.sourcePlane))

/-- **An uploaded frame is shown.** -/
theorem Uploaded.shows {s t : UploadEngine × Bench Recorder} {frame : VideoFrame}
    (h : Uploaded frame s t) (stocked : s.1.Stocked s.2.device) (suits : s.1.Suits frame.format)
    (sound : frame.Sound) : t.1.Shows t.2.device frame := by
  intro i layout hi
  obtain ⟨slot, plane, ready⟩ := stocked.exists_ready suits sound hi
  obtain ⟨j, -, live⟩ := ready.live
  refine ⟨slot, plane, ?_, ?_, ready.feeds.source, ready.feeds.rows, ?_⟩
  · rw [h.engine]
    exact ready.known
  · rw [h.device, textures_fillAll, Registry.contains, live]
    rfl
  · rw [h.device, stocked.contents_fills ready hi, ready.height]

/-- **What is shown stays shown** while the textures of the slots are left
alone. -/
theorem Shows.congr {e e' : UploadEngine} {d d' : Recorder} {frame : VideoFrame}
    (h : e.Shows d frame) (slots : e'.slots = e.slots)
    (same : ∀ (i : Nat) slot, e.slot? i = some slot →
      d'.textures.get? slot.id = d.textures.get? slot.id ∧
        d'.contents.get? slot.id = d.contents.get? slot.id) : e'.Shows d' frame := by
  intro i layout hi
  obtain ⟨slot, plane, known, live, source, rows, contents⟩ := h i layout hi
  obtain ⟨textures, bytes⟩ := same i slot known
  refine ⟨slot, plane, ?_, ?_, source, rows, bytes.trans contents⟩
  · unfold slot? at known ⊢
    rw [slots]
    exact known
  · rw [Registry.contains, textures]
    exact live

/-- Work on other labels leaves what is shown. -/
theorem Shows.spares {e : UploadEngine} {d d' : Recorder} {frame : VideoFrame}
    {touched : String → Prop} (h : e.Shows d frame) (stocked : e.Stocked d)
    (spares : d.Spares d' touched) (apart : ∀ i, ¬ touched (slotLabel i)) : e.Shows d' frame := by
  refine h.congr rfl fun i slot known => ?_
  obtain ⟨j, rfl⟩ := exists_of_slot?_eq_some known
  have held := stocked.holds_slot known
  have held' := spares.holds (apart j) held
  exact ⟨held'.live.1.trans held.live.1.symm, spares.contents_of_holds (apart j) held⟩

/-- So does work on programs. -/
theorem Shows.samePictures {e : UploadEngine} {d d' : Recorder} {frame : VideoFrame}
    (h : e.Shows d frame) (same : d.SamePictures d') : e.Shows d' frame :=
  h.congr rfl fun _ _ _ => ⟨by rw [same.textures], by rw [same.contents]⟩

/-- **A frame without a picture is not uploaded.** -/
theorem upload_empty_ends {δ : Type} [Device δ] {s : UploadEngine × Bench δ} {frame : VideoFrame}
    (empty : frame.isEmpty = true) :
    (upload frame).Ends s (fun uploaded t => uploaded = false ∧ t = s) (fun _ _ => False)
      fun _ => False := by
  unfold upload
  rw [if_pos (by rw [empty]; rfl)]
  exact ⟨rfl, rfl⟩

/-- **A frame that does not fit is refused**, and nothing is written. -/
theorem upload_mismatch_ends {δ : Type} [Device δ] {s : UploadEngine × Bench δ}
    {frame : VideoFrame} (picture : frame.isEmpty = false)
    (slots : frame.format.layout.slots.isEmpty = false) {x : Nat × (Nat × Nat) × (Nat × Nat)}
    (hm : s.1.mismatch? frame.format = some x) :
    (upload frame).Ends s (fun _ _ => False)
      (fun e t => e = .formatMismatch x.1 x.2.1 x.2.2 ∧ t = s) fun _ => False := by
  unfold upload
  rw [if_neg (by rw [picture, slots]; decide)]
  simp only [ends_bind, ends_get, hm]
  exact ⟨rfl, rfl⟩

/-! ## What an upload leaves of the engine -/

section Engine

variable {δ : Type} [Device δ]

theorem writeSlots_keeps_engine (frame : VideoFrame) (i : Nat) (layouts : List SlotLayout) :
    (writeSlots (δ := δ) frame i layouts).Keeps Prod.fst := by
  induction layouts generalizing i with
  | nil => exact keeps_pure _
  | cons layout layouts ih =>
    have first : (writeSlot (δ := δ) frame layout i).Keeps Prod.fst := by
      refine keeps_get.bind fun s => ?_
      split
      · exact keeps_pure _
      split
      · exact keeps_ofChecked _
      · exact (keeps_ofChecked _).bind fun _ => Bench.keeps_call (fun e => e) _
    exact first.bind fun _ => ih (i + 1)

/-- **A frame is counted when it was uploaded**, and not when it was refused. All
else that the engine knows is as it was. -/
theorem upload_engine (frame : VideoFrame) (s : UploadEngine × Bench δ) :
    (upload frame).Ends s
      (fun uploaded t => t.1 = { s.1 with drawnFrames := s.1.drawnFrames + uploaded.toNat })
      (fun _ t => t.1 = s.1) fun _ => True := by
  unfold upload
  dsimp only
  split
  · rfl
  simp only [ends_bind, ends_get]
  split
  · rfl
  simp only [ends_bind, Bench.ends_change, Bench.ends_note, ends_get, ends_pure]
  refine (writeSlots_keeps_engine frame 0 _ s).mono ?_ (fun _ _ => id) fun _ => id
  rintro - t ht
  exact congrArg (fun e => { e with drawnFrames := e.drawnFrames + 1 }) ht

end Engine

/-! ## Every call keeps what the engine knows -/

/-- **Textures are filled at most**, and they are there. -/
def OnlyFills (s t : UploadEngine × Bench Recorder) : Prop :=
  ∃ fills, s.2.device.Targets fills ∧ t = (s.1, s.2.onDevice (fillAll fills))

theorem OnlyFills.refl (s : UploadEngine × Bench Recorder) : OnlyFills s s :=
  ⟨[], fun _ h => (nomatch h), rfl⟩

theorem OnlyFills.trans {s t u : UploadEngine × Bench Recorder} (h : OnlyFills s t)
    (h' : OnlyFills t u) : OnlyFills s u := by
  obtain ⟨fills, targets, rfl⟩ := h
  obtain ⟨more, targets', rfl⟩ := h'
  refine ⟨fills ++ more, fun x hx => ?_, Prod.ext rfl ?_⟩
  · obtain hx | hx := List.mem_append.1 hx
    · exact targets x hx
    · -- filling textures neither makes nor drops one
      have live := targets' x hx
      rwa [show (s.1, s.2.onDevice (fillAll fills)).2.device.textures = s.2.device.textures from
        textures_fillAll fills _] at live
  · exact congrArg (Bench.mk · s.2.log) (fillAll_append _ fills more).symm

theorem Stocked.of_fills {s t : UploadEngine × Bench Recorder} (h : s.1.Stocked s.2.device)
    (fills : OnlyFills s t) : t.1.Stocked t.2.device := by
  obtain ⟨fills, targets, rfl⟩ := fills
  exact h.fillAll targets

/-- **Whatever is uploaded, textures are filled at most**, also where the
frame is refused. -/
theorem writeSlots_ends_any (frame : VideoFrame) (i : Nat) (layouts : List SlotLayout)
    (s : UploadEngine × Bench Recorder) :
    (writeSlots frame i layouts).Ends s (fun _ t => OnlyFills s t) (fun _ t => OnlyFills s t)
      fun _ => True := by
  induction layouts generalizing i s with
  | nil => exact .refl s
  | cons layout layouts ih =>
    have first : (writeSlot frame layout i).Ends s (fun _ t => OnlyFills s t)
        (fun _ t => OnlyFills s t) fun _ => True := by
      unfold writeSlot
      simp only [ends_bind, ends_get]
      split
      · exact .refl s
      split
      · simp [ends_ofChecked]
      simp only [ends_bind, ends_ofChecked, Bench.ends_call]
      refine ⟨fun rows _ => ?_, fun _ _ => trivial⟩
      refine (writeTexture_ends_any _ _ _ _).mono ?_ ?_ fun _ => id
      · rintro - d ⟨live, rfl⟩
        exact ⟨[⟨_, _, _⟩], List.forall_mem_singleton.2 live, rfl⟩
      · rintro - d rfl
        exact .refl s
    unfold writeSlots
    rw [ends_bind]
    refine first.mono ?_ (fun _ _ => id) fun _ => id
    rintro - t filled
    refine (ih (i + 1) t).mono ?_ ?_ fun _ => id
    · exact fun _ _ more => filled.trans more
    · exact fun _ _ more => filled.trans more

/-- **An upload keeps what the engine knows**, whatever the frame. -/
theorem upload_ends_any (frame : VideoFrame) {s : UploadEngine × Bench Recorder}
    (h : s.1.Stocked s.2.device) :
    (upload frame).Ends s (fun _ t => t.1.Stocked t.2.device) (fun _ t => t.1.Stocked t.2.device)
      fun _ => True := by
  unfold upload
  dsimp only
  split
  · exact h
  simp only [ends_bind, ends_get]
  split
  · exact h
  simp only [ends_bind, Bench.ends_change, Bench.ends_note, ends_get, ends_pure]
  refine (writeSlots_ends_any frame 0 _ s).mono ?_ ?_ fun _ => id
  · intro _ t fills
    have stocked := h.of_fills fills
    exact ⟨stocked.orderly, stocked.holds⟩
  · exact fun _ t fills => h.of_fills fills

theorem slot?_release {δ : Type} [Device δ] (s : UploadEngine × Bench δ) (i : Nat) :
    (release s).1.slot? i = none := slot?_initial i

/-- An engine without textures suits the empty format. -/
theorem suits_empty {e : UploadEngine} (h : ∀ i, e.slot? i = none) : e.Suits .empty := by
  intro i
  rw [h i, wanted?_of_none rfl]
  rfl

/-- **A release drops every texture of a slot**, and nothing else. -/
theorem Stocked.release {s : UploadEngine × Bench Recorder} (h : s.1.Stocked s.2.device) :
    (release s).1.Stocked (release s).2.device ∧
      s.2.device.Spares (release s).2.device IsSlotLabel ∧
      (release s).2.device.lastId = s.2.device.lastId := by
  obtain ⟨e, b⟩ := s
  -- on the device a release is the same as emptying slot after slot
  have hdevice : (UploadEngine.release (e, b)).2.device =
      dropped (e.slot? (2 : Fin 3))
        (dropped (e.slot? (1 : Fin 3)) (dropped (e.slot? (0 : Fin 3)) b.device)) := by
    show dropAll e.slots.toList b.device = _
    rw [show e.slots.toList = [e.slot? 0, e.slot? 1, e.slot? 2] from toList_three _]
    show dropAll [e.slot? 0, e.slot? 1, e.slot? 2] _ = _
    show _ = dropped (e.slot? 2) (dropped (e.slot? 1) (dropped (e.slot? 0) b.device))
    cases e.slot? 0 <;> cases e.slot? 1 <;> cases e.slot? 2 <;> rfl
  have second : (e.setSlot 0 none).slot? (1 : Fin 3) = e.slot? (1 : Fin 3) := by
    rw [slot?_setSlot, if_neg (by decide)]
  have third : ((e.setSlot 0 none).setSlot 1 none).slot? (2 : Fin 3) = e.slot? (2 : Fin 3) := by
    rw [slot?_setSlot, if_neg (by decide), slot?_setSlot, if_neg (by decide)]
  obtain ⟨h₀, s₀⟩ := h.drop 0
  obtain ⟨h₁, s₁⟩ := h₀.drop 1
  obtain ⟨h₂, s₂⟩ := h₁.drop 2
  dsimp only at h₁ s₁ h₂ s₂
  rw [second] at h₁ s₁ h₂ s₂
  rw [third] at h₂ s₂
  have hempty (i : Fin 3) :
      (((e.setSlot 0 none).setSlot 1 none).setSlot 2 none).held i = none := by
    rw [held_setSlot, held_setSlot, held_setSlot]
    obtain rfl | rfl | rfl := slot_cases i <;> rfl
  rw [hdevice]
  refine ⟨⟨h₂.orderly, fun i => ?_⟩, ?_, ?_⟩
  · have hi := h₂.holds i
    rw [hempty] at hi
    have hnone : (UploadEngine.release (e, b)).1.held i = none :=
      congrArg (Option.map _) (slot?_release (e, b) i)
    rw [hnone]
    exact hi
  · exact ((s₀.mono (isSlotLabel_of_eq 0)).trans (s₁.mono (isSlotLabel_of_eq 1))).trans
      (s₂.mono (isSlotLabel_of_eq 2))
  · rw [lastId_dropped, lastId_dropped, lastId_dropped]

end UploadEngine

end Projector
