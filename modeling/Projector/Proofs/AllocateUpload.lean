import Projector.Proofs.Upload

/-!
# Allocate, then upload

A frame is shown in two calls: the textures are made for its format, and
then its planes are uploaded. On a recording device both calls succeed for
every frame that somebody made, after any calls before them, refused ones
included. Only one thing can end the first call, and the theorem says
exactly when: the device has handed out so many numbers that the missing
textures do not get one each.

What the device then holds are the rows of the planes, and no byte after
them. Rows may be padded by any number of bytes, so a row of a texture may
be narrower than the row of the plane, and it is the stride of the plane
that the device is told.
-/

namespace Projector

namespace UploadEngine

open Step Recorder

/-- **What can be reached** by making textures, uploading and releasing, in
any order and with any formats and frames, whatever is answered. -/
inductive Reached : UploadEngine × Bench Recorder → Prop
  /-- Nothing was done. -/
  | initial : Reached (.initial, .of .initial)
  /-- Textures were made for a format. -/
  | ensureAllocated {s t format answer} (h : Reached s)
      (e : (ensureAllocated format).outcome s = .ok (answer, t)) : Reached t
  /-- A frame was uploaded, or refused. -/
  | upload {s t frame answer} (h : Reached s)
      (e : (upload frame).outcome s = .ok (answer, t)) : Reached t
  /-- The textures were dropped. -/
  | release {s} (h : Reached s) : Reached (release s)

/-- **The engine always knows its textures.** -/
theorem Reached.stocked {s : UploadEngine × Bench Recorder} (h : Reached s) :
    s.1.Stocked s.2.device := by
  induction h with
  | initial => exact stocked_initial
  | @ensureAllocated _ _ _ answer _ e ih =>
    cases answer with
    | ok changed => exact ((ensureAllocated_ends _ ih).of_ok e).stocked
    | error x => exact ((ensureAllocated_ends _ ih).of_error e).elim
  | upload _ e ih => exact (upload_ends_any _ ih).keeps e
  | release _ ih => exact ih.release.1

/-! ## Numbers -/

/-- **Textures that were made had a number each.** The numbers that were handed
out are words, so there were enough of them. -/
theorem numbers_of_made {s t : UploadEngine × Bench Recorder} (reached : Reached s)
    {format : VideoFormat} {changed : Bool}
    (e : (ensureAllocated format).outcome s = .ok (.ok changed, t)) :
    s.2.device.lastId + s.1.missing format < UInt32.size := by
  have allocated := (ensureAllocated_ends format reached.stocked).of_ok e
  rw [← allocated.lastId]
  exact allocated.stocked.orderly.counter

/-- **Without a number for each missing texture the call breaks.** -/
theorem breaks_without_numbers {s : UploadEngine × Bench Recorder} (reached : Reached s)
    {format : VideoFormat} (full : UInt32.size ≤ s.2.device.lastId + s.1.missing format) :
    ∃ fault, (ensureAllocated format).outcome s = .error fault := by
  cases e : (ensureAllocated format).outcome s with
  | error fault => exact ⟨fault, rfl⟩
  | ok answered =>
    obtain ⟨changed | error, t⟩ := answered
    · exact ((ensureAllocated_ends format reached.stocked).of_error e).elim
    · exact absurd (numbers_of_made reached e) (Nat.not_lt.2 full)

/-- **Every number is handed out at last.** A texture that is made and dropped uses
up a number, since no number is handed out twice. -/
theorem exists_reached {n : Nat} (word : n < UInt32.size) :
    ∃ s, Reached s ∧ (∀ i, s.1.slot? i = none) ∧ s.2.device.lastId = n := by
  induction n with
  | zero => exact ⟨_, .initial, slot?_initial, rfl⟩
  | succ n ih =>
    obtain ⟨s, reached, empty, last⟩ := ih (Nat.lt_of_succ_lt word)
    let pixel : VideoFormat := ⟨.rgba, 1, 1, [⟨4, 1⟩]⟩
    have one : s.1.missing pixel = 1 := (missing_of_empty empty pixel).trans (by decide)
    obtain ⟨changed, t, e, allocated⟩ := ((ensureAllocated_ends pixel reached.stocked).mono
      (fun _ _ => id) (fun _ _ => id) fun _ full => by omega).exists_ok
    obtain ⟨-, -, kept⟩ := allocated.stocked.release
    refine ⟨UploadEngine.release t, (reached.ensureAllocated e).release, slot?_release t, ?_⟩
    rw [kept, allocated.lastId, one, last]

/-! ## Frames -/

/-- **Made textures can be filled.** After any calls, the textures for the
format of a frame are made and the frame is then uploaded, exactly if there
are numbers left for the textures that are missing. The frame is counted
once, and the device has for each slot the rows of its source plane: as many
bytes as the stride times the rows, written as rows of the stride. -/
theorem allocate_then_upload {s : UploadEngine × Bench Recorder} (reached : Reached s)
    {frame : VideoFrame} (made : frame.Made) (picture : frame.isEmpty = false)
    (narrow : frame.Narrow) :
    s.2.device.lastId + s.1.missing frame.format < UInt32.size ↔
      ∃ changed s₁ s₂, (ensureAllocated frame.format).outcome s = .ok (.ok changed, s₁) ∧
        (upload frame).outcome s₁ = .ok (.ok true, s₂) ∧
        s₂.1.drawnFrames = s.1.drawnFrames + 1 ∧
        ∃ writes, s₂.2.device.calls.toList = s₁.2.device.calls.toList ++ writes ∧
          writes.length = frame.format.layout.slots.length ∧
          ∀ (i : Nat) layout, frame.format.layout.slots[i]? = some layout →
            ∃ texture plane bytes, s₂.1.slot? i = some texture ∧
              s₂.2.device.textures.contains texture.id = true ∧
              frame.planes[layout.sourcePlane]? = some plane ∧
              bytes = plane.stride * frame.format.byteHeight layout.sourcePlane ∧
              bytes ≤ plane.data.size ∧
              s₂.2.device.contents.get? texture.id = some (plane.data.extract 0 bytes) ∧
              writes[i]? = some (.writeTexture texture.id bytes plane.stride) := by
  have sound := made.sound
  have allocation := ensureAllocated_ends frame.format reached.stocked
  constructor
  · intro hn
    obtain ⟨changed, s₁, e₁, allocated⟩ :=
      (allocation.mono (fun _ _ => id) (fun _ _ => id) fun _ hf => by omega).exists_ok
    have stocked := allocated.stocked
    obtain ⟨uploaded, s₂, e₂, rfl, done⟩ :=
      (upload_ends stocked allocated.suits sound picture).exists_ok
    -- every slot has its texture now, so every one is written, in order
    have ready (j : Nat) (layout) (hj : frame.format.layout.slots[j]? = some layout) :
        ∃ slot plane, s₁.1.Ready s₁.2.device frame (0 + j) layout slot plane := by
      rw [Nat.zero_add]
      exact stocked.exists_ready allocated.suits sound hj
    obtain ⟨length, order⟩ := getElem?_fillsFrom ready
    refine ⟨changed, s₁, s₂, e₁, e₂, ?_, (s₁.1.fills frame).map Fill.record, ?_, ?_, ?_⟩
    · rw [done.engine]
      exact congrArg (· + 1) allocated.drawnFrames
    · rw [done.device]
      exact calls_fillAll _ _
    · rw [List.length_map]
      exact length
    · intro i layout hi
      obtain ⟨slot, plane, ready⟩ := stocked.exists_ready allocated.suits sound hi
      obtain ⟨j, -, live⟩ := ready.live
      have hbytes : plane.stride * slot.height ≤ plane.data.size := by
        rw [ready.height]
        exact ready.feeds.rows
      refine ⟨slot, plane, plane.stride * slot.height, ?_, ?_, ready.feeds.source, ?_, hbytes,
        ?_, ?_⟩
      · rw [done.engine]
        exact ready.known
      · rw [done.device, textures_fillAll, Registry.contains, live]
        rfl
      · rw [ready.height]
      · rw [done.device]
        exact stocked.contents_fills ready hi
      · rw [List.getElem?_map, fills, order i layout hi, Nat.zero_add, ready.fill?_eq]
        show some (DeviceRecord.writeTexture _ (Array.size (Array.extract _ _ _)) _) = _
        have hstride : plane.stride % UInt32.size = plane.stride :=
          Nat.mod_eq_of_lt (narrow plane (List.mem_of_getElem? ready.feeds.source))
        rw [Array.size_extract, Nat.min_eq_left hbytes, Nat.sub_zero, hstride]
  · rintro ⟨changed, s₁, -, e₁, -⟩
    exact numbers_of_made reached e₁

/-- A frame of one pixel with padded rows, two slots and bytes after the last
row, on a device that has handed out no number. -/
theorem allocate_then_upload_padded_pixel :
    let frame : VideoFrame := ⟨⟨.nv12, 1, 1, [⟨2, 1⟩, ⟨3, 1⟩]⟩,
      [⟨#[16, 0, 7], 2⟩, ⟨#[128, 128, 0, 7], 3⟩]⟩
    let s : UploadEngine × Bench Recorder := (.initial, .of .initial)
    Reached s ∧ frame.Made ∧ frame.isEmpty = false ∧ frame.Narrow ∧
      ∃ changed s₁ s₂, (ensureAllocated frame.format).outcome s = .ok (.ok changed, s₁) ∧
        (upload frame).outcome s₁ = .ok (.ok true, s₂) ∧ s₂.1.drawnFrames = 1 := by
  intro frame s
  have made : frame.Made := @VideoFrame.Made.ofPlanes .nv12 1 1
    [⟨#[16, 0, 7], 2⟩, ⟨#[128, 128, 0, 7], 3⟩] frame rfl
  have narrow : frame.Narrow := by decide
  refine ⟨.initial, made, rfl, narrow, ?_⟩
  obtain ⟨changed, s₁, s₂, e₁, e₂, counted, -⟩ :=
    (allocate_then_upload .initial made rfl narrow).1 (by decide)
  exact ⟨changed, s₁, s₂, e₁, e₂, counted⟩

/-- **The last number was handed out, and one pixel is too much.** No texture is
there, but the one that the pixel takes cannot be made any more. -/
theorem pixel_without_number :
    let frame : VideoFrame := ⟨⟨.rgba, 1, 1, [⟨4, 1⟩]⟩, [⟨#[0, 0, 0, 255], 4⟩]⟩
    frame.Made ∧ frame.isEmpty = false ∧ frame.Narrow ∧
      ∃ s, Reached s ∧ (∀ i, s.1.slot? i = none) ∧ s.2.device.lastId + 1 = UInt32.size ∧
        ∃ fault, (ensureAllocated frame.format).outcome s = .error fault := by
  intro frame
  have made : frame.Made := @VideoFrame.Made.ofPlanes .rgba 1 1 [⟨#[0, 0, 0, 255], 4⟩] frame rfl
  obtain ⟨s, reached, empty, last⟩ := exists_reached (n := UInt32.size - 1) (by decide)
  have full : s.2.device.lastId + 1 = UInt32.size := by
    rw [last]
    rfl
  have one : s.1.missing frame.format = 1 :=
    (missing_of_empty empty frame.format).trans (by decide)
  exact ⟨made, rfl, by decide, s, reached, empty, full,
    breaks_without_numbers reached (one ▸ Nat.le_of_eq full.symm)⟩

end UploadEngine

end Projector
