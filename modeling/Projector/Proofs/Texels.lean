import Projector.Proofs.AllocateUpload

/-!
# Sizes and texels

Before it writes the first slot, an upload looks at the sizes of all the
textures. It does not look at their texels, and neither does the device: a
write is refused when a row of the texture has more bytes than a row of the
plane. So a frame of another type than the one that the textures were made
for may be refused after the look, and it may be taken.

If it is refused, then nothing was written. This is a fact about the table of
types: where the texels of one type are not wider than those of another one in
the first slot, they are not wider in any slot. A write that is refused is the
first one.

If it is taken, then its texels need not be those of the textures. Textures with
red first take a frame with blue first, and textures for three planes take a frame
whose chroma comes in pairs. `upload_judges_texels_iff` says when the answer of an
upload is one about texels.
-/

namespace Projector

/-- **Texels that are not wider in the first slot are not wider in any**, for a
type that has at least as many slots as the other one. -/
theorem PixelType.narrow_of_first (held wanted : PixelType)
    (fewer : wanted.layout.slots.length ≤ held.layout.slots.length)
    (first : ∀ a b, held.layout.slots[0]? = some a → wanted.layout.slots[0]? = some b →
      a.texel.bytes ≤ b.texel.bytes) {i : Nat} {a b : SlotLayout}
    (ha : held.layout.slots[i]? = some a) (hb : wanted.layout.slots[i]? = some b) :
    a.texel.bytes ≤ b.texel.bytes := by
  have head : ∀ x ∈ (held.layout.slots.zip wanted.layout.slots).head?,
      x.1.texel.bytes ≤ x.2.texel.bytes := by
    intro x hx
    rw [List.head?_eq_getElem?] at hx
    obtain ⟨hheld, hwanted⟩ := List.getElem?_zip_eq_some.1 hx
    exact first _ _ hheld hwanted
  have all : ∀ x ∈ held.layout.slots.zip wanted.layout.slots,
      x.1.texel.bytes ≤ x.2.texel.bytes := by
    clear first ha hb
    revert fewer head
    cases held <;> cases wanted <;> decide
  exact all (a, b) (List.mem_of_getElem? (List.getElem?_zip_eq_some.2 ⟨ha, hb⟩))

namespace UploadEngine

open Step Recorder

/-! ## What the textures were made for -/

/-- **What can be reached** like `Reached`, with textures made for formats of one
kind only. -/
inductive ReachedWith (kind : VideoFormat → Prop) : UploadEngine × Bench Recorder → Prop
  /-- Nothing was done. -/
  | initial : ReachedWith kind (.initial, .of .initial)
  /-- Textures were made for a format of the kind. -/
  | ensureAllocated {s t format answer} (h : ReachedWith kind s) (allowed : kind format)
      (e : (ensureAllocated format).outcome s = .ok (answer, t)) : ReachedWith kind t
  /-- A frame was uploaded, or refused. -/
  | upload {s t frame answer} (h : ReachedWith kind s)
      (e : (upload frame).outcome s = .ok (answer, t)) : ReachedWith kind t
  /-- The textures were dropped. -/
  | release {s} (h : ReachedWith kind s) : ReachedWith kind (release s)

theorem ReachedWith.reached {kind : VideoFormat → Prop} {s : UploadEngine × Bench Recorder}
    (h : ReachedWith kind s) : Reached s := by
  induction h with
  | initial => exact .initial
  | ensureAllocated _ _ e ih => exact .ensureAllocated ih e
  | upload _ e ih => exact .upload ih e
  | release _ ih => exact .release ih

theorem Reached.reachedWith {s : UploadEngine × Bench Recorder} (h : Reached s) :
    ReachedWith (fun _ => True) s := by
  induction h with
  | initial => exact .initial
  | ensureAllocated _ e ih => exact .ensureAllocated ih trivial e
  | upload _ e ih => exact .upload ih e
  | release _ ih => exact .release ih

/-- **The textures suit a format of the kind**, for kinds that the empty format
is of. -/
theorem ReachedWith.exists_suits {kind : VideoFormat → Prop} {s : UploadEngine × Bench Recorder}
    (h : ReachedWith kind s) (empty : kind .empty) : ∃ format, kind format ∧ s.1.Suits format := by
  induction h with
  | initial => exact ⟨_, empty, suits_empty slot?_initial⟩
  | @ensureAllocated _ _ format answer h allowed e _ =>
    have allocation := ensureAllocated_ends format h.reached.stocked
    cases answer with
    | ok changed => exact ⟨_, allowed, (allocation.of_ok e).suits⟩
    | error x => exact (allocation.of_error e).elim
  | @upload s t frame answer _ e ih =>
    obtain ⟨format, allowed, suits⟩ := ih
    have engine := upload_engine frame s
    have slots : t.1.slots = s.1.slots := by
      cases answer with
      | ok uploaded => rw [engine.of_ok e]
      | error x => rw [engine.of_error e]
    refine ⟨format, allowed, fun i => ?_⟩
    unfold slot?
    rw [slots]
    exact suits i
  | release _ _ => exact ⟨_, empty, suits_empty (slot?_release _)⟩

section Texels

variable {e : UploadEngine} {held format : VideoFormat}

/-- **Whether the textures take the bytes of a format**: they have the sizes of its
slots, and their texels are not wider. -/
def Accepts (e : UploadEngine) (format : VideoFormat) : Prop :=
  ∀ (i : Nat) layout, format.layout.slots[i]? = some layout → ∃ slot, e.slot? i = some slot ∧
    format.slotSize? i = some (slot.width, slot.height) ∧ slot.format.bytes ≤ layout.texel.bytes

/-- **Whether the textures are those that a format wants**, in each of its slots. -/
def Matches (e : UploadEngine) (format : VideoFormat) : Prop :=
  ∀ i < format.layout.slots.length, ∃ slot, e.slot? i = some slot ∧ Wanted format i slot

/-- **Textures of the right sizes take the bytes if the first one does.** -/
theorem Suits.accepts (suits : e.Suits held) (h : format.Formed)
    (sized : e.mismatch? format = none)
    (first : ∀ slot layout, e.slot? 0 = some slot → format.layout.slots[0]? = some layout →
      slot.format.bytes ≤ layout.texel.bytes) : e.Accepts format := by
  have sized := (mismatch?_eq_none_iff h).1 sized
  have fewer : format.layout.slots.length ≤ held.layout.slots.length := by
    refine Nat.le_of_not_lt fun more => ?_
    obtain ⟨slot, hslot, -⟩ := sized _ _ (List.getElem?_eq_getElem more)
    obtain ⟨layout, hlayout, -⟩ := suits.wanted hslot
    rw [List.getElem?_eq_none (Nat.le_refl _)] at hlayout
    cases hlayout
  intro i layout hi
  obtain ⟨slot, hslot, hsize⟩ := sized i layout hi
  obtain ⟨made, hmade, -, texel⟩ := suits.wanted hslot
  refine ⟨slot, hslot, hsize, ?_⟩
  rw [texel]
  refine PixelType.narrow_of_first _ _ fewer (fun a b ha hb => ?_) hmade hi
  obtain ⟨slot, hslot, -⟩ := sized 0 b hb
  obtain ⟨a', ha', -, texel⟩ := suits.wanted hslot
  cases ha.symm.trans ha'
  rw [← texel]
  exact first slot b hslot hb

end Texels

/-! ## What becomes of a frame -/

/-- **A frame of the right sizes is taken, or refused before anything was
written.** -/
theorem upload_sized_ends {s : UploadEngine × Bench Recorder} {held : VideoFormat}
    {frame : VideoFrame} (h : s.1.Stocked s.2.device) (suits : s.1.Suits held)
    (sound : frame.Sound) (picture : frame.isEmpty = false)
    (sized : s.1.mismatch? frame.format = none) :
    (upload frame).Ends s
      (fun uploaded t => uploaded = true ∧ s.1.Accepts frame.format ∧ Uploaded frame s t)
      (fun _ t => ¬ s.1.Accepts frame.format ∧ t = s)
      fun _ => ∃ slot, s.1.slot? 0 = some slot ∧
        UInt32.size ≤ slot.width * slot.format.bytes := by
  have hslots : frame.format.layout.slots.isEmpty = false := sound.slots_isEmpty.trans picture
  have admitted {i : Nat} {layout} (hi : frame.format.layout.slots[i]? = some layout) :=
    h.exists_admitted sized sound hi
  unfold upload
  rw [if_neg (by rw [picture, hslots]; decide)]
  simp only [ends_bind, ends_get, sized, Bench.ends_change, Bench.ends_note, ends_pure]
  obtain ⟨layout, layouts, hlayouts⟩ : ∃ layout layouts,
      frame.format.layout.slots = layout :: layouts :=
    List.exists_cons_of_ne_nil (List.isEmpty_eq_false_iff.1 hslots)
  have hfirst : frame.format.layout.slots[0]? = some layout := by
    rw [hlayouts]
    rfl
  obtain ⟨slot, plane, first⟩ := admitted hfirst
  by_cases narrow : slot.format.bytes ≤ layout.texel.bytes
  · have accepts : s.1.Accepts frame.format := by
      refine suits.accepts sound.formed sized fun slot' layout' hslot hlayout => ?_
      cases hslot.symm.trans first.known
      cases hlayout.symm.trans hfirst
      exact narrow
    refine (writeSlots_ends fun j layout hj => ?_).mono ?_ (fun _ _ => False.elim) fun _ =>
      False.elim
    · rw [Nat.zero_add]
      obtain ⟨slot, plane, admitted⟩ := admitted hj
      obtain ⟨slot', hslot, -, narrow⟩ := accepts j layout hj
      cases admitted.known.symm.trans hslot
      exact ⟨slot, plane, admitted, narrow⟩
    · rintro - t rfl
      exact ⟨trivial, accepts, rfl, rfl⟩
  · -- the first write is refused, so there is no second one
    rw [hlayouts]
    unfold writeSlots
    rw [ends_bind]
    refine first.writeSlot_ends.mono ?_ ?_ fun _ long => ⟨slot, first.known, long⟩
    · rintro - t ⟨narrow', -⟩
      exact absurd narrow' narrow
    · rintro x t ⟨-, rfl, -⟩
      refine ⟨fun accepts => narrow ?_, rfl⟩
      obtain ⟨slot', hslot, -, narrow⟩ := accepts 0 layout hfirst
      cases hslot.symm.trans first.known
      exact narrow

/-- **A row of a texture is a word** if it was made for a format made from
words. -/
theorem Suits.row_lt {e : UploadEngine} {held : VideoFormat} (suits : e.Suits held)
    (worded : held.Worded) {i : Nat} {slot : TextureSlot} (hs : e.slot? i = some slot) :
    slot.width * slot.format.bytes < UInt32.size := by
  obtain ⟨layout, hlayout, hsize, texel⟩ := suits.wanted hs
  obtain ⟨hsize', -⟩ := worded.formed.slot hlayout
  obtain ⟨hwidth, -⟩ := Prod.mk.inj (Option.some.inj (hsize.symm.trans hsize'))
  rw [hwidth, texel]
  exact Nat.lt_of_le_of_lt (Nat.div_mul_le_self _ _) (worded.byteWidth_lt _)

/-- **An upload is an answer about sizes and widths of texels**, for textures made
for formats that are made from words. -/
theorem upload_worded_ends {s : UploadEngine × Bench Recorder}
    (reached : ReachedWith VideoFormat.Worded s) {frame : VideoFrame} (sound : frame.Sound)
    (picture : frame.isEmpty = false) :
    (upload frame).Ends s (fun uploaded _ => uploaded = true ∧ s.1.Accepts frame.format)
      (fun _ t => ¬ s.1.Accepts frame.format ∧ t = s) fun _ => False := by
  obtain ⟨held, worded, suits⟩ := reached.exists_suits VideoFormat.worded_empty
  cases found : s.1.mismatch? frame.format with
  | none =>
    refine (upload_sized_ends reached.reached.stocked suits sound picture found).mono ?_
      (fun _ _ => id) ?_
    · exact fun _ _ ⟨yes, accepts, _⟩ => ⟨yes, accepts⟩
    · rintro - ⟨slot, hslot, long⟩
      exact absurd (suits.row_lt worded hslot) (Nat.not_lt_of_le long)
  | some x =>
    obtain ⟨i, expected, got⟩ := x
    obtain ⟨hi, unsized, -⟩ := mismatch?_eq_some sound.formed found
    refine (upload_mismatch_ends picture (sound.slots_isEmpty.trans picture) found).mono
      (fun _ _ => False.elim) ?_ fun _ => id
    rintro x t ⟨-, rfl⟩
    refine ⟨fun accepts => unsized ?_, rfl⟩
    obtain ⟨slot, hslot, hsize, -⟩ := accepts i _ (List.getElem?_eq_getElem hi)
    exact ⟨slot, hslot, hsize⟩

section Outcome

variable {s : UploadEngine × Bench Recorder} {frame : VideoFrame}

/-- Textures that take the bytes of a frame are filled. -/
theorem exists_taken (reached : ReachedWith VideoFormat.Worded s) (made : frame.Made)
    (picture : frame.isEmpty = false) (accepts : s.1.Accepts frame.format) :
    ∃ t, (upload frame).outcome s = .ok (.ok true, t) := by
  have ends := upload_worded_ends reached made.sound picture
  obtain ⟨-, t, e, rfl, -⟩ :=
    (ends.mono (fun _ _ => id) (fun _ _ refused => refused.1 accepts) fun _ => id).exists_ok
  exact ⟨t, e⟩

/-- Other ones are left. -/
theorem exists_refused (reached : ReachedWith VideoFormat.Worded s)
    (made : frame.Made) (picture : frame.isEmpty = false) (short : ¬ s.1.Accepts frame.format) :
    ∃ x, (upload frame).outcome s = .ok (.error x, s) := by
  have ends := upload_worded_ends reached made.sound picture
  obtain ⟨x, t, e, -, rfl⟩ :=
    (ends.mono (fun _ _ taken => short taken.2) (fun _ _ => id) fun _ => id).exists_error
  exact ⟨x, e⟩

end Outcome

/-! ## A refused upload -/

/-- Two pixels in one plane. -/
def packedPair : VideoFormat := ⟨.yuy2, 2, 1, [⟨4, 1⟩]⟩

theorem worded_packedPair : packedPair.Worded :=
  ⟨.yuy2, 2, 1, [], by decide, fun _ h => (nomatch h), rfl⟩

/-- Two pixels with their chroma in a plane of its own. -/
def semiPlanarPair : VideoFrame :=
  ⟨⟨.nv12, 2, 1, [⟨2, 1⟩, ⟨2, 1⟩]⟩, [⟨#[16, 16], 2⟩, ⟨#[128, 128], 2⟩]⟩

theorem made_semiPlanarPair : semiPlanarPair.Made :=
  @VideoFrame.Made.ofPlanes .nv12 2 1 semiPlanarPair.planes semiPlanarPair rfl

/-- The first slot for the pixels in one plane has texels of two bytes. -/
theorem Suits.not_accepts_semiPlanarPair {e : UploadEngine} (suits : e.Suits packedPair) :
    ¬ e.Accepts semiPlanarPair.format := by
  intro accepts
  obtain ⟨slot, hslot, -, narrow⟩ := accepts 0 _ rfl
  obtain ⟨slot', hslot', -, texel⟩ := suits.slot worded_packedPair.formed (i := 0) rfl
  cases hslot.symm.trans hslot'
  rw [texel] at narrow
  exact absurd narrow (by decide)

/-- **A refused upload changes nothing**, whatever the textures were made for: the
engine, the textures with their bytes, the recorded calls and the log are as they
were. If a slot of the frame's type has no texture of its size, then the upload
is refused, and the error names the first such slot, the size of its texture and
the size that it should have. -/
theorem refused_upload_changes_nothing {s : UploadEngine × Bench Recorder} (reached : Reached s)
    {frame : VideoFrame} (made : frame.Made) :
    (∀ x t, (upload frame).outcome s = .ok (.error x, t) → t = s) ∧
      ((∃ i < frame.format.layout.slots.length, ¬ s.1.Sized frame.format i) →
        ∃ i needed, i < frame.format.layout.slots.length ∧ ¬ s.1.Sized frame.format i ∧
          (∀ j < i, s.1.Sized frame.format j) ∧ frame.format.slotSize? i = some needed ∧
          (upload frame).outcome s =
            .ok (.error (.formatMismatch i (s.1.allocatedSize i) needed), s)) := by
  have sound := made.sound
  cases picture : frame.isEmpty with
  | true =>
    refine ⟨fun x t e => ((upload_empty_ends picture).of_error e).elim, ?_⟩
    rintro ⟨i, hi, -⟩
    rw [sound.isEmpty_iff.1 picture] at hi
    cases hi
  | false =>
    have hslots : frame.format.layout.slots.isEmpty = false := sound.slots_isEmpty.trans picture
    cases found : s.1.mismatch? frame.format with
    | none =>
      obtain ⟨held, -, suits⟩ := reached.reachedWith.exists_suits trivial
      have ends := upload_sized_ends reached.stocked suits sound picture found
      refine ⟨fun x t e => (ends.of_error e).2, ?_⟩
      rintro ⟨i, hi, unsized⟩
      have sized := (mismatch?_eq_none_iff sound.formed).1 found
      exact absurd (sized i _ (List.getElem?_eq_getElem hi)) unsized
    | some x =>
      obtain ⟨i, expected, got⟩ := x
      have ends := upload_mismatch_ends picture hslots found
      refine ⟨fun x t e => (ends.of_error e).2, fun _ => ?_⟩
      obtain ⟨hi, unsized, earlier, rfl, hneeded⟩ := mismatch?_eq_some sound.formed found
      obtain ⟨x, t, e, rfl, rfl⟩ := ends.exists_error
      exact ⟨i, got, hi, unsized, earlier, hneeded, e⟩

/-- The textures for two pixels in one plane refuse those in two planes, whose sizes
they have. Without textures the first slot is the one that is named. -/
theorem refused_upload_changes_nothing_pair :
    semiPlanarPair.Made ∧
      (∃ changed s x t, (ensureAllocated packedPair).outcome (.initial, .of .initial) =
          .ok (.ok changed, s) ∧ Reached s ∧
        (upload semiPlanarPair).outcome s = .ok (.error x, t) ∧ t = s) ∧
      (upload semiPlanarPair).outcome (initial, .of Recorder.initial) =
        .ok (.error (.formatMismatch 0 (0, 0) (2, 1)), initial, .of Recorder.initial) := by
  refine ⟨made_semiPlanarPair, ?_, ?_⟩
  · obtain ⟨changed, s, e, allocated⟩ := exists_first_textures packedPair
    have reached : ReachedWith _ s := .ensureAllocated .initial worded_packedPair e
    obtain ⟨x, refused⟩ := exists_refused reached made_semiPlanarPair rfl
      allocated.suits.not_accepts_semiPlanarPair
    exact ⟨changed, s, x, s, e, reached.reached, refused,
      (refused_upload_changes_nothing reached.reached made_semiPlanarPair).1 x s refused⟩
  · have unsized : ¬ initial.Sized semiPlanarPair.format 0 := by
      rintro ⟨slot, hslot, -⟩
      cases hslot
    obtain ⟨i, needed, -, -, earlier, hneeded, e⟩ :=
      (refused_upload_changes_nothing .initial made_semiPlanarPair).2 ⟨0, by decide, unsized⟩
    cases Nat.eq_zero_of_not_pos fun pos => unsized (earlier 0 pos)
    cases hneeded
    exact e

/-! ## Whether the texels are judged -/

/-- **What an upload should answer**: that the frame is in the textures only if they
have the sizes and the texels of its slots, and an error if they have not. -/
def JudgesTexels (s : UploadEngine × Bench Recorder) (frame : VideoFrame) : Prop :=
  (∀ t, (upload frame).outcome s = .ok (.ok true, t) → s.1.Matches frame.format) ∧
    (¬ s.1.Matches frame.format → ∃ x t, (upload frame).outcome s = .ok (.error x, t))

/-- **When an upload answers for the texels.** It takes a frame exactly if the
textures have the right sizes and no wider texels, and it refuses every other one.
So the answer is the right one exactly if textures that pass for this have the
right texels as well. -/
theorem upload_judges_texels_iff {s : UploadEngine × Bench Recorder}
    (reached : ReachedWith VideoFormat.Worded s) {frame : VideoFrame} (made : frame.Made)
    (picture : frame.isEmpty = false) :
    ((∃ t, (upload frame).outcome s = .ok (.ok true, t)) ↔ s.1.Accepts frame.format) ∧
      (¬ s.1.Accepts frame.format → ∃ x, (upload frame).outcome s = .ok (.error x, s)) ∧
      (JudgesTexels s frame ↔ (s.1.Accepts frame.format → s.1.Matches frame.format)) := by
  have taken := exists_taken reached made picture
  have refused := exists_refused reached made picture
  have accepts {t} (e : (upload frame).outcome s = .ok (.ok true, t)) :
      s.1.Accepts frame.format := ((upload_worded_ends reached made.sound picture).of_ok e).2
  refine ⟨⟨fun ⟨t, e⟩ => accepts e, taken⟩, refused, ?_, ?_⟩
  · rintro ⟨only, -⟩ accepts
    obtain ⟨t, e⟩ := taken accepts
    exact only t e
  · refine fun right => ⟨fun t e => right (accepts e), fun wrong => ?_⟩
    obtain ⟨x, e⟩ := refused fun accepts => wrong (right accepts)
    exact ⟨x, s, e⟩

/-- The textures for two pixels in one plane refuse those in two planes, as they
should. -/
theorem upload_judges_texels_pair :
    ∃ changed s, (ensureAllocated packedPair).outcome (.initial, .of .initial) =
        .ok (.ok changed, s) ∧ ReachedWith VideoFormat.Worded s ∧ semiPlanarPair.Made ∧
      semiPlanarPair.isEmpty = false ∧ JudgesTexels s semiPlanarPair := by
  obtain ⟨changed, s, e, allocated⟩ := exists_first_textures packedPair
  have reached : ReachedWith _ s := .ensureAllocated .initial worded_packedPair e
  refine ⟨changed, s, e, reached, made_semiPlanarPair, rfl, ?_⟩
  refine (upload_judges_texels_iff reached made_semiPlanarPair rfl).2.2.2 fun accepts => ?_
  exact absurd accepts allocated.suits.not_accepts_semiPlanarPair

/-- **Textures with blue first take a pixel with red first.** -/
theorem bgra_textures_take_rgba :
    let bgra : VideoFormat := ⟨.bgra, 1, 1, [⟨4, 1⟩]⟩
    let frame : VideoFrame := ⟨⟨.rgba, 1, 1, [⟨4, 1⟩]⟩, [⟨#[0, 0, 0, 255], 4⟩]⟩
    bgra.Worded ∧ frame.Made ∧ frame.isEmpty = false ∧
      ∃ changed s, (ensureAllocated bgra).outcome (.initial, .of .initial) =
          .ok (.ok changed, s) ∧ ReachedWith VideoFormat.Worded s ∧ ¬ JudgesTexels s frame := by
  intro bgra frame
  have worded : bgra.Worded := ⟨.bgra, 1, 1, [], by decide, fun _ h => (nomatch h), rfl⟩
  have made : frame.Made := @VideoFrame.Made.blank .rgba 1 1 frame (by decide) rfl
  obtain ⟨changed, s, e, allocated⟩ := exists_first_textures bgra
  have reached : ReachedWith _ s := .ensureAllocated .initial worded e
  refine ⟨worded, made, rfl, changed, s, e, reached, ?_⟩
  rintro ⟨only, -⟩
  obtain ⟨slot, known, size, texel⟩ := allocated.suits.slot worded.formed (i := 0) rfl
  have accepts : s.1.Accepts frame.format := by
    intro i layout hi
    cases i with
    | zero =>
      cases hi
      refine ⟨slot, known, size, ?_⟩
      rw [texel]
      decide
    | succ i => cases hi
  obtain ⟨t, taken⟩ := exists_taken reached made rfl accepts
  obtain ⟨slot', known', layout, hlayout, -, texel'⟩ := only t taken 0 (by decide)
  cases known.symm.trans known'
  cases hlayout
  cases texel.symm.trans texel'

end UploadEngine

end Projector
