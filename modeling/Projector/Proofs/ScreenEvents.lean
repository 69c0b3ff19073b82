import Mathlib.Data.List.Chain
import Projector.Proofs.Coordinates
import Projector.Proofs.Recorded
import Projector.Proofs.Scene

/-!
# Who is told of the visible part

Layout code follows the visible part and the offset by what it is told, so the
events have to be *exact*. An event tells of a change: what it tells is not
what was told before. And there is no change without an event: what was told
last is what is so.

For the visible part, to be so is to be found equal, and a coordinate that is
no number is equal to nothing. An item that is no number would thus be told of
with every pass, and what was told would never be so, but for one thing: the
visible part is made of what was found smaller and larger, and that is always
a number.
-/

namespace Projector

/-! ## A record of changes -/

/-- **An exact record of what a value has been** since it was `first`. -/
structure Tracks {α : Type} [BEq α] (first : α) (told : List α) (now : α) : Prop where
  /-- Each entry is another one than the entry before, and the first of them
  is another one than the first value. -/
  changes : (first :: told).IsChain fun a b => (a == b) = false
  /-- The last entry is the value that is there, or the first value is if
  there are no entries. -/
  last : (told.getLast?.getD first == now) = true

namespace Tracks

variable {α : Type} [BEq α] {first now next : α} {told : List α}

theorem start (self : (first == first) = true) : Tracks first [] first :=
  ⟨.singleton first, self⟩

variable [PartialEquivBEq α]

/-- **Another value is recorded.** -/
theorem change (h : Tracks first told now) (other : (next == now) = false)
    (self : (next == next) = true) : Tracks first (told ++ [next]) next := by
  refine ⟨?_, ?_⟩
  · rw [← List.cons_append]
    refine h.changes.append (.singleton next) fun a ha b hb => ?_
    cases hb
    rw [List.getLast?_cons] at ha
    cases ha
    -- the last entry is the value that was there
    refine Bool.eq_false_iff.2 fun same => ?_
    rw [BEq.trans (BEq.symm same) h.last] at other
    cases other
  · rw [List.getLast?_concat]
    exact self

/-- **The same value is not recorded again.** -/
theorem stay (h : Tracks first told now) (same : (next == now) = true) : Tracks first told next :=
  ⟨h.changes, BEq.trans h.last (BEq.symm same)⟩

end Tracks

/-! ## What is told -/

/-- The visible part that an event tells of. -/
def RenderEvent.screen? : RenderEvent → Option (Rect Float32)
  | screenRectChanged rect => some rect
  | _ => none

/-- The offset that an event tells of. -/
def RenderEvent.offset? : RenderEvent → Option Offset
  | offsetChanged offset => some offset
  | _ => none

instance Offset.instLawfulBEq : LawfulBEq Offset where
  eq_of_beq {a b} same := by
    obtain ⟨across, down⟩ := (Bool.and_eq_true _ _).mp same
    exact congrArg₂ Point.mk (eq_of_beq across) (eq_of_beq down)
  rfl {a} := (Bool.and_eq_true _ _).mpr ⟨beq_self_eq_true a.x, beq_self_eq_true a.y⟩

namespace Scene

variable {s t : Scene}

/-- The visible parts that layout code was told of, the first one first. -/
def screens (s : Scene) : List (Rect Float32) := s.events.toList.filterMap RenderEvent.screen?

/-- The offsets that layout code was told of. -/
def offsets (s : Scene) : List Offset := s.events.toList.filterMap RenderEvent.offset?

theorem screens_push (s : Scene) (geometry : Resolver Float32 Float) (e : RenderEvent) :
    Scene.screens { s with geometry, events := s.events.push e } =
      s.screens ++ e.screen?.toList :=
  RenderEvent.filterMap_push _ _ _

theorem offsets_push (s : Scene) (geometry : Resolver Float32 Float) (e : RenderEvent) :
    Scene.offsets { s with geometry, events := s.events.push e } =
      s.offsets ++ e.offset?.toList :=
  RenderEvent.filterMap_push _ _ _

/-- **What layout code was told is so.** -/
structure Told (s : Scene) : Prop where
  /-- It was told of every other visible part, -/
  screens : Tracks Rect.zero s.screens s.geometry.screen
  /-- and of every other offset. -/
  offsets : Tracks ⟨0, 0⟩ s.offsets s.geometry.offset

theorem told_initial : Told initial := ⟨.start Rect.beq_self_zero, .start rfl⟩

/-- What is told of something else is nothing new. -/
theorem Told.congr (h : s.Told) (screens : t.screens = s.screens) (offsets : t.offsets = s.offsets)
    (letterbox : t.geometry.letterbox = s.geometry.letterbox)
    (offset : t.geometry.offset = s.geometry.offset) : t.Told := by
  have screen : t.geometry.screen = s.geometry.screen := congrArg Letterbox.screen letterbox
  refine ⟨?_, ?_⟩
  · rw [screens, screen]
    exact h.screens
  · rw [offsets, offset]
    exact h.offsets

/-- **A pass that is laid out tells of the visible part** if it is another
one. -/
theorem Told.lay (h : s.Told) (effects : Effects) : (s.lay effects).Told := by
  unfold Scene.lay
  cases hu : s.geometry.updateVertex effects with
  | mk update geometry =>
  cases hu
  -- whatever the item and the wishes are, the visible part is equal to itself
  have self := fun bounds video => Letterbox.beq_self_screen bounds video
  dsimp only
  split
  · next other =>
    refine ⟨?_, ?_⟩
    · rw [screens_push]
      exact h.screens.change ((Bool.not_eq_true' _).mp other) (self _ _)
    · rw [offsets_push]
      exact (List.append_nil s.offsets).symm ▸ h.offsets
  · next same =>
    refine ⟨h.screens.stay ?_, h.offsets⟩
    exact (Bool.not_eq_false' _).mp (Bool.eq_false_iff.2 same)

/-- **What layout code was told stays so.** -/
theorem Told.change {follows : Prop} (change : Change follows s t) (h : s.Told) : t.Told := by
  cases change with
  | resized => exact h.congr rfl rfl (Resolver.letterbox_update _) (Resolver.offset_update _)
  | adjusted _ geometry _ _ offset letterbox =>
    exact h.congr rfl rfl ((Resolver.letterbox_update _).trans letterbox)
      ((Resolver.offset_update _).trans offset)
  | shown => exact h.congr rfl rfl (Resolver.letterbox_update _) (Resolver.offset_update _)
  | told _ format =>
    refine h.congr ?_ ?_ rfl rfl
    · exact (screens_push s s.geometry _).trans (List.append_nil _)
    · exact (offsets_push s s.geometry _).trans (List.append_nil _)
  | moved _ offset other =>
    refine ⟨?_, ?_⟩
    · rw [screens_push]
      exact (List.append_nil s.screens).symm ▸ h.screens
    · rw [offsets_push]
      have other : (s.geometry.offset == offset) = false := (Bool.not_eq_true' _).mp other
      exact h.offsets.change ((BEq.comm ..).trans other) BEq.rfl
  | laid _ effects => exact h.lay effects
  | followed => exact h.congr rfl rfl rfl rfl

end Scene

/-- **The events of the visible part and of the offset are exact**, on any
device and after any requests, whatever was answered. No event tells of what
was told before or, if nothing was, of what a new renderer has. What was told
last is so. -/
theorem screen_and_offset_events_exact {δ : Type} [Device δ] {device : δ}
    {config : RendererConfig} {past : List (Transition δ)} {r : Renderer δ}
    (run : Run (.withConfig device config) past r) :
    Tracks Rect.zero r.scene.screens r.geometry.screen ∧
      Tracks ⟨0, 0⟩ r.scene.offsets r.geometry.offset := by
  have told : r.scene.Told := run.scene Scene.told_initial fun _ _ => Scene.Told.change
  exact ⟨told.screens, told.offsets⟩

/-- A box is moved by half, a pass is drawn, and then the item is no number
for two passes. -/
def moveAndLose : List Request :=
  [.setOffset ⟨50, 0⟩, .resize ⟨0, 0, 2, 2⟩, .render, .resize ⟨0, 0, 0 / 0, 2⟩, .render, .render]

/-- One event tells of the visible half, and one that nothing is visible. -/
theorem screen_and_offset_events_exact_lost : ∃ past r,
    Run (.withConfig Recorder.initial .standard) past r ∧
      past.map Transition.move = (moveAndLose.map Move.ask).reverse ∧
      r.scene.screens.map Rect.x = [1, 0] ∧ r.scene.offsets = [⟨50, 0⟩] ∧
      r.item.width.isNaN = true ∧ Tracks Rect.zero r.scene.screens r.geometry.screen ∧
      Tracks ⟨0, 0⟩ r.scene.offsets r.geometry.offset := by
  have made : ∀ request ∈ moveAndLose, request.Proper := by
    unfold moveAndLose
    simp only [List.forall_mem_cons]
    exact ⟨trivial, trivial, trivial, trivial, trivial, trivial, List.forall_mem_nil _⟩
  obtain ⟨past, r, run, -, moves, found⟩ := Run.exists_carried (.withConfig .initial .standard) made
    (fun r => decide (r.scene.screens.map Rect.x = [1, 0]) && (r.scene.offsets == [⟨50, 0⟩]) &&
      r.item.width.isNaN) (by decide +kernel)
  rw [Bool.and_eq_true, Bool.and_eq_true, decide_eq_true_iff, beq_iff_eq] at found
  obtain ⟨⟨screens, offsets⟩, lost⟩ := found
  obtain ⟨visible, moved⟩ := screen_and_offset_events_exact run
  exact ⟨past, r, run, moves, screens, offsets, lost, visible, moved⟩

end Projector
