import Projector.Proofs.Announcement
import Projector.Proofs.Coordinates
import Projector.Proofs.Scene

/-!
# The picture's rectangle

The picture's rectangle is worked out when something it depends on changes,
and is kept until then. It depends on the item, the wishes, the aspect that
the stream reports and the format, and each of them is changed in another
place. The rectangle is *current* if it is what would be worked out now.

In all but one of these places the rectangle is worked out anew. A release
empties the format, and the rectangle stays where the picture was, although
without a picture it would be the item. From then on it is not current until
something is changed. The overlay is drawn over that rectangle.
-/

namespace Projector

namespace Resolver

variable (r : Resolver Float32 Float)

/-- The rectangle does not depend on the one that was worked out before. -/
theorem frameRectIn_update (area : Rect Float32) :
    r.update.2.frameRectIn area = r.frameRectIn area := by
  rw [update_eq]
  rfl

/-- **The rectangle that is kept is the one that is worked out**, up to
comparison. -/
theorem alike_update : r.update.2.cached.Alike (r.frameRectIn r.itemRect) := by
  unfold update
  dsimp only
  split
  · exact .refl _
  · next same =>
    refine .of_beq (BEq.symm ?_)
    rw [← Bool.not_eq_false]
    exact fun other => same (congrArg not other)

end Resolver

namespace Scene

variable {s t : Scene}

/-- **The rectangle is current**: it is what would be worked out for the
item. -/
def Placed (s : Scene) : Prop :=
  s.geometry.cached.Alike (s.geometry.frameRectIn (.ofPosSize ⟨0, 0⟩ s.item.size))

theorem placed_initial : Placed initial := Rect.Alike.of_beq Rect.beq_self_zero

/-- A rectangle that was just worked out is current. -/
theorem Agrees.placed (agrees : s.Agrees) {geometry : Resolver Float32 Float}
    (h : s.geometry = geometry.update.2) : s.Placed := by
  have item : geometry.item = s.item.size := by
    rw [← agrees.item, h, Resolver.item_update]
  unfold Placed
  rw [h, Resolver.frameRectIn_update, ← item]
  exact geometry.alike_update

/-- **A small step works out the rectangle**, or leaves what it depends on. -/
theorem Change.placed_or (change : Change False s t) (agrees : s.Agrees) :
    t.Placed ∨ (t.Placed ↔ s.Placed) ∧ t.format = s.format ∧
      t.geometry.cached = s.geometry.cached := by
  have agrees' : t.Agrees := agrees.change change
  cases change with
  | resized | adjusted | shown => exact .inl (agrees'.placed rfl)
  | told | moved | laid => exact .inr ⟨.rfl, rfl, rfl⟩
  | followed may => exact may.elim

/-- **What is current stays current**, and what is not stays as it is until it
is worked out. -/
theorem Leads.placed_or (stale : VideoFormat → Rect Float32 → Prop) (leads : Leads False s t)
    (agrees : s.Agrees) (h : s.Placed ∨ stale s.format s.geometry.cached) :
    t.Placed ∨ stale t.format t.geometry.cached := by
  refine And.right (leads.keeps (p := fun s => s.Agrees ∧
    (s.Placed ∨ stale s.format s.geometry.cached)) ?_ ⟨agrees, h⟩)
  rintro s t change ⟨agrees, h⟩
  refine ⟨agrees.change change, ?_⟩
  obtain placed | ⟨placed, format, cached⟩ := change.placed_or agrees
  · exact .inl placed
  · rw [placed, format, cached]
    exact h

/-- A renderer is made with a current rectangle. -/
theorem placed_withConfig {δ : Type} (device : δ) (config : RendererConfig) :
    (Renderer.withConfig device config).scene.Placed := by
  have leads := Renderer.leads_withConfig device config
  have placed := leads.placed_or (fun _ _ => False) agrees_initial (.inl placed_initial)
  exact placed.resolve_right id

end Scene

namespace Renderer

variable {δ : Type}

/-- **The rectangle is current**: it is the one that would be worked out from
the state as it is. -/
def Placed (r : Renderer δ) : Prop := r.geometry.cached.Alike (r.geometry.frameRectIn r.overlayRect)

instance (r : Renderer δ) : Decidable r.Placed := inferInstanceAs (Decidable (Rect.Alike _ _))

/-- After a release the rectangle is current if it is the item. -/
theorem placed_release [Device δ] (r : Renderer δ) :
    r.release.Placed ↔ r.geometry.cached.Alike r.overlayRect := by
  show r.release.scene.Placed ↔ _
  rw [scene_release]
  rfl

end Renderer

/-- **A release that leaves the rectangle where the picture was**, away from the
item. -/
def Transition.Misplaces {δ : Type} (x : Transition δ) : Prop :=
  x.move = .ask .release ∧ ¬ x.before.geometry.cached.Alike x.before.overlayRect

namespace Run

variable {config : RendererConfig} {r r' : Renderer Recorder} {past : List (Transition Recorder)}

/-- On a recording device the geometry follows a format on its own at a release
only. -/
theorem follows_release {request : Request} {answer : Answer}
    (did : Transition.Did ⟨r, .ask request, answer, r'⟩) (follows : request.Follows answer) :
    request = .release := by
  obtain released | ⟨rfl, error, rfl⟩ := follows
  · exact released
  · cases did with
    | stored idle => cases idle
    | prepared _ answered =>
      obtain ⟨yes, he⟩ := answered
      cases he
    | rendered hx => cases hx
    | released hx => cases hx

/-- **The rectangle is current, or it is where a release has left it.** -/
theorem placed_or_misplaced (run : Run (.withConfig .initial config) past r)
    (proper : ∀ x ∈ past, x.Proper) : r.Placed ∨ r.format.isEmpty = true ∧
      ∃ x ∈ past, x.Misplaces ∧ r.geometry.cached = x.before.geometry.cached := by
  have fresh := Renderer.core_withConfig Recorder.initial config
  have placed := Scene.placed_withConfig Recorder.initial config
  have agrees {past : List (Transition Recorder)} {r : Renderer Recorder}
      (run : Run (.withConfig .initial config) past r) : r.scene.Agrees := run.agrees
  generalize Renderer.withConfig Recorder.initial config = start at *
  induction run with
  | start => exact .inl placed
  | @adjust past r run change ih =>
    obtain placed | ⟨empty, x, hx, misplaces⟩ := ih fun x hx => proper x (List.mem_cons_of_mem _ hx)
    · exact .inl placed
    · exact .inr ⟨empty, x, List.mem_cons_of_mem _ hx, misplaces⟩
  | @ask past r request answer r' run e ih =>
    have before := ih fun x hx => proper x (List.mem_cons_of_mem _ hx)
    have did := ((run.ask e).did fresh proper).2 _ List.mem_cons_self
    have leads := Renderer.perform_leads e
    by_cases released : request = .release
    · subst released
      cases e
      by_cases item : r.geometry.cached.Alike r.overlayRect
      · exact .inl (r.placed_release.2 item)
      · refine .inr ⟨?_, _, List.mem_cons_self, ⟨rfl, item⟩, ?_⟩
        · rw [show r.release.format = .empty from congrArg Scene.format r.scene_release]
          rfl
        · exact congrArg (fun s => s.geometry.cached) r.scene_release
    · have leads := leads.mono fun follows => released (follows_release did follows)
      refine leads.placed_or (fun format cached => format.isEmpty = true ∧
        ∃ x ∈ _ :: past, x.Misplaces ∧ cached = x.before.geometry.cached) (agrees run) ?_
      obtain placed | ⟨empty, x, hx, misplaces⟩ := before
      · exact .inl placed
      · exact .inr ⟨empty, x, List.mem_cons_of_mem _ hx, misplaces⟩

/-- A release was carried out. -/
theorem after_release {start : Renderer Recorder} (run : Run start past r) :
    ∀ x ∈ past, x.move = .ask .release → x.after = x.before.release := by
  induction run with
  | start => exact List.forall_mem_nil _
  | adjust run change ih => exact List.forall_mem_cons.2 ⟨nofun, ih⟩
  | ask run e ih =>
    refine List.forall_mem_cons.2 ⟨fun released => ?_, ih⟩
    cases released
    cases e
    rfl

/-- As long as no release misplaces it the rectangle is current. -/
theorem forall_placed (run : Run (.withConfig .initial config) past r)
    (proper : ∀ x ∈ past, x.Proper) (kept : ∀ x ∈ past, ¬ x.Misplaces) :
    ∀ x ∈ past, x.after.Placed := by
  -- after the last move of any run
  have last {past : List (Transition Recorder)} {r : Renderer Recorder}
      (run : Run (.withConfig .initial config) past r) (proper : ∀ x ∈ past, x.Proper)
      (kept : ∀ x ∈ past, ¬ x.Misplaces) : r.Placed := by
    obtain placed | ⟨-, x, hx, misplaces, -⟩ := run.placed_or_misplaced proper
    · exact placed
    · exact (kept x hx misplaces).elim
  generalize Renderer.withConfig Recorder.initial config = start at *
  induction run with
  | start => exact List.forall_mem_nil _
  | adjust run change ih =>
    have placed := last (run.adjust change) proper kept
    rw [List.forall_mem_cons] at proper kept ⊢
    exact ⟨placed, ih proper.2 kept.2⟩
  | ask run e ih =>
    have placed := last (run.ask e) proper kept
    rw [List.forall_mem_cons] at proper kept ⊢
    exact ⟨placed, ih proper.2 kept.2⟩

end Run

/-- **The picture's rectangle is current unless a release misplaces it.** It is
current after every move of a run if, and only if, there is no release in it
that leaves the rectangle away from the item. Where it is not current there is
no picture, and it is where such a release has left it. -/
theorem rectangle_current_unless_misplaced {config : RendererConfig}
    {past : List (Transition Recorder)} {r : Renderer Recorder}
    (run : Run (.withConfig .initial config) past r) (proper : ∀ x ∈ past, x.Proper) :
    ((∀ x ∈ past, x.after.Placed) ↔ ∀ x ∈ past, ¬ x.Misplaces) ∧
    (r.Placed ∨ r.format.isEmpty = true ∧
      ∃ x ∈ past, x.Misplaces ∧ r.geometry.cached = x.before.geometry.cached) := by
  refine ⟨⟨fun placed x hx misplaces => ?_, run.forall_placed proper⟩,
    run.placed_or_misplaced proper⟩
  obtain ⟨released, away⟩ := misplaces
  have current := placed x hx
  rw [run.after_release x hx released, Renderer.placed_release] at current
  exact away current

/-- A black bar is shown halfway down a square item. -/
def showBlackPixels : List Request :=
  [.resize ⟨0, 0, 2, 2⟩, .present .blackPixels true, .prepare]

theorem proper_showBlackPixels : ∀ request ∈ showBlackPixels, request.Proper := by
  unfold showBlackPixels
  simp only [List.forall_mem_cons]
  exact ⟨trivial, VideoFrame.made_blackPixels, trivial, List.forall_mem_nil _⟩

/-- The bar is where it would be placed now, after every move. -/
theorem rectangle_current_unless_misplaced_bar : ∃ past r,
    Run (.withConfig .initial .standard) past r ∧ (∀ x ∈ past, x.Proper) ∧
      past.map Transition.move = (showBlackPixels.map Move.ask).reverse ∧
      r.geometry.cached.y = half ∧ ∀ x ∈ past, x.after.Placed := by
  obtain ⟨past, r, run, proper, moves, found⟩ := Run.exists_carried (.withConfig .initial .standard)
    proper_showBlackPixels (fun r => r.geometry.cached.y = half) (by decide +kernel)
  have stays : ∀ x ∈ past, ¬ x.Misplaces := by
    rintro x hx ⟨released, -⟩
    have among : Move.ask .release ∈ past.map Transition.move := released ▸ List.mem_map_of_mem hx
    rw [moves] at among
    simp [showBlackPixels] at among
  exact ⟨past, r, run, proper, moves, of_decide_eq_true found,
    (rectangle_current_unless_misplaced run proper).1.2 stays⟩

/-- **A release leaves the rectangle where the picture was.** The item is a
square without a picture, and the overlay would be drawn over the bar. -/
theorem rectangle_left_by_release : ∃ past r,
    Run (.withConfig .initial .standard) past r ∧ (∀ x ∈ past, x.Proper) ∧
      past.map Transition.move = .ask .release :: (showBlackPixels.map Move.ask).reverse ∧
      r.format.isEmpty = true ∧ r.overlayRect.y = 0 ∧ r.geometry.cached.y = half ∧
      ¬ r.Placed := by
  have made : ∀ request ∈ showBlackPixels ++ [.release], request.Proper :=
    List.forall_mem_append.2 ⟨proper_showBlackPixels, List.forall_mem_singleton.2 trivial⟩
  obtain ⟨past, r, run, proper, moves, found⟩ := Run.exists_carried (.withConfig .initial .standard)
    made (fun r => r.format.isEmpty = true ∧ r.overlayRect.y = 0 ∧ r.geometry.cached.y = half ∧
      ¬ r.Placed) (by decide +kernel)
  exact ⟨past, r, run, proper, moves, of_decide_eq_true found⟩

end Projector
