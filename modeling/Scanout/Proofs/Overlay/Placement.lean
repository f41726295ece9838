import Scanout.Proofs.Geometry.Exact
import Scanout.Proofs.Overlay.Classification
import Scanout.Proofs.Overlay.History

/-!
# What becomes of a frame's rectangles

A frame is placed before the device is asked for anything on its behalf, so the rectangles alone
decide whether a presentation ends in a fault of arithmetic, is refused for them, or goes on. They
are the source as it is given and the destination in display pixels, however it came about. What
the later steps look up by index is there, since a descriptor holds only layouts that fit.
-/

namespace Scanout

structure FrameDescriptor.InBounds (d : FrameDescriptor) : Prop where
  layered : 0 < d.layers.length
  /-- A layer has a first plane. -/
  planed : ∀ layer ∈ d.layers, 0 < layer.planes.length
  /-- The planes of a framebuffer have slots in its layout. -/
  slotted : d.scanoutPlanes.length ≤ maxPlanes
  /-- The object of a plane is there, and has a slot in a set of handles. -/
  present : ∀ p ∈ d.scanoutPlanes, p.object < d.objects.length ∧ p.object < maxPlanes

theorem FrameDescriptor.inBounds (d : FrameDescriptor) : d.InBounds where
  layered := d.layers_allowed.1
  planed layer member := (d.layers_fit layer member).1.1
  slotted := by
    unfold scanoutPlanes
    split
    · rename_i layer single
      exact (d.layers_fit layer (by simp [single])).1.2
    · exact Nat.le_trans (List.length_filterMap_le _ _) d.layers_allowed.2
  present p member :=
    ⟨scanoutPlanes_fit member, Nat.lt_of_lt_of_le (scanoutPlanes_fit member) d.objects_allowed.2⟩

namespace PlaneGeometry

/-- What two rectangles do to the call that is to show the one at the other. -/
structure Governs (src dst : Rect) (outcome : Except Fault Unit) : Prop where
  /-- A fault of arithmetic is a difference of coordinates that is not a word. -/
  arithmetic_iff : ∀ fault, outcome = .error (.arithmetic fault) ↔
    fault = .subtraction ∧ Overflows src dst
  /-- Without one, the call returns. -/
  returns : ¬Overflows src dst → outcome = .ok () ∨ ∃ error, outcome = .error (.refused error)
  invalidFrame_iff : (∃ error, outcome = .error (.refused error) ∧ error.kind = .invalidFrame) ↔
    ¬Overflows src dst ∧ ¬Showable src dst

end PlaneGeometry

namespace Overlay

open Display Proc PlaneGeometry

/-- Rectangles that can be shown leave the outcome to the image and to the device, and neither finds
the frame unusable. -/
theorem governs_of_showable {src dst : Rect} (fits : ¬Overflows src dst)
    (showable : Showable src dst) {outcome : Except Fault Unit}
    (returned : outcome = .ok () ∨
      ∃ error, outcome = .error (.refused error) ∧ error.kind ≠ .invalidFrame) :
    Governs src dst outcome := by
  obtain rfl | ⟨error, rfl, kind⟩ := returned
  · constructor <;> simp [fits, showable]
  · constructor <;> simp [fits, showable, kind]

theorem Decided.governs {strategy : CommitStrategy} {src dst : Rect} {align : Alignment}
    {placed : Except Fault PlaneGeometry} {image : Image} {events : List (Event interface)}
    {outcome : Except Fault Unit}
    (decided : Decided strategy placed image events outcome)
    (verdict : Verdict src dst align placed) : Governs src dst outcome := by
  obtain ⟨rfl, overflow⟩ | ⟨error, rfl, kind, fits, refused⟩ | ⟨geometry, rfl, -, fits, showable⟩ :=
    verdict.trichotomy
  · cases decided with
    | misplaced placed_eq =>
      cases placed_eq
      constructor <;> simp [overflow, eq_comm]
    | unformatted placed_eq | unacquired placed_eq | unsubmitted placed_eq | shown placed_eq =>
      cases placed_eq
  · cases decided with
    | misplaced placed_eq =>
      cases placed_eq
      constructor <;> simp [fits, refused, kind]
    | unformatted placed_eq | unacquired placed_eq | unsubmitted placed_eq | shown placed_eq =>
      cases placed_eq
  · refine governs_of_showable fits showable ?_
    cases decided with
    | misplaced placed_eq => cases placed_eq
    | unformatted _ formatted =>
      have kind := FrameDescriptor.scanoutFormat_error formatted
      exact .inr ⟨_, rfl, by simp [kind]⟩
    | unacquired _ _ _ _ kind => exact .inr ⟨_, rfl, by simp [kind]⟩
    | unsubmitted _ _ _ _ kind => exact .inr ⟨_, rfl, by simp [kind]⟩
    | shown => exact .inl rfl

namespace Sample

open Simulation

def showingPart (src : Rect) : List (Event interface) × Presentation :=
  let result := (created.present (some image) src area .empty).run DisplayDevice.answer device
  (result.1, result.2.1)

theorem showingPart_runs (src : Rect) :
    (created.present (some image) src area .empty).Runs (showingPart src).1 (showingPart src).2 :=
  runs_run (I := interface) DisplayDevice.answer (created.present (some image) src area .empty) device

theorem created_reachable : Reachable config created :=
  ⟨[.create], creation, .next .start (.created creation_runs)⟩

end Sample

namespace Manager

variable {config : Config} {m : Manager} {image : Image} {src dst : Rect} {batch : Batch}
  {events : List (Event interface)} {p : Presentation}

/-- Where a presentation has placed its destination: it knew the display's size that it leaves. -/
def placedAt (m : Manager) (p : Presentation) (dst : Rect) : Rect :=
  (m.withDisplaySize p.manager.displaySize).destination dst

/-- At any time, on any grid, showing a frame ends in a fault only where a difference of coordinates
is not a word, of its source or of the destination it was placed at. Otherwise the call returns, and
refuses the frame as unusable exactly where its rectangles cannot be shown. -/
theorem present_faults_iff {origin extent : UInt32}
    (grid : Alignment.ofGrid origin extent = .ok config.alignment) (reachable : Reachable config m)
    (run : (m.present (some image) src dst batch).Runs events p) :
    Governs src (m.placedAt p dst) p.outcome ∧ image.descriptor.InBounds := by
  refine ⟨?_, image.descriptor.inBounds⟩
  obtain ⟨acts, past, life⟩ := reachable
  have sound := life.sound m rfl
  obtain ⟨originPower, extentPower, align⟩ := Alignment.ofGrid_eq_ok.mp grid
  have decided := (presentSome_runs run).decided
  have verdict := ofRects_verdict ⟨origin, extent⟩ originPower extentPower src
    (m.placedAt p dst)
  rw [← align, ← sound.config_eq] at verdict
  exact decided.governs verdict

/-- A source without pixels is refused, on a manager that was just created. -/
theorem present_faults_iff_empty :
    Alignment.ofGrid 2 2 = .ok Sample.config.alignment ∧ Reachable Sample.config Sample.created ∧
      (Sample.created.present (some Sample.image) default Sample.area .empty).Runs
        (Sample.showingPart default).1 (Sample.showingPart default).2 ∧
      Governs default (Sample.created.placedAt (Sample.showingPart default).2 Sample.area)
        (Sample.showingPart default).2.outcome ∧
      (Sample.showingPart default).2.outcome = .error (.refused (.badSource default)) := by
  have grid : Alignment.ofGrid 2 2 = .ok Sample.config.alignment := by decide
  have run := Sample.showingPart_runs default
  exact ⟨grid, Sample.created_reachable, run,
    (present_faults_iff grid Sample.created_reachable run).1, rfl⟩

/-- A source whose width is not a word is not refused: asking for its width is a fault. -/
theorem present_faults_wide :
    Alignment.ofGrid 2 2 = .ok Sample.config.alignment ∧ Reachable Sample.config Sample.created ∧
      (Sample.created.present (some Sample.image) ⟨-2147483648, 0, 2147483647, 1080⟩ Sample.area
        .empty).Runs (Sample.showingPart ⟨-2147483648, 0, 2147483647, 1080⟩).1
        (Sample.showingPart ⟨-2147483648, 0, 2147483647, 1080⟩).2 ∧
      (Sample.showingPart ⟨-2147483648, 0, 2147483647, 1080⟩).2.outcome
        = .error (.arithmetic .subtraction) :=
  ⟨by decide, Sample.created_reachable, Sample.showingPart_runs _, rfl⟩

end Manager

end Overlay

end Scanout
