import Scanout.Proofs.Overlay.Acquisition
import Scanout.Proofs.Overlay.Signalling

/-!
# One picture by either strategy

A commit carries the plane's state as writes of 64 bits, a plane update as two rectangles. Both are
made from the same framebuffer and the same geometry, which a presentation comes by in the same way,
so the plane is put in the same state, and what fails before the submission fails the same.
-/

namespace Scanout

open Display Proc

/-- The writes put a plane where a plane update puts it: each property of the plane's state is
written once. Coordinates that can be negative are read as signed numbers. -/
structure Batch.Mirrors (writes : Batch) (update : PlaneUpdate) : Prop where
  framebuffer : ∃ f, update.framebuffer = some f ∧
    writes.valuesOf (.plane update.plane) Property.fbId = [f.id.toUInt64]
  crtc : writes.valuesOf (.plane update.plane) Property.crtcId = [update.crtc.toUInt64]
  srcX : writes.valuesOf (.plane update.plane) Property.srcX = [update.srcRect.x.toUInt64]
  srcY : writes.valuesOf (.plane update.plane) Property.srcY = [update.srcRect.y.toUInt64]
  srcW : writes.valuesOf (.plane update.plane) Property.srcW = [update.srcRect.w.toUInt64]
  srcH : writes.valuesOf (.plane update.plane) Property.srcH = [update.srcRect.h.toUInt64]
  crtcX : ∃ x, writes.valuesOf (.plane update.plane) Property.crtcX = [x] ∧
    x.toInt64.toInt = update.crtcRect.x.toInt
  crtcY : ∃ y, writes.valuesOf (.plane update.plane) Property.crtcY = [y] ∧
    y.toInt64.toInt = update.crtcRect.y.toInt
  crtcW : writes.valuesOf (.plane update.plane) Property.crtcW = [update.crtcRect.w.toUInt64]
  crtcH : writes.valuesOf (.plane update.plane) Property.crtcH = [update.crtcRect.h.toUInt64]

namespace Overlay

theorem toInt_signExtended (v : Int32) : v.toInt64.toUInt64.toInt64.toInt = v.toInt := by
  rw [Int64.toInt64_toUInt64, Int32.toInt_toInt64]

theorem frameWrites_mirrors (m : Manager) (color : Color) (f : FramebufferId) (handles : HandleSet)
    (geometry : PlaneGeometry) (session : HdrSession) :
    (m.frameWrites color ⟨some f, handles, none⟩ geometry session).Mirrors
      (showUpdate m.config.targets (some f) geometry) := by
  have once {name : String} {value : UInt64}
      (member : ⟨.plane m.config.targets.videoPlane, name, value⟩
        ∈ (planeWrites m.config f.id geometry).writes) (other : name ∉ colorProperties) :
      (m.frameWrites color ⟨some f, handles, none⟩ geometry session).valuesOf
        (.plane m.config.targets.videoPlane) name = [value] := by
    rw [frameWrites_of_plane _ other]
    exact Batch.valuesOf_of_mem (planeWrites_nodup _ _ _) member
  exact {
    framebuffer := ⟨f, rfl, once (by simp [planeWrites]) (by decide)⟩
    crtc := once (by simp [planeWrites, showUpdate]) (by decide)
    srcX := once (by simp [planeWrites, showUpdate]) (by decide)
    srcY := once (by simp [planeWrites, showUpdate]) (by decide)
    srcW := once (by simp [planeWrites, showUpdate]) (by decide)
    srcH := once (by simp [planeWrites, showUpdate]) (by decide)
    crtcX := ⟨_, once (by simp [planeWrites]) (by decide), toInt_signExtended geometry.crtcX⟩
    crtcY := ⟨_, once (by simp [planeWrites]) (by decide), toInt_signExtended geometry.crtcY⟩
    crtcW := once (by simp [planeWrites, showUpdate]) (by decide)
    crtcH := once (by simp [planeWrites, showUpdate]) (by decide) }

namespace Manager

variable {m left : Manager} {color : Color} {g : Generation} {geometry : PlaneGeometry}
  {batch submission : Batch} {events : List (Event interface)}

theorem Submits.writes (submitted : Submits m color g geometry batch events left (.ok submission))
    (atomic : m.config.strategy = .atomic) :
    ∃ session, submission = batch.append (m.frameWrites color g geometry session) := by
  cases submitted with
  | staged | opened => exact ⟨_, rfl⟩
  | updated legacy => cases atomic.symm.trans legacy

theorem Submits.update (submitted : Submits m color g geometry batch events left (.ok submission))
    (legacy : m.config.strategy = .legacy) :
    submission = batch ∧ stepsOf events
      = [.answered (.setPlane (showUpdate m.config.targets g.framebuffer geometry)) (.ok ())] := by
  cases submitted with
  | staged atomic | opened atomic => cases atomic.symm.trans legacy
  | updated => exact ⟨rfl, by rw [stepsOf_append, stepsOf_skipReport]; rfl⟩

/-- Where frames are shown by plane updates, a batch is left as it is. -/
theorem batch_eq_of_legacy (legacy : m.config.strategy = .legacy) {image : Option Image}
    {src dst : Rect} {p : Presentation} (run : (m.present image src dst batch).Runs events p) :
    p.batch = batch := by
  cases image with
  | none =>
    obtain ⟨-, rfl⟩ := presentNone_runs run
    simp only [resetBatch, legacy]
  | some image =>
    obtain ⟨calls, result, -, ends⟩ := (presentSome_runs run).acquires
    cases ends with
    | stopped _ _ unchanged => exact unchanged
    | @submitted _ _ _ _ outcome submitted _ _ batch_eq =>
      cases outcome with
      | error e => exact batch_eq
      | ok submission => exact batch_eq.trans (submitted.update legacy).1

section Ending

variable {other : Manager} {image : Image} {own : Batch} {calls others : List (Event interface)}
  {p q : Presentation} {result : Except Fault Acquired} {acquired : Acquired}

/-- Short of the submission, presentations that have come by the same fail the same. -/
theorem Ends.refused_iff (first : m.Ends image batch calls events p result)
    (second : other.Ends image own calls others q result) {fault : Fault}
    (early : fault.kind? ≠ some .commit) : p.outcome = .error fault ↔ q.outcome = .error fault := by
  cases result with
  | error refusal =>
    cases first with
    | stopped _ outcome =>
      cases second with
      | stopped _ outcomeToo => rw [outcome, outcomeToo]
  | ok acquired =>
    exact iff_of_false (fun failed => early (first.outcome_of_acquired failed))
      (fun failed => early (second.outcome_of_acquired failed))

theorem Ends.acquired_of_shown (ends : m.Ends image batch calls events p result)
    (shown : p.outcome = .ok ()) : ∃ acquired, result = .ok acquired := by
  cases ends with
  | stopped _ failed => cases shown.symm.trans failed
  | submitted acquired => exact ⟨acquired, rfl⟩

/-- What a commit is to show is what an update of the plane would show. -/
theorem Ends.mirrors (ends : m.Ends image batch calls events p (.ok acquired))
    (atomic : m.config.strategy = .atomic) (shown : p.outcome = .ok ()) :
    ∃ writes, p.batch = batch.append writes ∧ writes.Mirrors
      (showUpdate m.config.targets (some acquired.framebuffer) acquired.geometry) := by
  cases ends with
  | @submitted _ _ size _ outcome submitted _ outcome_eq batch_eq =>
    cases outcome with
    | error e => cases shown.symm.trans outcome_eq
    | ok submission =>
      obtain ⟨session, rfl⟩ := submitted.writes atomic
      exact ⟨_, batch_eq, frameWrites_mirrors (m.ready size) image.color acquired.framebuffer
        acquired.handles acquired.geometry session⟩

theorem Ends.updates (ends : m.Ends image batch calls events p (.ok acquired))
    (legacy : m.config.strategy = .legacy) (shown : p.outcome = .ok ()) :
    stepsOf events = calls ++ [.answered (.setPlane
      (showUpdate m.config.targets (some acquired.framebuffer) acquired.geometry)) (.ok ())] := by
  cases ends with
  | @submitted _ _ _ _ outcome submitted steps outcome_eq =>
    cases outcome with
    | error e => cases shown.symm.trans outcome_eq
    | ok submission =>
      rw [steps, (submitted.update legacy).2]
      rfl

end Ending

end Manager

/-- A frame that was presented twice, once for a commit and once by a plane update, is shown the
same way or is refused for the same reason. -/
structure SamePicture (targets : Targets) (batch : Batch) (byCommit byUpdate : List (Event interface))
    (committed updated : Presentation) : Prop where
  acquisitions_eq : acquisitionsOf byCommit = acquisitionsOf byUpdate
  /-- Short of the submission, the one fails as the other does. -/
  refused_iff : ∀ fault, fault.kind? ≠ some .commit →
    (committed.outcome = .error fault ↔ updated.outcome = .error fault)
  shown : committed.outcome = .ok () → updated.outcome = .ok () →
    ∃ imports layout f update writes,
      acquisitionsOf byUpdate = imports ++ [.answered (.addFramebuffer layout) (.ok f)] ∧
      stepsOf byUpdate = acquisitionsOf byUpdate ++ [.answered (.setPlane update) (.ok ())] ∧
      update.plane = targets.videoPlane ∧ update.crtc = targets.crtc ∧
      update.framebuffer = some f ∧ committed.batch = batch.append writes ∧ writes.Mirrors update

/-- Two managers that differ in their strategy show the same picture of a frame, if the display's
size is the same to both and the device answers their imports and framebuffers the same. By plane
updates no call changes a batch. -/
theorem strategies_show_same_picture (config : Config) {atomic legacy : Manager}
    (byAtomic : atomic.config = { config with strategy := .atomic })
    (byLegacy : legacy.config = { config with strategy := .legacy })
    {image : Image} {src dst : Rect} {batch own : Batch}
    {byCommit byUpdate : List (Event interface)} {committed updated : Presentation}
    (committing : (atomic.present (some image) src dst batch).Runs byCommit committed)
    (updating : (legacy.present (some image) src dst own).Runs byUpdate updated)
    (size : committed.manager.displaySize = updated.manager.displaySize)
    (same : SameAnswers (acquisitionsOf byCommit) (acquisitionsOf byUpdate)) :
    SamePicture config.targets batch byCommit byUpdate committed updated ∧
      ∀ (image : Option Image) (src dst : Rect) (before : Batch) (events : List (Event interface))
        (p : Presentation), (legacy.present image src dst before).Runs events p → p.batch = before := by
  have legacy_eq : legacy.config.strategy = .legacy := by rw [byLegacy]
  refine ⟨?_, fun _ _ _ _ _ _ run => Manager.batch_eq_of_legacy legacy_eq run⟩
  obtain ⟨calls, result, acquires, ends⟩ := (Manager.presentSome_runs committing).acquires
  obtain ⟨others, other, acquiresToo, endsToo⟩ := (Manager.presentSome_runs updating).acquires
  have calls_eq := ends.acquisitionsOf_eq acquires.acquisitionsOf_eq
  have others_eq := endsToo.acquisitionsOf_eq acquiresToo.acquisitionsOf_eq
  have place_eq : (legacy.resumed.withDisplaySize updated.manager.displaySize).place src dst
      = (atomic.resumed.withDisplaySize updated.manager.displaySize).place src dst :=
    Manager.place_congr (by simp [Manager.resumed, byAtomic, byLegacy])
      (by simp [Manager.resumed, byAtomic, byLegacy]) _
  rw [size, ← place_eq] at acquires
  rw [calls_eq, others_eq, ← List.append_nil calls, ← List.append_nil others] at same
  -- Both have come by the same framebuffer, or have failed to for the same reason.
  obtain ⟨rfl, rfl, -⟩ := acquires.agree acquiresToo same
  refine ⟨calls_eq.trans others_eq.symm, fun fault early => ends.refused_iff endsToo early,
    fun shown shownToo => ?_⟩
  obtain ⟨acquired, rfl⟩ := ends.acquired_of_shown shown
  obtain ⟨imports, layout, made⟩ := acquires.framebuffer_made
  obtain ⟨writes, batch_eq, mirrors⟩ :=
    ends.mirrors (show atomic.config.strategy = .atomic by rw [byAtomic]) shown
  have steps := endsToo.updates legacy_eq shownToo
  rw [show atomic.resumed.config = { config with strategy := .atomic } from byAtomic] at mirrors
  rw [show legacy.resumed.config = { config with strategy := .legacy } from byLegacy] at steps
  exact ⟨imports, layout, acquired.framebuffer, _, writes, others_eq.trans made,
    by rw [steps, others_eq], rfl, rfl, rfl, batch_eq, mirrors⟩

/-- A frame that begins left of the display and above it. -/
theorem strategies_show_same_picture_off_screen :
    ∃ byCommit byUpdate committed updated,
      (Sample.created.present (some Sample.image) Sample.area ⟨-16, -8, 1904, 1072⟩ .empty).Runs
        byCommit committed ∧
      ((Manager.fresh { Sample.config with strategy := .legacy } (some ⟨1920, 1080⟩) .silent).present
        (some Sample.image) Sample.area ⟨-16, -8, 1904, 1072⟩ .empty).Runs byUpdate updated ∧
      committed.outcome = .ok () ∧ updated.outcome = .ok () ∧
      SamePicture Sample.config.targets .empty byCommit byUpdate committed updated := by
  have committing := runs_run (I := interface) Simulation.DisplayDevice.answer
    (Sample.created.present (some Sample.image) Sample.area ⟨-16, -8, 1904, 1072⟩ .empty)
    Sample.device
  have updating := runs_run (I := interface) Simulation.DisplayDevice.answer
    ((Manager.fresh { Sample.config with strategy := .legacy } (some ⟨1920, 1080⟩) .silent).present
      (some Sample.image) Sample.area ⟨-16, -8, 1904, 1072⟩ .empty) Sample.device
  exact ⟨_, _, _, _, committing, updating, rfl, rfl,
    (strategies_show_same_picture Sample.config rfl rfl committing updating rfl
      (.refl _)).1⟩

end Overlay

end Scanout
