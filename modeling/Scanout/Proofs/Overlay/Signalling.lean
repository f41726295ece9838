import Scanout.Proofs.Display.Blobs
import Scanout.Proofs.Overlay.Shown

/-!
# What a presentation signals

A stream signals its colours by a session, whose metadata are a blob on the device. A frame that is
shown by a commit signals the stream's session, or opens one; a frame that fails leaves the session
as it was, and may at most have been refused its blob. Only the end of a stream destroys a blob.
-/

namespace Scanout.Overlay

open Display Proc

namespace Manager

variable {m left : Manager} {image : Image} {src dst : Rect} {batch : Batch}
  {events : List (Event interface)} {p : Presentation}

/-- How a frame that is committed has been staged: the session it signals, and the generation whose
framebuffer it names. -/
structure Stages (m : Manager) (color : Color) (batch : Batch) (events : List (Event interface))
    (p : Presentation) (session : HdrSession) (g : Generation) : Prop where
  hdr_eq : p.manager.hdr = some session
  newest_eq : p.manager.ring.newest? = some g
  framed : g.framebuffer.isSome
  batch_eq : ∃ geometry, p.batch = batch.append (m.frameWrites color g geometry session)
  opens : ∃ opening, m.Opens color opening (.ok session) ∧
    blobCallsOf events = blobCallsOf opening

@[simp] theorem filterMap_blob?_resources (g : Generation) :
    g.resources.filterMap Resource.blob? = [] := by
  simp [Generation.resources, HandleSet.resources, Resource.blob?]

theorem filterMap_blob?_generations (gs : List Generation) :
    (gs.flatMap Generation.resources).filterMap Resource.blob? = [] := by
  induction gs with
  | nil => rfl
  | cons g rest ih =>
    rw [List.flatMap_cons, List.filterMap_append, filterMap_blob?_resources, ih]
    rfl

theorem filterMap_blob?_session (m : Manager) :
    m.resources.filterMap Resource.blob? = m.hdr.toList.map HdrSession.blob := by
  rw [resources, List.filterMap_append, filterMap_blob?_generations, sessionResources]
  cases m.hdr <;> rfl

@[simp] theorem blobCallsOf_skipReport : blobCallsOf m.skipReport = [] := by
  unfold skipReport
  split <;> rfl

theorem Drains.blobCalls (drains : m.Drains events) :
    blobCallsOf events = m.hdr.toList.map fun session => .destroyed session.blob := by
  obtain ⟨answer, releases, rfl, given⟩ := drains.calls
  have disabled : blobCallsOf (disableEvent m.config answer :: releases) = blobCallsOf releases := by
    unfold disableEvent
    cases m.config.strategy <;> rfl
  rw [disabled, blobCallsOf_of_releases given, filterMap_blob?_session, List.map_map]
  rfl

section Stages

variable {start imports : List (Event interface)} {size : Option Size} {format : Fourcc}
  {geometry : PlaneGeometry}

theorem Asks.blobCalls (asks : m.Asks start size) : blobCallsOf start = [] := by
  refine blobCallsOf_of_neutral ?_
  rw [asks.calls.1]
  exact modeRequests_neutral

theorem Prepares.blobCalls (prepares : m.Prepares image src dst start size format geometry) :
    blobCallsOf start = [] := by
  obtain ⟨query, evict, rfl, asks, evicted, -⟩ := prepares.calls
  rw [blobCallsOf_append, asks.blobCalls, blobCallsOf_of_releases evicted, evictedResources,
    filterMap_blob?_generations]
  rfl

theorem Imports.blobCalls {s : HandleSet} {outcome : Except PresentError HandleSet}
    (importing : HandleSet.Imports s imports outcome) : blobCallsOf imports = [] := by
  refine blobCallsOf_eq_nil fun request asked => ?_
  rcases importing.request_cases asked with ⟨fd, rfl⟩ | ⟨h, rfl⟩ <;> exact id

/-- Up to the framebuffer, a presentation does nothing about blobs. -/
theorem Prepares.blobCalls_upTo (prepares : m.Prepares image src dst start size format geometry)
    {outcome : Except PresentError HandleSet}
    (importing : (HandleSet.ofPlanes image.descriptor image.descriptor.scanoutPlanes).Runs
      imports outcome) (later : List (Event interface)) :
    blobCallsOf (start ++ imports ++ later) = blobCallsOf later := by
  simp [prepares.blobCalls, Imports.blobCalls (HandleSet.extend_runs importing)]

theorem blobCallsOf_aborts {g : Generation} {aborts : List (Event interface)}
    (aborted : requestsOf aborts = g.resources.map Resource.releaseCall) :
    blobCallsOf aborts = [] := by
  rw [blobCallsOf_of_releases aborted, filterMap_blob?_resources]
  rfl

@[simp] theorem blobCallsOf_addFramebuffer (layout : FramebufferLayout)
    (answer : Except DeviceError FramebufferId) (later : List (Event interface)) :
    blobCallsOf (.answered (.addFramebuffer layout) answer :: later) = blobCallsOf later := rfl

@[simp] theorem blobCallsOf_setPlane (update : PlaneUpdate) (answer : Except DeviceError Unit)
    (later : List (Event interface)) :
    blobCallsOf (.answered (.setPlane update) answer :: later) = blobCallsOf later := rfl

end Stages

theorem Presents.stages (presents : m.Presents image src dst batch events p)
    (atomic : m.config.strategy = .atomic) (succeeded : p.outcome = .ok ()) :
    ∃ session g, m.Stages image.color batch events p session g := by
  cases presents with
  | @shown _ _ _ size _ geometry handles f _ _ prepares importing submitted =>
    have newest : ∀ left : Manager,
        (left.installed ⟨some f, handles, some image⟩).ring.newest?
          = some ⟨some f, handles, some image⟩ := fun left => List.getLast?_concat
    cases submitted with
    | @staged session _ running =>
      exact ⟨session, _, {
        hdr_eq := running
        newest_eq := newest _
        framed := rfl
        batch_eq := ⟨geometry, rfl⟩
        opens := ⟨[], .kept running, by rw [prepares.blobCalls_upTo importing]; rfl⟩ }⟩
    | @opened blob _ fresh =>
      exact ⟨⟨HdrMetadata.ofColor image.color, blob⟩, _, {
        hdr_eq := rfl
        newest_eq := newest _
        framed := rfl
        batch_eq := ⟨geometry, rfl⟩
        opens := ⟨_, .opened fresh, by
          rw [prepares.blobCalls_upTo importing, blobCallsOf_addFramebuffer]⟩ }⟩
    | updated legacy => cases atomic.symm.trans legacy
  | refused | importFailed | framebufferFailed | submitFailed => cases succeeded

theorem Presents.blobCalls_of_error {fault : Fault}
    (presents : m.Presents image src dst batch events p) (failed : p.outcome = .error fault) :
    blobCallsOf events = [] ∨
      m.hdr = none ∧ blobCallsOf events = [.refused (HdrMetadata.ofColor image.color).toBytes] := by
  cases presents with
  | refused asks => exact .inl asks.blobCalls
  | importFailed prepares importing =>
    refine .inl ?_
    rw [← List.append_nil (_ ++ _), prepares.blobCalls_upTo importing]
    rfl
  | framebufferFailed prepares importing aborted =>
    refine .inl ?_
    rw [prepares.blobCalls_upTo importing, blobCallsOf_addFramebuffer, blobCallsOf_aborts aborted]
  | submitFailed prepares importing submitted aborted =>
    rw [prepares.blobCalls_upTo importing, blobCallsOf_addFramebuffer, blobCallsOf_append,
      blobCallsOf_aborts aborted, List.append_nil]
    cases submitted with
    | blobFailed _ fresh => exact .inr ⟨fresh, rfl⟩
    | updateFailed => exact .inl (by simp)
  | shown => cases failed

/-- Plane updates have nothing to do with blobs. -/
theorem Presents.of_legacy (presents : m.Presents image src dst batch events p)
    (legacy : m.config.strategy = .legacy) : blobCallsOf events = [] ∧ p.manager.hdr = m.hdr := by
  cases presents with
  | refused asks => exact ⟨asks.blobCalls, rfl⟩
  | importFailed prepares importing =>
    rw [← List.append_nil (_ ++ _), prepares.blobCalls_upTo importing]
    split <;> exact ⟨rfl, rfl⟩
  | framebufferFailed prepares importing aborted =>
    rw [prepares.blobCalls_upTo importing, blobCallsOf_addFramebuffer, blobCallsOf_aborts aborted]
    exact ⟨rfl, rfl⟩
  | submitFailed prepares importing submitted aborted =>
    rw [prepares.blobCalls_upTo importing, blobCallsOf_addFramebuffer, blobCallsOf_append,
      blobCallsOf_aborts aborted, List.append_nil]
    cases submitted with
    | blobFailed atomic => cases atomic.symm.trans legacy
    | updateFailed => exact ⟨by simp, rfl⟩
  | shown prepares importing submitted =>
    rw [prepares.blobCalls_upTo importing, blobCallsOf_addFramebuffer]
    cases submitted with
    | staged atomic | opened atomic => cases atomic.symm.trans legacy
    | updated => exact ⟨by simp, rfl⟩

end Manager

end Scanout.Overlay
