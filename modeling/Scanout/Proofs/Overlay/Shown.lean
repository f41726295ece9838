import Scanout.Proofs.Display.Screen
import Scanout.Proofs.Overlay.Lifetime
import Scanout.Proofs.Overlay.Writes

/-!
# What a presentation means to the plane

Until it submits, a presentation changes nothing that the plane shows, and one that fails never
submits with success. One that succeeds has made one framebuffer, which is the newest generation's,
and has handed it to the plane: by a plane update at its end, or by the last word on the plane in
the caller's batch.
-/

namespace Scanout.Overlay

open Display Proc

theorem still_of_releases {events : List (Event interface)} {rs : List Resource}
    (releases : requestsOf events = rs.map Resource.releaseCall) : Still events := by
  refine still_of_requests fun request member => ?_
  rw [releases] at member
  obtain ⟨r, -, rfl⟩ := List.mem_map.mp member
  cases r <;> exact id

theorem Imports.still {s : HandleSet} {events : List (Event interface)}
    {outcome : Except PresentError HandleSet} (imports : HandleSet.Imports s events outcome) :
    Still events := by
  refine still_of_requests fun request asked => ?_
  rcases imports.request_cases asked with ⟨fd, rfl⟩ | ⟨h, rfl⟩ <;> exact id

namespace Manager

variable {m left : Manager} {image : Image} {src dst : Rect} {batch : Batch}
  {events : List (Event interface)} {p : Presentation}

theorem Asks.still {size : Option Size} (asks : m.Asks events size) : Still events := by
  refine still_of_requests fun request member => ?_
  rw [asks.calls.1, modeRequests] at member
  split at member
  · rw [List.mem_singleton.mp member]
    exact id
  · cases member

theorem Prepares.still {size : Option Size} {format : Fourcc} {geometry : PlaneGeometry}
    (prepares : m.Prepares image src dst events size format geometry) : Still events := by
  obtain ⟨query, evict, rfl, asks, evicted, -⟩ := prepares.calls
  exact still_append.mpr ⟨asks.still, still_of_releases evicted⟩

@[simp] theorem still_skipReport : Still m.skipReport := by
  unfold skipReport
  split <;> simp [Submitted]

theorem Submits.still_of_error {color : Color} {g : Generation} {geometry : PlaneGeometry}
    {e : PresentError} (submitted : Submits m color g geometry batch events left (.error e)) :
    Still events := by
  cases submitted <;> simp [Submitted]

theorem Presents.still_of_error {fault : Fault} (presents : m.Presents image src dst batch events p)
    (failed : p.outcome = .error fault) : Still events := by
  cases presents with
  | refused asks => exact asks.still
  | importFailed prepares importing =>
    exact still_append.mpr ⟨prepares.still, Imports.still (HandleSet.extend_runs importing)⟩
  | framebufferFailed prepares importing aborted =>
    simp [prepares.still, Imports.still (HandleSet.extend_runs importing),
      still_of_releases aborted, Submitted]
  | submitFailed prepares importing submitted aborted =>
    simp [prepares.still, Imports.still (HandleSet.extend_runs importing),
      submitted.still_of_error, still_of_releases aborted, Submitted]
  | shown => cases failed

/-- How a framebuffer has been handed to the plane. -/
inductive Handed (config : Config) (f : FramebufferId) (events : List (Event interface))
    (batch : Batch) : Prop where
  | staged (atomic : config.strategy = .atomic) (still : Still events)
      (value : batch.value? (.plane config.targets.videoPlane) Property.fbId
        = some f.id.toUInt64)
  | updated (legacy : config.strategy = .legacy) (front : List (Event interface))
      (update : PlaneUpdate) (events_eq : events = front ++ [.answered (.setPlane update) (.ok ())])
      (still : Still front) (plane_eq : update.plane = config.targets.videoPlane)
      (framebuffer_eq : update.framebuffer = some f)

structure Shown (m : Manager) (events : List (Event interface)) (p : Presentation)
    (f : FramebufferId) (g : Generation) : Prop where
  framebuffer_eq : g.framebuffer = some f
  config_eq : p.manager.config = m.config
  depth_eq : p.manager.ring.depth = m.ring.depth
  slots_eq : p.manager.ring.slots = m.ring.makeRoom.2.slots ++ [g]
  made : ∃ before layout later,
    events = before ++ .answered (.addFramebuffer layout) (.ok f) :: later ∧
      (∀ other, .acquire (.framebuffer other) ∉ movementsOf later) ∧
      ∀ h ∈ layout.handles.toList.filterMap id, h ∈ g.handles.held
  handed : Handed m.config f events p.batch

theorem layoutOf_handles {format : Fourcc} {handles : HandleSet} {h : GemHandle}
    (member : h ∈ (layoutOf image format handles).handles.toList.filterMap id) :
    h ∈ handles.held := by
  obtain ⟨slot, present, rfl⟩ := List.mem_filterMap.mp member
  obtain ⟨i, found⟩ := Vector.mem_ofFn.mp (Vector.mem_toList_iff.mp present)
  obtain ⟨plane, -, held⟩ := Option.bind_eq_some_iff.mp found
  exact HandleSet.mem_held_of_get? held

theorem Submits.handed {color : Color} {f : FramebufferId} {handles : HandleSet}
    {geometry : PlaneGeometry} {submission : Batch}
    (submitted : Submits m color ⟨some f, handles, none⟩ geometry batch events left
      (.ok submission)) {front : List (Event interface)} (still : Still front) :
    Handed m.config f (front ++ events) submission := by
  cases submitted with
  | staged atomic running =>
    refine .staged atomic (by simpa using still) ?_
    rw [Batch.value?_append, frameWrites_value?]
    rfl
  | opened atomic fresh =>
    refine .staged atomic (by simp [still, Submitted]) ?_
    rw [Batch.value?_append, frameWrites_value?]
    rfl
  | updated legacy =>
    exact .updated legacy (front ++ m.skipReport) _ (List.append_assoc _ _ _).symm
      (by simp [still]) rfl rfl

theorem Submits.makes_no_framebuffer {color : Color} {g : Generation} {geometry : PlaneGeometry}
    {outcome : Except PresentError Batch}
    (submitted : Submits m color g geometry batch events left outcome) (f : FramebufferId) :
    .acquire (.framebuffer f) ∉ movementsOf events := by
  cases submitted <;> simp [movementsOf_answered, movement?, acquired?, Request.released?]

theorem Presents.shown_of_ok (presents : m.Presents image src dst batch events p)
    (succeeded : p.outcome = .ok ()) : ∃ f g, Shown m events p f g := by
  cases presents with
  | @shown start imports submits size format geometry handles f left submission
      prepares importing submitted =>
    have front : Still (start ++ imports ++
        [.answered (.addFramebuffer (layoutOf image format handles)) (.ok f)]) := by
      simp [prepares.still, Imports.still (HandleSet.extend_runs importing), Submitted]
    have handed := submitted.handed front
    rw [List.append_assoc, List.singleton_append] at handed
    have silent := submitted.makes_no_framebuffer
    obtain ⟨hdr, reported, rfl⟩ := submitted.left_eq
    exact ⟨f, ⟨some f, handles, some image⟩, {
      framebuffer_eq := rfl
      config_eq := rfl
      depth_eq := (Ring.advance_depth _ _).trans (Ring.makeRoom_depth _)
      slots_eq := slots_installed m.ring.makeRoom_makeRoom
      made := ⟨start ++ imports, layoutOf image format handles, submits, rfl, silent,
        fun _ member => layoutOf_handles member⟩
      handed := handed }⟩
  | refused | importFailed | framebufferFailed | submitFailed => cases succeeded

end Manager

end Scanout.Overlay
