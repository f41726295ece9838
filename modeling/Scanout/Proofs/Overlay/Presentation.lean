import Scanout.Overlay.Manager.Present
import Scanout.Proofs.Overlay.Generation
import Scanout.Proofs.Ring.Room

/-!
# Runs that show a frame

Everything a presentation can do, said once: `presentImage_runs` sorts its runs into five cases by
the stage at which they end, each with the events that led there and the state that is left. What
is proved of a presentation elsewhere is read off these cases.
-/

namespace Scanout.Overlay.Manager

open Display Proc

variable {m : Manager} {events : List (Event interface)}

/-- What is asked before a frame is looked at: the first frame of a stream asks for the mode. -/
def modeRequests (m : Manager) : List Request :=
  if m.ring.isEmpty then [.crtcModeSize m.config.targets.crtc] else []

def evictedResources (m : Manager) : List Resource :=
  m.ring.makeRoom.1.toList.flatMap Generation.resources

def withDisplaySize (m : Manager) (size : Option Size) : Manager := { m with displaySize := size }

/-- The manager when the device is first asked for something on behalf of a frame. -/
def ready (m : Manager) (size : Option Size) : Manager :=
  { m with displaySize := size, ring := m.ring.makeRoom.2 }

def installed (m : Manager) (g : Generation) : Manager :=
  recount { m with
    ring := (m.ring.advance g).2
    stats := { m.stats with framesPresented := m.stats.framesPresented + 1 } }

def frameWrites (m : Manager) (color : Color) (g : Generation) (geometry : PlaneGeometry)
    (session : HdrSession) : Batch :=
  (planeWrites m.config g.framebufferNumber geometry).append
    (colorWrites m.config.targets m.panel session color.transfer)

/-- The notice of a manager that has not yet reported that plane updates carry no metadata. -/
def skipReport (m : Manager) : List (Event interface) :=
  if m.hdrSkipReported then [] else [.reported .hdrSkipped]

inductive Submits (m : Manager) (color : Color) (g : Generation) (geometry : PlaneGeometry)
    (batch : Batch) : List (Event interface) → Manager → Except PresentError Batch → Prop where
  | staged {session : HdrSession} (atomic : m.config.strategy = .atomic)
      (running : m.hdr = some session) :
      Submits m color g geometry batch [] m
        (.ok (batch.append (m.frameWrites color g geometry session)))
  | opened {blob : BlobId} (atomic : m.config.strategy = .atomic) (fresh : m.hdr = none) :
      Submits m color g geometry batch
        [.answered (.createBlob (HdrMetadata.ofColor color).toBytes) (.ok blob),
          .reported (.videoDetected (HdrMetadata.ofColor color).isHdr)]
        { m with hdr := some ⟨HdrMetadata.ofColor color, blob⟩ }
        (.ok (batch.append (m.frameWrites color g geometry ⟨HdrMetadata.ofColor color, blob⟩)))
  | blobFailed {cause : DeviceError} (atomic : m.config.strategy = .atomic) (fresh : m.hdr = none) :
      Submits m color g geometry batch
        [.answered (.createBlob (HdrMetadata.ofColor color).toBytes) (.error cause)]
        m (.error (.blobFailed cause))
  | updated (legacy : m.config.strategy = .legacy) :
      Submits m color g geometry batch
        (m.skipReport ++
          [.answered (.setPlane (showUpdate m.config.targets g.framebuffer geometry)) (.ok ())])
        { m with hdrSkipReported := true } (.ok batch)
  | updateFailed {cause : DeviceError} (legacy : m.config.strategy = .legacy) :
      Submits m color g geometry batch
        (m.skipReport ++
          [.answered (.setPlane (showUpdate m.config.targets g.framebuffer geometry))
            (.error cause)])
        { m with hdrSkipReported := true }
        (.error (.planeUpdateFailed m.config.targets.videoPlane g.framebufferNumber cause))

theorem reportHdrSkipped_runs {u : Unit} (run : m.reportHdrSkipped.Runs events u) :
    events = m.skipReport := by
  unfold reportHdrSkipped at run
  unfold skipReport
  split at run
  · rename_i reported
    rw [if_pos reported]
    exact (runs_pure.mp run).1
  · rename_i unreported
    rw [if_neg unreported]
    exact runs_notice.mp run

theorem updatePlane_runs {g : Generation} {geometry : PlaneGeometry} {left : Manager}
    {outcome : Except PresentError Unit}
    (run : (m.updatePlane g geometry).Runs events (left, outcome)) :
    ∃ answer, events = m.skipReport ++
        [.answered (.setPlane (showUpdate m.config.targets g.framebuffer geometry)) answer] ∧
      left = { m with hdrSkipReported := true } ∧
      outcome = answer.mapError
        (.planeUpdateFailed m.config.targets.videoPlane g.framebufferNumber) := by
  obtain ⟨report, _, later, rfl, reports, rest⟩ := runs_bind.mp run
  obtain rfl := reportHdrSkipped_runs reports
  obtain ⟨call, answer, last, rfl, asked, done⟩ := runs_bind.mp rest
  obtain rfl := runs_ask.mp asked
  cases answer with
  | ok _ =>
    obtain ⟨rfl, after⟩ := runs_pure_pair.mp done
    exact ⟨.ok (), rfl, after⟩
  | error cause =>
    obtain ⟨rfl, after⟩ := runs_pure_pair.mp done
    exact ⟨.error cause, rfl, after⟩

inductive Opens (m : Manager) (color : Color) :
    List (Event interface) → Except PresentError HdrSession → Prop where
  | kept {session : HdrSession} (running : m.hdr = some session) : Opens m color [] (.ok session)
  | opened {blob : BlobId} (fresh : m.hdr = none) :
      Opens m color
        [.answered (.createBlob (HdrMetadata.ofColor color).toBytes) (.ok blob),
          .reported (.videoDetected (HdrMetadata.ofColor color).isHdr)]
        (.ok ⟨HdrMetadata.ofColor color, blob⟩)
  | failed {cause : DeviceError} (fresh : m.hdr = none) :
      Opens m color [.answered (.createBlob (HdrMetadata.ofColor color).toBytes) (.error cause)]
        (.error (.blobFailed cause))

theorem openSession_runs {color : Color} {outcome : Except PresentError HdrSession}
    (run : (m.openSession color).Runs events outcome) : m.Opens color events outcome := by
  unfold openSession at run
  split at run
  · rename_i session running
    obtain ⟨rfl, rfl⟩ := runs_pure.mp run
    exact .kept running
  · rename_i fresh
    obtain ⟨answer, later, rfl, rest⟩ := runs_ask_bind.mp run
    cases answer with
    | error cause =>
      obtain ⟨rfl, rfl⟩ := runs_pure.mp rest
      exact .failed fresh
    | ok blob =>
      obtain ⟨report, _, last, rfl, reported, done⟩ := runs_bind.mp rest
      obtain rfl := runs_notice.mp reported
      obtain ⟨rfl, rfl⟩ := runs_pure.mp done
      exact .opened fresh

theorem submit_runs {color : Color} {g : Generation} {geometry : PlaneGeometry} {batch : Batch}
    {left : Manager} {outcome : Except PresentError Batch}
    (run : (m.submit color g geometry batch).Runs events (left, outcome)) :
    Submits m color g geometry batch events left outcome := by
  unfold submit at run
  split at run
  · rename_i atomic
    obtain ⟨staging, staged, last, rfl, stages, done⟩ := runs_bind.mp run
    obtain ⟨opening, opened, later, rfl, opens, writes⟩ := runs_bind.mp stages
    cases openSession_runs opens with
    | @kept session running =>
      obtain ⟨rfl, rfl⟩ := runs_pure.mp writes
      obtain ⟨rfl, rfl, rfl⟩ := runs_pure_pair.mp done
      have same : { m with hdr := some session } = m := by rw [← running]
      rw [same]
      exact .staged atomic running
    | opened fresh =>
      obtain ⟨rfl, rfl⟩ := runs_pure.mp writes
      obtain ⟨rfl, rfl, rfl⟩ := runs_pure_pair.mp done
      exact .opened atomic fresh
    | failed fresh =>
      obtain ⟨rfl, rfl⟩ := runs_pure.mp writes
      obtain ⟨rfl, rfl, rfl⟩ := runs_pure_pair.mp done
      exact .blobFailed atomic fresh
  · rename_i legacy
    obtain ⟨updating, ⟨after, updated⟩, last, rfl, updates, done⟩ := runs_bind.mp run
    obtain ⟨rfl, rfl, rfl⟩ := runs_pure_pair.mp done
    obtain ⟨answer, rfl, rfl, rfl⟩ := updatePlane_runs updates
    rw [List.append_nil]
    cases answer with
    | ok _ => exact .updated legacy
    | error cause => exact .updateFailed legacy

/-- How the display's size comes to be known before a frame: the first frame of a stream asks. -/
inductive Asks (m : Manager) : List (Event interface) → Option Size → Prop where
  | kept (streaming : m.ring.isEmpty = false) : Asks m [] m.displaySize
  | asked {answer : Except DeviceError (Option Size)} {reports : List (Event interface)}
      (first : m.ring.isEmpty = true) (calls : requestsOf reports = []) (quiet : NoLeak reports) :
      Asks m (.answered (.crtcModeSize m.config.targets.crtc) answer :: reports)
        answer.toOption.join

theorem queryMode_runs {crtc : UInt32} {size : Option Size}
    (run : (queryMode crtc).Runs events size) :
    ∃ answer reports, events = .answered (.crtcModeSize crtc) answer :: reports ∧
      size = answer.toOption.join ∧ requestsOf reports = [] ∧ NoLeak reports := by
  obtain ⟨answer, later, rfl, rest⟩ := runs_ask_bind.mp run
  cases answer with
  | ok known =>
    obtain ⟨rfl, rfl⟩ := runs_pure.mp rest
    exact ⟨.ok size, [], rfl, rfl, rfl, noLeak_nil⟩
  | error cause =>
    obtain ⟨report, _, last, rfl, reported, done⟩ := runs_bind.mp rest
    obtain rfl := runs_notice.mp reported
    obtain ⟨rfl, rfl⟩ := runs_pure.mp done
    exact ⟨.error cause, _, rfl, rfl, rfl, by simp⟩

theorem refreshDisplaySize_runs {left : Manager} (run : m.refreshDisplaySize.Runs events left) :
    ∃ answer reports, events = .answered (.crtcModeSize m.config.targets.crtc) answer :: reports ∧
      left = m.withDisplaySize answer.toOption.join ∧ requestsOf reports = [] ∧
      NoLeak reports := by
  obtain ⟨query, size, later, rfl, queried, rest⟩ := runs_bind.mp run
  obtain ⟨answer, reports, rfl, rfl, calls, quiet⟩ := queryMode_runs queried
  split at rest
  · obtain ⟨report, _, last, rfl, reported, done⟩ := runs_bind.mp rest
    obtain rfl := runs_notice.mp reported
    obtain ⟨rfl, rfl⟩ := runs_pure.mp done
    exact ⟨answer, reports ++ [_], rfl, rfl, by simpa using calls, by simpa using quiet⟩
  · obtain ⟨rfl, rfl⟩ := runs_pure.mp rest
    exact ⟨answer, reports, List.append_nil _, rfl, calls, quiet⟩

theorem refreshAtStart_runs {left : Manager} (run : m.refreshAtStart.Runs events left) :
    ∃ size, m.Asks events size ∧ left = m.withDisplaySize size := by
  unfold refreshAtStart at run
  split at run
  · rename_i first
    obtain ⟨answer, reports, rfl, rfl, calls, quiet⟩ := refreshDisplaySize_runs run
    exact ⟨_, .asked first calls quiet, rfl⟩
  · rename_i streaming
    obtain ⟨rfl, rfl⟩ := runs_pure.mp run
    exact ⟨_, .kept (by simpa using streaming), rfl⟩

/-- Why a frame is refused before the device is asked for anything on its behalf. -/
inductive Refuses (m : Manager) (image : Image) (src dst : Rect) : Fault → Prop where
  | misplaced {fault : Fault} (placed : m.place src dst = .error fault) :
      Refuses m image src dst fault
  | unformatted {geometry : PlaneGeometry} {e : PresentError} (placed : m.place src dst = .ok geometry)
      (formatted : image.descriptor.scanoutFormat = .error e) :
      Refuses m image src dst (.refused e)

/-- A frame has been checked and the ring has room: what that took, and what the manager is now. -/
structure Prepares (m : Manager) (image : Image) (src dst : Rect) (events : List (Event interface))
    (size : Option Size) (format : Fourcc) (geometry : PlaneGeometry) : Prop where
  placed : (m.withDisplaySize size).place src dst = .ok geometry
  formatted : image.descriptor.scanoutFormat = .ok format
  calls : ∃ query evict, events = query ++ evict ∧ m.Asks query size ∧
    requestsOf evict = m.evictedResources.map Resource.releaseCall ∧ NoLeak evict

def layoutOf (image : Image) (format : Fourcc) (handles : HandleSet) : FramebufferLayout :=
  framebufferLayout image.size format image.descriptor.scanoutPlanes handles

/-- The stages at which a presentation ends. -/
inductive Presents (m : Manager) (image : Image) (src dst : Rect) (batch : Batch) :
    List (Event interface) → Presentation → Prop where
  | refused {query : List (Event interface)} {size : Option Size} {fault : Fault}
      (asks : m.Asks query size) (refuses : (m.withDisplaySize size).Refuses image src dst fault) :
      Presents m image src dst batch query ⟨m.withDisplaySize size, batch, .error fault⟩
  | importFailed {start imports : List (Event interface)} {size : Option Size} {format : Fourcc}
      {geometry : PlaneGeometry} {e : PresentError}
      (prepares : m.Prepares image src dst start size format geometry)
      (importing : (HandleSet.ofPlanes image.descriptor image.descriptor.scanoutPlanes).Runs
        imports (.error e)) :
      Presents m image src dst batch (start ++ imports)
        ⟨(if e.kind = .importing then (m.ready size).countImportFailure else m.ready size).recount,
          batch, .error (.refused e)⟩
  | framebufferFailed {start imports aborts : List (Event interface)} {size : Option Size}
      {format : Fourcc} {geometry : PlaneGeometry} {handles : HandleSet} {cause : DeviceError}
      (prepares : m.Prepares image src dst start size format geometry)
      (importing : (HandleSet.ofPlanes image.descriptor image.descriptor.scanoutPlanes).Runs
        imports (.ok handles))
      (aborted : requestsOf aborts
        = (Generation.mk none handles none).resources.map Resource.releaseCall)
      (quiet : NoLeak aborts) :
      Presents m image src dst batch
        (start ++ imports ++
          .answered (.addFramebuffer (layoutOf image format handles)) (.error cause) :: aborts)
        ⟨(m.ready size).countImportFailure, batch,
          .error (.refused (.framebufferFailed image.size cause))⟩
  | submitFailed {start imports submits aborts : List (Event interface)} {size : Option Size}
      {format : Fourcc} {geometry : PlaneGeometry} {handles : HandleSet}
      {framebuffer : FramebufferId} {left : Manager} {e : PresentError}
      (prepares : m.Prepares image src dst start size format geometry)
      (importing : (HandleSet.ofPlanes image.descriptor image.descriptor.scanoutPlanes).Runs
        imports (.ok handles))
      (submitted : (m.ready size).Submits image.color ⟨some framebuffer, handles, none⟩ geometry
        batch submits left (.error e))
      (aborted : requestsOf aborts
        = (Generation.mk (some framebuffer) handles none).resources.map Resource.releaseCall)
      (quiet : NoLeak aborts) :
      Presents m image src dst batch
        (start ++ imports ++
          .answered (.addFramebuffer (layoutOf image format handles)) (.ok framebuffer) ::
            (submits ++ aborts))
        ⟨left.countCommitFailure, batch, .error (.refused e)⟩
  | shown {start imports submits : List (Event interface)} {size : Option Size}
      {format : Fourcc} {geometry : PlaneGeometry} {handles : HandleSet}
      {framebuffer : FramebufferId} {left : Manager} {submission : Batch}
      (prepares : m.Prepares image src dst start size format geometry)
      (importing : (HandleSet.ofPlanes image.descriptor image.descriptor.scanoutPlanes).Runs
        imports (.ok handles))
      (submitted : (m.ready size).Submits image.color ⟨some framebuffer, handles, none⟩ geometry
        batch submits left (.ok submission)) :
      Presents m image src dst batch
        (start ++ imports ++
          .answered (.addFramebuffer (layoutOf image format handles)) (.ok framebuffer) :: submits)
        ⟨left.installed ⟨some framebuffer, handles, some image⟩, submission, .ok ()⟩

theorem makeRoom_runs {left : Manager} (run : m.makeRoom.Runs events left) :
    left = { m with ring := m.ring.makeRoom.2 } ∧
      requestsOf events = m.evictedResources.map Resource.releaseCall ∧ NoLeak events := by
  obtain ⟨retires, _, last, rfl, retired, done⟩ := runs_bind.mp run
  obtain ⟨rfl, rfl⟩ := runs_pure.mp done
  obtain ⟨requests, quiet⟩ := Generation.retireAll_runs retired
  rw [List.append_nil]
  exact ⟨rfl, requests, quiet⟩

theorem install_runs {g : Generation} {left : Manager}
    (room : m.ring.makeRoom = (none, m.ring)) (run : (m.install g).Runs events left) :
    events = [] ∧ left = m.installed g := by
  obtain ⟨retires, _, last, rfl, retired, done⟩ := runs_bind.mp run
  obtain ⟨rfl, rfl⟩ := runs_pure.mp done
  rw [room] at retired
  obtain ⟨rfl, -⟩ := runs_pure.mp retired
  exact ⟨rfl, rfl⟩

theorem Submits.left_eq {color : Color} {g : Generation} {geometry : PlaneGeometry} {batch : Batch}
    {left : Manager} {outcome : Except PresentError Batch}
    (submitted : Submits m color g geometry batch events left outcome) :
    ∃ hdr reported, left = { m with hdr, hdrSkipReported := reported } := by
  cases submitted <;> exact ⟨_, _, rfl⟩

/-- A presentation leaves alone what was settled before the stream. -/
theorem Presents.keeps {image : Image} {src dst : Rect} {batch : Batch} {p : Presentation}
    (presents : m.Presents image src dst batch events p) :
    p.manager.config = m.config ∧ p.manager.panel = m.panel ∧
      p.manager.tornDown = m.tornDown := by
  cases presents with
  | refused | framebufferFailed => exact ⟨rfl, rfl, rfl⟩
  | importFailed => split <;> exact ⟨rfl, rfl, rfl⟩
  | submitFailed _ _ submitted | shown _ _ submitted =>
    obtain ⟨hdr, reported, rfl⟩ := submitted.left_eq
    exact ⟨rfl, rfl, rfl⟩

theorem presentImage_runs {image : Image} {src dst : Rect} {batch : Batch} {p : Presentation}
    (run : (m.presentImage image src dst batch).Runs events p) :
    m.Presents image src dst batch events p := by
  obtain ⟨query, known, rest, rfl, queried, checked⟩ := runs_bind.mp run
  obtain ⟨size, asks, rfl⟩ := refreshAtStart_runs queried
  split at checked
  · rename_i fault placed
    obtain ⟨rfl, rfl⟩ := runs_pure.mp checked
    rw [List.append_nil]
    exact .refused asks (.misplaced placed)
  rename_i geometry placed
  split at checked
  · rename_i e formatted
    obtain ⟨rfl, rfl⟩ := runs_pure.mp checked
    rw [List.append_nil]
    exact .refused asks (.unformatted placed formatted)
  rename_i format formatted
  obtain ⟨evict, roomy, others, rfl, evicted, remaining⟩ := runs_bind.mp checked
  obtain ⟨rfl, evictions, evictQuiet⟩ := makeRoom_runs evicted
  have prepares : m.Prepares image src dst (query ++ evict) size format geometry :=
    ⟨placed, formatted, query, evict, rfl, asks, evictions, evictQuiet⟩
  obtain ⟨imports, imported, later, rfl, importing, acquired⟩ := runs_bind.mp remaining
  rw [← List.append_assoc, ← List.append_assoc]
  cases imported with
  | error e =>
    obtain ⟨rfl, rfl⟩ := runs_pure.mp acquired
    rw [List.append_nil]
    exact .importFailed prepares importing
  | ok handles =>
    obtain ⟨call, answer, made, rfl, asked, answered⟩ := runs_bind.mp acquired
    obtain rfl := runs_ask.mp asked
    cases answer with
    | error cause =>
      obtain ⟨aborts, _, last, rfl, retired, done⟩ := runs_bind.mp answered
      obtain ⟨rfl, rfl⟩ := runs_pure.mp done
      obtain ⟨aborted, quiet⟩ := Generation.retire_runs retired
      rw [List.append_nil]
      exact .framebufferFailed prepares importing aborted quiet
    | ok framebuffer =>
      obtain ⟨submits, ⟨left, outcome⟩, shown, rfl, submitting, submitted⟩ := runs_bind.mp answered
      have ways := submit_runs submitting
      cases outcome with
      | error e =>
        obtain ⟨aborts, _, last, rfl, retired, done⟩ := runs_bind.mp submitted
        obtain ⟨rfl, rfl⟩ := runs_pure.mp done
        obtain ⟨aborted, quiet⟩ := Generation.retire_runs retired
        rw [List.append_nil, List.singleton_append]
        exact .submitFailed prepares importing ways aborted quiet
      | ok submission =>
        obtain ⟨installs, now, last, rfl, installing, done⟩ := runs_bind.mp submitted
        obtain ⟨rfl, rfl⟩ := runs_pure.mp done
        -- Room was made before the import, so the new generation displaces nothing.
        have room : left.ring.makeRoom = (none, left.ring) := by
          obtain ⟨hdr, reported, rfl⟩ := ways.left_eq
          exact m.ring.makeRoom_makeRoom
        obtain ⟨rfl, rfl⟩ := install_runs room installing
        rw [List.append_nil, List.append_nil]
        exact .shown prepares importing ways

end Scanout.Overlay.Manager
