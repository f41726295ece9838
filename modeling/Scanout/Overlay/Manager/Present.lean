import Scanout.Overlay.Manager.Basic

/-!
# Showing a frame

A frame is checked first, without touching the device. Then the oldest generation gives way, the
frame's memory is imported and made a framebuffer, and the frame is submitted: as property writes
for the caller's batch, or by a plane update. What fails after the import is given up again, and
the batch changes only if all succeeds.
-/

namespace Scanout.Overlay

open Display

structure Presentation where
  manager : Manager
  batch : Batch
  outcome : Except Fault Unit

def framebufferLayout (size : Size) (format : Fourcc) (planes : List Plane) (handles : HandleSet) :
    FramebufferLayout where
  size
  format
  handles := Vector.ofFn fun i => planes[i.val]?.bind fun p => handles.get? p.object
  pitches := Vector.ofFn fun i => (planes[i.val]?.map Plane.pitch).getD 0
  offsets := Vector.ofFn fun i => (planes[i.val]?.map Plane.offset).getD 0

/-- Where the plane reads and where it stands. Coordinates that can be negative are extended with
their sign to the 64 bits of a property value. -/
def planeWrites (config : Config) (framebuffer : UInt32) (g : PlaneGeometry) : Batch :=
  let plane := ModeObject.plane config.targets.videoPlane
  ⟨[⟨plane, Property.fbId, framebuffer.toUInt64⟩,
    ⟨plane, Property.crtcId, config.targets.crtc.toUInt64⟩,
    ⟨plane, Property.srcX, g.srcX.toUInt64⟩,
    ⟨plane, Property.srcY, g.srcY.toUInt64⟩,
    ⟨plane, Property.srcW, g.srcW.toUInt64⟩,
    ⟨plane, Property.srcH, g.srcH.toUInt64⟩,
    ⟨plane, Property.crtcX, g.crtcX.toInt64.toUInt64⟩,
    ⟨plane, Property.crtcY, g.crtcY.toInt64.toUInt64⟩,
    ⟨plane, Property.crtcW, g.crtcW.toUInt64⟩,
    ⟨plane, Property.crtcH, g.crtcH.toUInt64⟩,
    ⟨plane, Property.zpos, config.zpos⟩]⟩

/-- What is signalled on the plane of a panel that takes no metadata. -/
def fallbackEotf (metadata : HdrMetadata) : Eotf :=
  if metadata.isHdr then .traditionalGammaHdr else .traditionalGammaSdr

/-- Colour signalling of one frame. A panel that takes HDR metadata is sent the session's. -/
def colorWrites (targets : Targets) (panel : Panel) (session : HdrSession) (transfer : Transfer) :
    Batch :=
  let plane := ModeObject.plane targets.videoPlane
  let connector := ModeObject.connector targets.connector
  let signalled :=
    if panel.supportsHdr then
      [⟨connector, Property.hdrSourceMetadata, session.blob.id.toUInt64⟩,
        ⟨plane, Property.eotf, session.metadata.eotf.toUInt64⟩]
    else [⟨plane, Property.eotf, (fallbackEotf session.metadata).code.toUInt64⟩]
  ⟨signalled ++
    [⟨plane, Property.colorSpace, (ColorSpace.ofTransfer transfer).code.toUInt64⟩,
      ⟨connector, Property.hdmiOutputFormat, HdmiFormat.ycbcrHq.code.toUInt64⟩]⟩

def showUpdate (targets : Targets) (framebuffer : Option FramebufferId) (g : PlaneGeometry) :
    PlaneUpdate where
  plane := targets.videoPlane
  crtc := targets.crtc
  framebuffer
  crtcRect := ⟨g.crtcX, g.crtcY, g.crtcW, g.crtcH⟩
  srcRect := ⟨g.srcX, g.srcY, g.srcW, g.srcH⟩

namespace Manager

/-- A destination in display pixels. It is rescaled if both the surface it is given on and the
display are known. -/
def destination (m : Manager) (dst : Rect) : Rect :=
  match m.config.osdSize, m.displaySize with
  | some osd, some display => computeDestination display osd dst
  | _, _ => dst

def place (m : Manager) (src dst : Rect) : Except Fault PlaneGeometry :=
  PlaneGeometry.ofRects src (m.destination dst) m.config.alignment

/-- Retires the oldest generation of a full ring, which the display has stopped reading. -/
def makeRoom (m : Manager) : Program Manager := do
  let (evicted, ring) := m.ring.makeRoom
  Generation.retireAll .superseded evicted.toList
  return { m with ring }

/-- The stream's session. The first frame of a stream opens it. -/
def openSession (m : Manager) (color : Color) :
    Program (Except PresentError HdrSession) := do
  match m.hdr with
  | some session => return .ok session
  | none =>
    let metadata := HdrMetadata.ofColor color
    match ← Program.createBlob metadata.toBytes with
    | .error cause => return .error (.blobFailed cause)
    | .ok blob =>
      Proc.notice (.videoDetected metadata.isHdr)
      return .ok { metadata, blob }

def stage (m : Manager) (color : Color) (g : Generation) (geometry : PlaneGeometry) :
    Program (Except PresentError (Manager × Batch)) := do
  match ← m.openSession color with
  | .error e => return .error e
  | .ok session =>
    let shown := planeWrites m.config g.framebufferNumber geometry
    let coloured := colorWrites m.config.targets m.panel session color.transfer
    return .ok ({ m with hdr := some session }, shown.append coloured)

def reportHdrSkipped (m : Manager) : Program Unit :=
  if m.hdrSkipReported then pure () else Proc.notice .hdrSkipped

def updatePlane (m : Manager) (g : Generation) (geometry : PlaneGeometry) :
    Program (Manager × Except PresentError Unit) := do
  m.reportHdrSkipped
  let m := { m with hdrSkipReported := true }
  let update := showUpdate m.config.targets g.framebuffer geometry
  match ← Program.setPlane update with
  | .ok () => return (m, .ok ())
  | .error cause =>
    return (m, .error (.planeUpdateFailed update.plane g.framebufferNumber cause))

def submit (m : Manager) (color : Color) (g : Generation) (geometry : PlaneGeometry)
    (batch : Batch) : Program (Manager × Except PresentError Batch) := do
  match m.config.strategy with
  | .atomic =>
    match ← m.stage color g geometry with
    | .ok (m, writes) => return (m, .ok (batch.append writes))
    | .error e => return (m, .error e)
  | .legacy =>
    let (m, outcome) ← m.updatePlane g geometry
    return (m, outcome.map fun () => batch)

def install (m : Manager) (g : Generation) : Program Manager := do
  let (evicted, ring) := m.ring.advance g
  Generation.retireAll .superseded evicted.toList
  let stats := { m.stats with framesPresented := m.stats.framesPresented + 1 }
  return recount { m with ring, stats }

def countImportFailure (m : Manager) : Manager :=
  { m with stats := { m.stats with importFailures := m.stats.importFailures + 1 } }

def countCommitFailure (m : Manager) : Manager :=
  { m with stats := { m.stats with commitFailures := m.stats.commitFailures + 1 } }

def showFramebuffer (m : Manager) (image : Image) (g : Generation) (geometry : PlaneGeometry)
    (batch : Batch) : Program Presentation := do
  let (m, submitted) ← m.submit image.color g geometry batch
  match submitted with
  | .error e =>
    g.retire .aborted
    return ⟨m.countCommitFailure, batch, .error (.refused e)⟩
  | .ok batch =>
    let m ← m.install { g with image := some image }
    return ⟨m, batch, .ok ()⟩

def showHandles (m : Manager) (image : Image) (format : Fourcc) (handles : HandleSet)
    (geometry : PlaneGeometry) (batch : Batch) : Program Presentation := do
  let planes := image.descriptor.scanoutPlanes
  let g : Generation := { framebuffer := none, handles, image := none }
  match ← Program.addFramebuffer (framebufferLayout image.size format planes handles) with
  | .error cause =>
    g.retire .aborted
    return ⟨m.countImportFailure, batch, .error (.refused (.framebufferFailed image.size cause))⟩
  | .ok framebuffer =>
    m.showFramebuffer image { g with framebuffer := some framebuffer } geometry batch

def showChecked (m : Manager) (image : Image) (format : Fourcc) (geometry : PlaneGeometry)
    (batch : Batch) : Program Presentation := do
  let m ← m.makeRoom
  match ← HandleSet.ofPlanes image.descriptor image.descriptor.scanoutPlanes with
  | .error e =>
    let counted := if e.kind = .importing then m.countImportFailure else m
    return ⟨counted.recount, batch, .error (.refused e)⟩
  | .ok handles => m.showHandles image format handles geometry batch

/-- The first frame of a stream reads the mode again. -/
def refreshAtStart (m : Manager) : Program Manager :=
  if m.ring.isEmpty then m.refreshDisplaySize else pure m

def presentImage (m : Manager) (image : Image) (src dst : Rect) (batch : Batch) :
    Program Presentation := do
  let m ← m.refreshAtStart
  match m.place src dst with
  | .error fault => return ⟨m, batch, .error fault⟩
  | .ok geometry =>
    match image.descriptor.scanoutFormat with
    | .error e => return ⟨m, batch, .error (.refused e)⟩
    | .ok format => m.showChecked image format geometry batch

end Manager

end Scanout.Overlay
