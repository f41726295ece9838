import Scanout.Geometry.Destination
import Scanout.Geometry.PlaneGeometry
import Scanout.Hdr.Derive
import Scanout.Overlay.Config
import Scanout.Overlay.Generation
import Scanout.Overlay.Stats
import Scanout.Ring

/-!
# The plane manager

A manager owns the video plane and the connector's source metadata for its whole life. This file
holds its state, how it takes the plane over, and the requests that do not show a frame.
-/

namespace Scanout.Overlay

open Display

/-- The source metadata published for the current stream. -/
structure HdrSession where
  metadata : HdrMetadata
  blob : BlobId
  deriving DecidableEq, Repr

structure Manager where
  config : Config
  displaySize : Option Size
  panel : Panel
  /-- What the display may still read, oldest first. -/
  ring : Ring Generation
  hdr : Option HdrSession
  stats : Stats
  /-- It has been reported that plane updates carry no metadata. -/
  hdrSkipReported : Bool
  /-- Nothing has been shown since the overlay was released. -/
  tornDown : Bool

/-- The size of the CRTC's mode; one that cannot be read is unknown. -/
def queryMode (crtc : UInt32) : Program (Option Size) := do
  match ← Program.crtcModeSize crtc with
  | .ok size => return size
  | .error cause =>
    Proc.notice (.modeUnread crtc cause)
    return none

/-- What the connected panel says about itself, if anything can be read. -/
def queryPanel (connector : UInt32) : Program Panel := do
  match ← Program.propertyBlob (.connector connector) Property.hdrPanelMetadata with
  | .ok (some blob) => return Panel.ofBlob blob
  | .ok none => return Panel.silent
  | .error cause =>
    Proc.notice (.panelMetadataUnread cause)
    return Panel.silent

def disableBatch (plane : UInt32) : Batch :=
  (Batch.empty.set (.plane plane) Property.fbId 0).set (.plane plane) Property.crtcId 0

def disableUpdate (targets : Targets) : PlaneUpdate where
  plane := targets.videoPlane
  crtc := targets.crtc
  framebuffer := none
  crtcRect := ⟨0, 0, 0, 0⟩
  srcRect := ⟨0, 0, 0, 0⟩

/-- Asks for the video plane to be detached, the way the strategy says. -/
def requestDisable (config : Config) : Program (Except DeviceError Unit) :=
  match config.strategy with
  | .atomic => Program.commit (disableBatch config.targets.videoPlane) true
  | .legacy => Program.setPlane (disableUpdate config.targets)

/-- Detaches the video plane at once, by a request of its own. A failure is only reported. -/
def disablePlane (config : Config) : Program Unit := do
  let outcome ← requestDisable config
  Proc.noticeFailure .disableFailed outcome

namespace Manager

def fresh (config : Config) (displaySize : Option Size) (panel : Panel) : Manager where
  config
  displaySize
  panel
  ring := Ring.empty config.strategy.ringDepth config.strategy.ringDepth_pos
  hdr := none
  stats := Stats.zero
  hdrSkipReported := false
  tornDown := false

def takeOver (config : Config) (displaySize : Option Size) (panel : Panel) : Program Manager := do
  Proc.notice (.overlayReady config.targets config.strategy.name displaySize)
  disablePlane config
  return fresh config displaySize panel

/-- Asks the device what it can do and takes over the video plane. The only device refused is one
that has no import of buffers. -/
def create (config : Config) : Program (Except PresentError Manager) := do
  match ← Program.supportsPrimeImport with
  | .error cause => return .error (.primeQueryFailed cause)
  | .ok false => return .error .primeUnsupported
  | .ok true =>
    let displaySize ← queryMode config.targets.crtc
    let panel ← queryPanel config.targets.connector
    if panel.supportsHdr then Proc.notice .panelSupportsHdr
    return .ok (← takeOver config displaySize panel)

def refreshDisplaySize (m : Manager) : Program Manager := do
  let size ← queryMode m.config.targets.crtc
  if size ≠ m.displaySize then
    Proc.notice (.modeChanged m.config.targets.crtc m.displaySize size)
  return { m with displaySize := size }

def liveHandles (m : Manager) : Nat := Generation.handleCount m.ring.slots

def recount (m : Manager) : Manager :=
  { m with stats := { m.stats with liveHandles := m.liveHandles } }

end Manager

end Scanout.Overlay
