import Scanout.Error

/-!
# Log notices

Everything the library reports on the way is a notice: which event, with its data. Level, origin
and text are functions of the notice, so a statement about the log need not read text.
-/

namespace Scanout

inductive Level where
  | error
  | warn
  | info
  | debug
  | trace
  deriving DecidableEq, Repr

namespace Level

def name : Level → String
  | error => "ERROR"
  | warn => "WARN"
  | info => "INFO"
  | debug => "DEBUG"
  | trace => "TRACE"

def rank : Level → Nat
  | error => 1
  | warn => 2
  | info => 3
  | debug => 4
  | trace => 5

end Level

inductive Retirement where
  | superseded
  | aborted
  | drained
  deriving DecidableEq, Repr

def Retirement.text : Retirement → String
  | .superseded => "superseded"
  | .aborted => "aborted"
  | .drained => "drained"

inductive Notice where
  | objectImported (object : Nat) (handle : GemHandle)
  | closeFailed (handle : GemHandle) (cause : DeviceError)
  | rollbackFailed (cause : PresentError)
  | handlesLeaked (count : Nat)
  | panelMetadataUnread (cause : DeviceError)
  | panelSupportsHdr
  | overlayReady (targets : Targets) (commits : String) (display : Option Size)
  | modeUnread (crtc : UInt32) (cause : DeviceError)
  | modeChanged (crtc : UInt32) (before after : Option Size)
  | disableFailed (cause : DeviceError)
  | releaseFailed (reason : Retirement) (cause : PresentError)
  | videoDetected (hdr : Bool)
  | hdrSkipped
  | blobDestroyFailed (cause : DeviceError)
  | streamEnded (released : Nat)
  | overlayReleased (presented : Nat)
  | overlayStats (presented importFailures commitFailures : Nat) (failed : String) (live : Nat)
  | subsurfaceReady
  | texturesReady (shaderExtensions : List String)
  | partialImageLingers (cause : PresentError)
  | externalImageLingers (cause : PresentError)
  | imageInteropReady
  | staleErrorsDiscarded (count : Nat)
  | deviceOpened (path : String)
  | targetsDiscovered (targets : Targets)
  | propertyMissing (object : ModeObject) (property : String)
  | settingsAbsent (path : String)
  | settingsLoaded (path : String)
  | progress (text : String)
  | displayIdle
  deriving DecidableEq, Repr

namespace Notice

def level : Notice → Level
  | handlesLeaked _ | rollbackFailed _ | disableFailed _ | releaseFailed .. | blobDestroyFailed _
  | partialImageLingers _ | externalImageLingers _ => .error
  | closeFailed .. | modeUnread .. | displayIdle => .warn
  | panelSupportsHdr | overlayReady .. | videoDetected _ | overlayStats .. | imageInteropReady
  | settingsAbsent _ | settingsLoaded _ | progress _ => .info
  | panelMetadataUnread _ | modeChanged .. | hdrSkipped | streamEnded _ | overlayReleased _
  | subsurfaceReady | texturesReady _ | deviceOpened _ | targetsDiscovered _
  | propertyMissing .. => .debug
  | objectImported .. | staleErrorsDiscarded _ => .trace

/-- The part of the program the notice comes from, as log filters name it. -/
def origin : Notice → String
  | objectImported .. | closeFailed .. | rollbackFailed _ | handlesLeaked _ => "presenter::import"
  | panelMetadataUnread _ | panelSupportsHdr | overlayReady .. | modeUnread .. | modeChanged ..
  | disableFailed _ | releaseFailed .. | videoDetected _ | hdrSkipped | blobDestroyFailed _
  | streamEnded _ | overlayReleased _ => "presenter::overlay::plane"
  | overlayStats .. => "presenter::stats"
  | subsurfaceReady => "presenter::overlay::wayland"
  | texturesReady _ | partialImageLingers _ | externalImageLingers _ => "presenter::texture"
  | imageInteropReady | staleErrorsDiscarded _ => "presenter::texture::egl"
  | deviceOpened _ | targetsDiscovered _ | propertyMissing .. => "presenter::display::kms"
  | settingsAbsent _ | settingsLoaded _ => "presenter::config"
  | progress _ | displayIdle => "primeplane"

private def optionalSize : Option Size → String
  | some size => s!"Some({size.fieldText})"
  | none => "None"

def text : Notice → String
  | objectImported object handle => s!"Imported object {object} as GEM handle {handle.id}"
  | closeFailed handle cause => s!"Failed to close GEM handle {handle.id}: {cause.message}"
  | rollbackFailed cause => s!"Failed to roll back partial import: {cause.message}"
  | handlesLeaked count => s!"Leaking {count} GEM handles that were never released"
  | panelMetadataUnread cause => s!"No panel HDR metadata: {cause.message}"
  | panelSupportsHdr => "Panel supports HDR"
  | overlayReady targets commits display =>
    let mode := match display with
      | some size => size.text
      | none => "unknown"
    s!"Video overlay on plane {targets.videoPlane} (CRTC {targets.crtc}, connector " ++
      s!"{targets.connector}), {commits} commits, display {mode}"
  | modeUnread crtc cause => s!"Failed to read mode of CRTC {crtc}: {cause.message}"
  | modeChanged crtc before after =>
    s!"CRTC {crtc} mode changed: {optionalSize before} -> {optionalSize after}"
  | disableFailed cause => s!"Failed to commit disable plane request: {cause.message}"
  | releaseFailed reason cause => s!"Failed to release {reason.text} frame: {cause.message}"
  | videoDetected hdr => if hdr then "Video detected as HDR" else "Video detected as SDR"
  | hdrSkipped => "Legacy plane updates carry no HDR metadata, skipping HDR signalling"
  | blobDestroyFailed cause => s!"Failed to destroy HDR metadata blob: {cause.message}"
  | streamEnded released => s!"End of stream: released {released} frames"
  | overlayReleased presented => s!"Overlay released ({presented} frames presented)"
  | overlayStats presented importFailures commitFailures failed live =>
    s!"Overlay stats: {presented} presented, {importFailures} import failures, " ++
      s!"{commitFailures} commit failures ({failed}% failed), {live} live handles"
  | subsurfaceReady => "Wayland overlay backend initialised (presentation not available)"
  | texturesReady extensions =>
    s!"External texture import ready (shader needs " ++ ", ".intercalate extensions ++ ")"
  | partialImageLingers cause => s!"Failed to destroy partial image: {cause.message}"
  | externalImageLingers cause => s!"Failed to destroy external image: {cause.message}"
  | imageInteropReady => "Using EGL DMA-buf interop"
  | staleErrorsDiscarded count => s!"Discarded {count} pending GL errors before image bind"
  | deviceOpened path => s!"Opened DRM device {path}"
  | targetsDiscovered targets => s!"Discovered overlay targets {targets.fieldText}"
  | propertyMissing object property => s!"{object.text} has no {property} property, skipping"
  | settingsAbsent path => s!"Config file not found at {path}, using defaults"
  | settingsLoaded path => s!"Loaded configuration from {path}"
  | progress text => text
  | displayIdle => "CRTC has no active mode"

/-- Level and text, as in `INFO Panel supports HDR`. -/
def line (n : Notice) : String := s!"{n.level.name} {n.text}"

end Notice

end Scanout
