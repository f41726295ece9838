import Scanout.Kernel.Device
import Scanout.Kernel.Discover
import Scanout.Overlay.Manager.Stream
import Scanout.Overlay.Subsurface
import Scanout.Settings.Validate

/-!
# A session

A session takes over the video plane of a display, tells what the display can do, and hands the
plane back. A failure is told with all its causes, the outermost first.
-/

namespace Scanout.Session

open Overlay (Manager)

abbrev Ending : Type := Except (List String) Unit

def opening (s : Settings) : List Notice :=
  let texture := if s.texture.enabled then "enabled" else "disabled"
  [.progress "Starting primeplane v0.1.0", .progress s!"  Device: {s.drm.device}",
    .progress s!"  Commit: {s.drm.commit}", .progress s!"  Overlay backend: {s.overlay.backend}",
    .progress s!"  Texture path: {texture}"]

def displayNotices (m : Manager) : List Notice :=
  let hdr := if m.panel.supportsHdr then "supported" else "not reported"
  [match m.displaySize with
    | some size => .progress s!"Display mode: {size.text}"
    | none => .displayIdle,
    .progress s!"Panel HDR: {hdr}"]

def nowhere : Rect := ⟨0, 0, 0, 0⟩

/-- Submits what the end of the stream wrote, if anything. -/
def submit (strategy : CommitStrategy) (batch : Batch) :
    Display.Program (Except DeviceError Unit) :=
  if strategy = .atomic ∧ !batch.isEmpty then Display.Program.commit batch false
  else return .ok ()

/-- Ends the stream on a plane that was taken over. Whatever comes of it, the plane is released. -/
def handBack (m : Manager) : Display.Program Ending := do
  let ended ← m.present none nowhere nowhere Batch.empty
  match ended.outcome with
  | .error fault =>
    let _ ← ended.manager.uninit
    return .error [fault.message]
  | .ok () =>
    let submitted ← submit m.config.strategy ended.batch
    let _ ← ended.manager.uninit
    match submitted with
    | .error cause => return .error ["Failed to commit end-of-stream request", cause.message]
    | .ok () =>
      Proc.notice (.progress "Overlay plane released")
      return .ok ()

def occupy (config : Overlay.Config) : Display.Program Ending := do
  match ← Manager.create config with
  | .error e => return .error [e.message]
  | .ok manager =>
    Proc.notices (displayNotices manager)
    handBack manager

/-- Presents as a subsurface, which no frame can be shown on yet. -/
def onSubsurface : Kernel.Program Ending := do
  let (overlay, notices) := Overlay.Subsurface.create
  Proc.notices notices
  match overlay.present none Batch.empty with
  | (_, _, .error e) => return .error [e.message]
  | (_, _, .ok ()) =>
    Proc.notice (.progress "Wayland overlay backend is available but cannot present frames yet")
    return .ok ()

def onCard (s : Settings) (strategy : CommitStrategy) : Kernel.Program Ending := do
  match ← Kernel.Device.connect s.drm.device (strategy = .atomic) with
  | .error e => return .error e.messages
  | .ok device =>
    match ← Kernel.discoverTargets with
    | .error e => return .error ("Failed to find a display to present on" :: e.messages)
    | .ok found =>
      match s.overlayConfig found with
      | .error e => return .error [e.message]
      | .ok config =>
        let t := config.targets
        Proc.notice (.progress
          s!"Using connector {t.connector}, CRTC {t.crtc}, plane {t.videoPlane}")
        let (ending, _) ← device.perform (occupy config)
        return ending

def run (s : Settings) : Kernel.Program Ending := do
  Proc.notices (opening s)
  match s.commitStrategy with
  | .error e => return .error [e.message]
  | .ok strategy => if s.overlay.backend = "wayland" then onSubsurface else onCard s strategy

end Scanout.Session
