import Scanout.Overlay.Manager.Present

/-!
# Streams

A stream begins with the first frame that is shown and ends when the caller says so or when the
overlay is released. Its end disables the plane first, then gives up every generation, and last the
metadata.
-/

namespace Scanout.Overlay

open Display

def resetWrites (targets : Targets) : Batch :=
  let plane := ModeObject.plane targets.videoPlane
  let connector := ModeObject.connector targets.connector
  ⟨[⟨plane, Property.eotf, Eotf.traditionalGammaSdr.code.toUInt64⟩,
    ⟨plane, Property.colorSpace, ColorSpace.default.code.toUInt64⟩,
    ⟨connector, Property.hdmiOutputFormat, HdmiFormat.defaultRgb.code.toUInt64⟩,
    ⟨connector, Property.hdrSourceMetadata, 0⟩]⟩

namespace Manager

def drainRing (m : Manager) : Program Manager := do
  let (generations, ring) := m.ring.drain
  Generation.retireAll .drained generations
  return { m with ring, stats := { m.stats with liveHandles := 0 } }

/-- Destroys the stream's metadata blob, if there is one. A failure is only reported. -/
def closeSession (m : Manager) : Program Manager := do
  match m.hdr with
  | none => return m
  | some session =>
    let outcome ← Program.destroyBlob session.blob
    Proc.noticeFailure .blobDestroyFailed outcome
    return { m with hdr := none }

def resetBatch (m : Manager) (batch : Batch) : Batch :=
  match m.config.strategy with
  | .atomic => batch.append (resetWrites m.config.targets)
  | .legacy => batch

def endStream (m : Manager) (batch : Batch) : Program (Manager × Batch) := do
  disablePlane m.config
  let drained := m.ring.size
  let m ← m.drainRing
  let m ← m.closeSession
  Proc.notice (.streamEnded drained)
  return ({ m with stats := { m.stats with drains := m.stats.drains + 1 } }, m.resetBatch batch)

def present (m : Manager) (image : Option Image) (src dst : Rect) (batch : Batch) :
    Program Presentation := do
  match image with
  | some image => presentImage { m with tornDown := false } image src dst batch
  | none =>
    let (m, batch) ← m.endStream batch
    return ⟨m, batch, .ok ()⟩

/-- Releases everything. Doing it again changes nothing and asks the device for nothing until
another image is presented. -/
def uninit (m : Manager) : Program Manager := do
  if m.tornDown then return m
  else
    disablePlane m.config
    let m ← m.drainRing
    let m ← m.closeSession
    Proc.notice (.overlayReleased m.stats.framesPresented)
    return { m with tornDown := true }

/-- Goes out of use. Everything is released, and what would be held after that is lost. -/
def drop (m : Manager) : Program Unit := do
  let m ← m.uninit
  Generation.discardAll m.ring.slots

end Manager

end Scanout.Overlay
