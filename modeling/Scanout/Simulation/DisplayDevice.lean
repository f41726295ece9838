import Scanout.Display.Device
import Scanout.Simulation.Failures

/-!
# A simulated display device

It numbers everything it makes from one counter, keeps what is alive, and refuses to release what
is not. A planned failure has no effect on what is alive.
-/

namespace Scanout.Simulation

open Display

structure BlobProperty where
  object : ModeObject
  name : String
  data : List UInt8
  deriving DecidableEq, Repr

structure DisplayDevice where
  prime : Bool
  /-- The mode of every CRTC. -/
  mode : Option Size
  properties : List BlobProperty
  lastId : UInt32
  failures : FailurePlan String
  handles : List UInt32
  framebuffers : List UInt32
  blobs : List UInt32

namespace DisplayDevice

def callName : Request → String
  | .supportsPrimeImport => "supports_prime_import"
  | .crtcModeSize _ => "crtc_mode_size"
  | .propertyBlob .. => "property_blob"
  | .importPrimeFd _ => "import_prime_fd"
  | .closeHandle _ => "close_handle"
  | .addFramebuffer _ => "add_framebuffer"
  | .destroyFramebuffer _ => "destroy_framebuffer"
  | .createBlob _ => "create_blob"
  | .destroyBlob _ => "destroy_blob"
  | .setPlane _ => "set_plane"
  | .commit .. => "commit"

private def unknown (what : String) (id : UInt32) : DeviceError :=
  .reported s!"unknown {what} {id}"

def serve : (r : Request) → DisplayDevice → Except DeviceError r.Reply × DisplayDevice
  | .supportsPrimeImport, d => (.ok d.prime, d)
  | .crtcModeSize _, d => (.ok d.mode, d)
  | .propertyBlob object name, d =>
    let found := d.properties.find? fun p => p.object = object && p.name = name
    (.ok (found.map BlobProperty.data), d)
  | .importPrimeFd _, d =>
    let id := d.lastId + 1
    (.ok ⟨id⟩, { d with lastId := id, handles := d.handles ++ [id] })
  | .closeHandle handle, d =>
    if handle.id ∈ d.handles then (.ok (), { d with handles := d.handles.erase handle.id })
    else (.error (unknown "handle" handle.id), d)
  | .addFramebuffer _, d =>
    let id := d.lastId + 1
    (.ok ⟨id⟩, { d with lastId := id, framebuffers := d.framebuffers ++ [id] })
  | .destroyFramebuffer framebuffer, d =>
    if framebuffer.id ∈ d.framebuffers then
      (.ok (), { d with framebuffers := d.framebuffers.erase framebuffer.id })
    else (.error (unknown "framebuffer" framebuffer.id), d)
  | .createBlob _, d =>
    let id := d.lastId + 1
    (.ok ⟨id⟩, { d with lastId := id, blobs := d.blobs ++ [id] })
  | .destroyBlob blob, d =>
    if blob.id ∈ d.blobs then (.ok (), { d with blobs := d.blobs.erase blob.id })
    else (.error (unknown "blob" blob.id), d)
  | .setPlane _, d => (.ok (), d)
  | .commit .., d => (.ok (), d)

def answer (r : Request) (d : DisplayDevice) : Except DeviceError r.Reply × DisplayDevice :=
  let (failure, failures) := d.failures.next (callName r)
  let d := { d with failures }
  match failure with
  | some text => (.error (.reported text), d)
  | none => serve r d

end DisplayDevice

end Scanout.Simulation
