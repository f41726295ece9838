import Scanout.Kernel.PixelFormat
import Scanout.Kernel.Submission

/-!
# The display device on the kernel

Every call on the display device as a program on the kernel. Ids that are zero name nothing, and a
call with one fails before the kernel is asked.
-/

namespace Scanout.Kernel

inductive OpenFailure where
  | node (path : String) (cause : DeviceError)
  | universalPlanes (cause : Errno)
  | atomic (cause : Errno)
  deriving DecidableEq, Repr

def OpenFailure.messages : OpenFailure → List String
  | .node path cause => [s!"Failed to open DRM device {path}", cause.message]
  | .universalPlanes cause => ["Failed to enable universal planes", cause.message]
  | .atomic cause => ["Failed to enable atomic modesetting", cause.message]

/-- Opens a card node. A path with a zero character in it cannot be passed on. -/
def openNode (path : String) : Program (Except DeviceError Unit) := do
  if '\x00' ∈ path.toList then
    return .error (.reported "file name contained an unexpected NUL byte")
  else return (← Program.ask (.openNode path)).mapError .os

namespace Device

/-- Opens a card and asks for what the overlay needs of it. -/
def connect (path : String) (atomic : Bool) : Program (Except OpenFailure Device) := do
  match ← openNode path with
  | .error e => return .error (.node path e)
  | .ok () =>
    match ← Program.ask (.setClientCapability .universalPlanes) with
    | .error e => return .error (.universalPlanes e)
    | .ok _ =>
      let enabled ← if atomic then Program.ask (.setClientCapability .atomic) else pure (.ok ())
      match enabled with
      | .error e => return .error (.atomic e)
      | .ok _ =>
        Proc.notice (.deviceOpened path)
        return .ok { cache := [], reported := [] }

def asked {α : Type} (p : Program (Except Errno α)) : Program (Except DeviceError α) :=
  return (← p).mapError .os

def guarded {α : Type} (kind : IdKind) (id : UInt32) (p : Program (Except DeviceError α)) :
    Program (Except DeviceError α) :=
  if id = 0 then return .error (.invalidId kind id) else p

def supportsPrimeImport : Program (Except Errno Bool) := do
  match ← Program.ask (.capability primeCapability) with
  | .error e => return .error e
  | .ok (directions : UInt64) => return .ok (directions &&& 1 ≠ 0)

/-- The contents of a property's blob. The low half of the value is the blob's id. -/
def propertyBlob (object : ModeObject) (name : String) :
    Program (Except Errno (Option (List UInt8))) := do
  match ← lookupProperty object name with
  | .error e => return .error e
  | .ok none => return .ok none
  | .ok (some entry) =>
    if entry.value = 0 then return .ok none
    else
      match ← Program.ask (.propertyBlob entry.value.toUInt32) with
      | .error e => return .error e
      | .ok (data : List UInt8) => return .ok (if data.isEmpty then none else some data)

def addFramebuffer (layout : Display.FramebufferLayout) :
    Program (Except DeviceError FramebufferId) := do
  if layout.format ∈ knownFormats then
    match ← Program.ask (.addFramebuffer layout) with
    | .error e => return .error (.os e)
    | .ok (id : UInt32) => return .ok ⟨id⟩
  else return .error (.unknownFormat layout.format)

def importPrimeFd (fd : Fd) : Program (Except Errno GemHandle) := do
  match ← Program.ask (.importPrimeFd fd) with
  | .error e => return .error e
  | .ok (id : UInt32) => return .ok ⟨id⟩

def createBlob (data : List UInt8) : Program (Except Errno BlobId) := do
  match ← Program.ask (.createBlob data) with
  | .error e => return .error e
  | .ok (id : UInt32) => return .ok ⟨id⟩

/-- Updates a plane. A framebuffer that is given is looked at first. -/
def setPlane (update : Display.PlaneUpdate) : Program (Except DeviceError Unit) :=
  let submit : Program (Except DeviceError Unit) :=
    guarded .plane update.plane <| guarded .crtc update.crtc <|
      asked (Program.ask (.setPlane update))
  match update.framebuffer with
  | some framebuffer => guarded .framebuffer framebuffer.id submit
  | none => submit

def answer : (r : Display.Request) → Device → Program (Except DeviceError r.Reply × Device)
  | .supportsPrimeImport, d => return (← asked supportsPrimeImport, d)
  | .crtcModeSize crtc, d => return (← guarded .crtc crtc (asked (Program.ask (.crtc crtc))), d)
  | .propertyBlob object name, d =>
    return (← guarded (idKind object) object.id (asked (propertyBlob object name)), d)
  | .importPrimeFd fd, d => return (← asked (importPrimeFd fd), d)
  | .closeHandle handle, d =>
    return (← guarded .gemHandle handle.id (asked (Program.ask (.closeHandle handle.id))), d)
  | .addFramebuffer layout, d => return (← addFramebuffer layout, d)
  | .destroyFramebuffer framebuffer, d =>
    let removal := asked (Program.ask (.removeFramebuffer framebuffer.id))
    return (← guarded .framebuffer framebuffer.id removal, d)
  | .createBlob data, d => return (← asked (createBlob data), d)
  | .destroyBlob blob, d => return (← asked (Program.ask (.destroyBlob blob.id)), d)
  | .setPlane update, d => return (← setPlane update, d)
  | .commit batch nonblock, d => d.commit batch nonblock

def perform {α : Type} (d : Device) (p : Display.Program α) : Program (α × Device) :=
  Proc.translate answer p d

end Device

end Scanout.Kernel
