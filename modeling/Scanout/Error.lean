import Scanout.Display.Object
import Scanout.Frame.Format
import Scanout.Geometry.Rect
import Scanout.Kernel.Errno
import Scanout.Text.Quoted

/-!
# Errors

An error is its cause. The kind says which promise of the library was broken, and the message is
made from the cause in one place. A fault is either such an error or something that no caller is
expected to handle: a failure of arithmetic, or a version that cannot be read.
-/

namespace Scanout

/-- Kinds of id a display device checks before it asks the kernel. -/
inductive IdKind where
  | plane
  | crtc
  | connector
  | gemHandle
  | framebuffer
  deriving DecidableEq, Repr

def IdKind.text : IdKind → String
  | .plane => "plane"
  | .crtc => "CRTC"
  | .connector => "connector"
  | .gemHandle => "GEM handle"
  | .framebuffer => "framebuffer"

inductive DeviceError where
  | os (errno : Errno)
  | invalidId (kind : IdKind) (id : UInt32)
  | unknownFormat (format : Fourcc)
  | reported (text : String)
  deriving DecidableEq, Repr

def DeviceError.message : DeviceError → String
  | .os errno => errno.message
  | .invalidId kind id => s!"invalid {kind.text} id {id}"
  | .unknownFormat format =>
    match format.name? with
    | some name => s!"UnrecognizedFourcc({name}, {format.code})"
    | none => s!"UnrecognizedFourcc({format.code})"
  | .reported text => text

inductive ErrorKind where
  | capabilityMissing
  | importing
  | commit
  | teardown
  | invalidFrame
  | unsupported
  | io
  deriving DecidableEq, Repr

def ErrorKind.heading : ErrorKind → String
  | .capabilityMissing => "Capability missing"
  | .importing => "Import failed"
  | .commit => "Commit failed"
  | .teardown => "Teardown error"
  | .invalidFrame => "Invalid frame"
  | .unsupported => "Unsupported"
  | .io => "IO error"

inductive AlignmentRole where
  | origin
  | extent
  deriving DecidableEq, Repr

def AlignmentRole.text : AlignmentRole → String
  | .origin => "origin"
  | .extent => "extent"

/-- Upper bound for objects, layers, and planes of one layer. -/
def maxPlanes : Nat := 4

inductive PresentError where
  | primeQueryFailed (cause : DeviceError)
  | primeUnsupported
  | noCurrentContext
  | noCurrentDisplay
  | extensionQueryFailed (cause : String)
  | extensionsMissing (names : List String)
  | objectImportFailed (object : Nat) (cause : DeviceError)
  | framebufferFailed (size : Size) (cause : DeviceError)
  | textureFailed (cause : String)
  | imageFailed (size : Size) (format : Fourcc)
  | bindFailed (code : UInt32)
  | blobFailed (cause : DeviceError)
  | planeUpdateFailed (plane : UInt32) (framebuffer : UInt32) (cause : DeviceError)
  | framebufferLingers (framebuffer : FramebufferId) (cause : DeviceError)
  | handleLingers (object : Nat) (cause : DeviceError)
  | imageLingers
  | objectCount (count : Nat)
  | layerCount (count : Nat)
  | planeCount (layer count : Nat)
  | danglingObject (layer object count : Nat)
  | missingObject (object : Nat)
  | missingLayer (layer : Nat)
  | layerMissesObject (layer object : Nat)
  | badSource (rect : Rect)
  | badDestination (rect : Rect)
  | sourceTooLarge (rect : Rect)
  | noScanoutFormat (formats : List Fourcc)
  | notPowerOfTwo (role : AlignmentRole) (value : UInt32)
  | unknownStrategy (name : String)
  | subsurfaceUnavailable
  | device (cause : DeviceError)
  | reported (kind : ErrorKind) (text : String)
  deriving DecidableEq, Repr

namespace PresentError

def kind : PresentError → ErrorKind
  | primeQueryFailed _ | primeUnsupported | noCurrentContext | noCurrentDisplay
  | extensionQueryFailed _ | extensionsMissing _ => .capabilityMissing
  | objectImportFailed .. | framebufferFailed .. | textureFailed _ | imageFailed ..
  | bindFailed _ => .importing
  | blobFailed _ | planeUpdateFailed .. => .commit
  | framebufferLingers .. | handleLingers .. | imageLingers => .teardown
  | objectCount _ | layerCount _ | planeCount .. | danglingObject .. | missingObject _
  | missingLayer _ | layerMissesObject .. | badSource _ | badDestination _
  | sourceTooLarge _ => .invalidFrame
  | noScanoutFormat _ | notPowerOfTwo .. | unknownStrategy _
  | subsurfaceUnavailable => .unsupported
  | device _ => .io
  | reported kind _ => kind

def detail : PresentError → String
  | primeQueryFailed cause => s!"prime capability query: {cause.message}"
  | primeUnsupported => "card does not support prime handles"
  | noCurrentContext => "no current EGL context"
  | noCurrentDisplay => "no current EGL display"
  | extensionQueryFailed cause => s!"query EGL extensions: {cause}"
  | extensionsMissing names =>
    "EGL doesn't support the following extensions: " ++ ", ".intercalate names
  | objectImportFailed object cause => s!"prime fd of object {object}: {cause.message}"
  | framebufferFailed size cause => s!"create {size.text} framebuffer: {cause.message}"
  | textureFailed cause => s!"create texture: {cause}"
  | imageFailed size format =>
    s!"eglCreateImageKHR failed for {size.text} fourcc {format.hexText}"
  | bindFailed code => s!"glEGLImageTargetTexture2DOES failed ({Text.hex 4 code.toNat})"
  | blobFailed cause => s!"create HDR metadata blob: {cause.message}"
  | planeUpdateFailed plane framebuffer cause =>
    s!"set plane {plane} (buffer {framebuffer}): {cause.message}"
  | framebufferLingers framebuffer cause =>
    s!"destroy framebuffer {framebuffer.id}: {cause.message}"
  | handleLingers object cause => s!"close handle of object {object}: {cause.message}"
  | imageLingers => "eglDestroyImageKHR failed"
  | objectCount count => s!"{count} objects (expected 1..={maxPlanes})"
  | layerCount count => s!"{count} layers (expected 1..={maxPlanes})"
  | planeCount layer count => s!"layer {layer} has {count} planes"
  | danglingObject layer object count => s!"layer {layer} references object {object} of {count}"
  | missingObject object => s!"plane references missing object {object}"
  | missingLayer layer => s!"frame has no layer {layer}"
  | layerMissesObject layer object => s!"layer {layer} references missing object {object}"
  | badSource rect => s!"bad source rectangle {rect.fieldText}"
  | badDestination rect => s!"bad destination rectangle {rect.fieldText}"
  | sourceTooLarge rect => s!"source rectangle {rect.fieldText} exceeds 16.16 range"
  | noScanoutFormat formats => s!"no scanout format for layers {Fourcc.listText formats}"
  | notPowerOfTwo role value => s!"{role.text} alignment {value} is not a power of two"
  | unknownStrategy name => s!"commit strategy '{name}'"
  | subsurfaceUnavailable => "Wayland subsurface overlay is not implemented"
  | device cause => cause.message
  | reported _ text => text

def message (e : PresentError) : String := s!"{e.kind.heading}: {e.detail}"

end PresentError

/-- How a presentation can end without a result. -/
inductive Fault where
  | arithmetic (fault : ArithmeticFault)
  | refused (error : PresentError)
  /-- The graphics library tells a version in which this stands in place of a number. -/
  | unreadableVersion (text : String)
  deriving DecidableEq, Repr

namespace Fault

def message : Fault → String
  | arithmetic fault => fault.message
  | refused error => error.message
  | unreadableVersion text =>
    "called `Result::unwrap()` on an `Err` value: " ++ Text.quoted text

def ofArithmetic {α : Type} : Except ArithmeticFault α → Except Fault α
  | .ok a => .ok a
  | .error fault => .error (.arithmetic fault)

def ofRefusal {α : Type} : Except PresentError α → Except Fault α
  | .ok a => .ok a
  | .error error => .error (.refused error)

end Fault

end Scanout
