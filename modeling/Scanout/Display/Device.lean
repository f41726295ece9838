import Scanout.Display.Property
import Scanout.Proc

/-!
# The display device

Every call is answered before the next is made. A commit that does not block is answered before
the hardware latches the new state.
-/

namespace Scanout.Display

/-- A framebuffer to make from imported handles; unused places hold no handle and zeros. -/
structure FramebufferLayout where
  size : Size
  format : Fourcc
  handles : Vector (Option GemHandle) maxPlanes
  pitches : Vector UInt32 maxPlanes
  offsets : Vector UInt32 maxPlanes
  deriving DecidableEq, Repr

structure PlacedRect where
  x : Int32
  y : Int32
  w : UInt32
  h : UInt32
  deriving DecidableEq, Repr

/-- What part of a framebuffer is read, in 16.16 fixed point. -/
structure FixedRect where
  x : UInt32
  y : UInt32
  w : UInt32
  h : UInt32
  deriving DecidableEq, Repr

/-- A plane update outside any atomic request; without a framebuffer it disables the plane. -/
structure PlaneUpdate where
  plane : UInt32
  crtc : UInt32
  framebuffer : Option FramebufferId
  crtcRect : PlacedRect
  srcRect : FixedRect
  deriving DecidableEq, Repr

inductive Request where
  | supportsPrimeImport
  | crtcModeSize (crtc : UInt32)
  | propertyBlob (object : ModeObject) (name : String)
  | importPrimeFd (fd : Fd)
  | closeHandle (handle : GemHandle)
  | addFramebuffer (layout : FramebufferLayout)
  | destroyFramebuffer (framebuffer : FramebufferId)
  | createBlob (data : List UInt8)
  | destroyBlob (blob : BlobId)
  | setPlane (update : PlaneUpdate)
  | commit (batch : Batch) (nonblock : Bool)
  deriving DecidableEq

/-- What a successful call yields. The mode of a CRTC that is off and a blob that is absent or
empty are none. -/
abbrev Request.Reply : Request → Type
  | .supportsPrimeImport => Bool
  | .crtcModeSize _ => Option Size
  | .propertyBlob .. => Option (List UInt8)
  | .importPrimeFd _ => GemHandle
  | .addFramebuffer _ => FramebufferId
  | .createBlob _ => BlobId
  | .closeHandle _ | .destroyFramebuffer _ | .destroyBlob _ | .setPlane _ | .commit .. => Unit

abbrev interface : Interface where
  Request := Request
  Answer r := Except DeviceError r.Reply

abbrev Program (α : Type) : Type := Proc interface α

namespace Program

def supportsPrimeImport : Program (Except DeviceError Bool) :=
  Proc.ask (I := interface) Request.supportsPrimeImport

def crtcModeSize (crtc : UInt32) : Program (Except DeviceError (Option Size)) :=
  Proc.ask (I := interface) (Request.crtcModeSize crtc)

def propertyBlob (object : ModeObject) (name : String) :
    Program (Except DeviceError (Option (List UInt8))) :=
  Proc.ask (I := interface) (Request.propertyBlob object name)

def importPrimeFd (fd : Fd) : Program (Except DeviceError GemHandle) :=
  Proc.ask (I := interface) (Request.importPrimeFd fd)

def closeHandle (handle : GemHandle) : Program (Except DeviceError Unit) :=
  Proc.ask (I := interface) (Request.closeHandle handle)

def addFramebuffer (layout : FramebufferLayout) : Program (Except DeviceError FramebufferId) :=
  Proc.ask (I := interface) (Request.addFramebuffer layout)

def destroyFramebuffer (framebuffer : FramebufferId) : Program (Except DeviceError Unit) :=
  Proc.ask (I := interface) (Request.destroyFramebuffer framebuffer)

def createBlob (data : List UInt8) : Program (Except DeviceError BlobId) :=
  Proc.ask (I := interface) (Request.createBlob data)

def destroyBlob (blob : BlobId) : Program (Except DeviceError Unit) :=
  Proc.ask (I := interface) (Request.destroyBlob blob)

def setPlane (update : PlaneUpdate) : Program (Except DeviceError Unit) :=
  Proc.ask (I := interface) (Request.setPlane update)

def commit (batch : Batch) (nonblock : Bool) : Program (Except DeviceError Unit) :=
  Proc.ask (I := interface) (Request.commit batch nonblock)

end Program

end Scanout.Display
